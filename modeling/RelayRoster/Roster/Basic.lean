import RelayRoster.Endpoint
import RelayRoster.Metrics
import RelayRoster.Roster.Registry
import RelayRoster.Rotation

namespace RelayRoster

/-- The endpoints ever made, each under its number, which of them are registered, whose turn it is,
and what was measured and reported. The newest event comes first. -/
structure Roster where
  fleet : Array Endpoint := #[]
  registry : Registry := {}
  rotation : Rotation := {}
  metrics : Metrics := {}
  journal : List Event := []

namespace Roster

def report (r : Roster) (e : Event) : Roster := { r with journal := e :: r.journal }

def reportAll (r : Roster) (es : List Event) : Roster :=
  { r with journal := es.reverse ++ r.journal }

def make (r : Roster) (e : Endpoint) : Nat × Roster :=
  (r.fleet.size, { r with fleet := r.fleet.push e })

def readAlive (id : Nat) (r : Roster) : Bool × Roster :=
  match r.fleet[id]? with
  | some e => let (a, e) := e.readAlive; (a, { r with fleet := r.fleet.setIfInBounds id e })
  | none => (false, r)

def takenMessage (address : String) : String := address ++ " is already registered, remove it first"

def register (r : Roster) (id : Nat) : Bool × Roster :=
  match r.fleet[id]? with
  | none => (false, r)
  | some e =>
    if r.registry.taken e.address then (false, r)
    else
      let registry := r.registry.insert e.address id
      let metrics := r.metrics.set .endpoints registry.entries.length
      let r := { r with registry, metrics }
      (true, r.report (.endpointAdded e.address registry.entries.length))

def enlist (r : Roster) (e : Endpoint) : Bool × Roster :=
  let (id, r) := r.make e
  r.register id

def deregister (r : Roster) (address : String) : Bool × Roster :=
  if r.registry.taken address then
    let registry := r.registry.erase address
    let metrics := (r.metrics.set .endpoints registry.entries.length).setAlive address false
    let r := { r with registry, metrics }
    (true, r.report (.endpointRemoved address registry.entries.length))
  else (false, r)

/-- The members among `members` that say they are alive, each asked once in order. -/
def aliveAmong : List (String × Nat) → Roster → List (String × Nat) × Roster
  | [], r => ([], r)
  | m :: ms, r =>
    let (a, r) := readAlive m.2 r
    let (rest, r) := aliveAmong ms r
    (if a then m :: rest else rest, r)

def aliveMembers (r : Roster) : List (String × Nat) × Roster := aliveAmong r.registry.published r

/-- Selects the next endpoint in rotation. Those that say they are alive are asked again in turn,
and the first that still is gets chosen. -/
def select (r : Roster) : Option (String × Nat) × Roster :=
  let (alive, r) := r.aliveMembers
  let r := r.report (.endpointsFound alive.length)
  let ask (i : Nat) (r : Roster) := readAlive ((alive[i]?.map (·.2)).getD 0) r
  let (choice, rotation, r) := Rotation.pick ask alive.length r.rotation r
  let r := { r with rotation }
  match choice.bind (alive[·]?) with
  | some m => (some m, { r with metrics := r.metrics.increment (.selections m.1) })
  | none =>
    let r := r.report (.noneAvailable r.registry.size)
    (none, { r with metrics := r.metrics.increment .unavailable })

end Roster
end RelayRoster
