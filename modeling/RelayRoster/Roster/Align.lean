import RelayRoster.Roster.Basic

namespace RelayRoster

structure Changes where
  added : List String := []
  removed : List String := []
  deriving DecidableEq, Repr

def Changes.isEmpty (c : Changes) : Bool := c.added.isEmpty && c.removed.isEmpty

namespace Roster

def removeUnwanted (wanted : List String) : List String → Roster → List String × Roster
  | [], r => ([], r)
  | a :: rest, r =>
    if wanted.contains a then removeUnwanted wanted rest r
    else
      let (gone, r) := r.deregister a
      let (removed, r) := removeUnwanted wanted rest r
      (if gone then a :: removed else removed, r)

def addMissing (health : HealthSettings) : List String → Roster → List String × Roster
  | [], r => ([], r)
  | a :: rest, r =>
    if r.registry.contains a then addMissing health rest r
    else
      let (done, r) := r.enlist (.relay (.ofSettings health a))
      let r := if done then r else r.report (.endpointSkipped (takenMessage a))
      let (added, r) := addMissing health rest r
      (if done then a :: added else added, r)

/-- Brings the registered addresses in line with the settings. An endpoint whose address stays is
left alone, and the added ones take the health settings given now. -/
def align (s : Settings) (r : Roster) : Changes × Roster :=
  let (removed, r) := removeUnwanted s.endpoints r.registry.addresses r
  let (added, r) := addMissing s.health s.endpoints r
  (⟨added, removed⟩,
    r.report (.aligned added.length removed.length r.registry.size))

/-- Registers a relay for each address in order, up to one that is taken. -/
def enlistAll (health : HealthSettings) : List String → Roster → Option String × Roster
  | [], r => (none, r)
  | a :: rest, r =>
    match r.enlist (.relay (.ofSettings health a)) with
    | (true, r) => enlistAll health rest r
    | (false, r) => (some a, r)

/-- Starts over with a relay per configured address and the rotation at its beginning. An address
listed twice is returned as the one that is taken, and the registry stays as it was. -/
def build (s : Settings) (r : Roster) : Except String Unit × Roster :=
  match enlistAll s.health s.endpoints { r with registry := {}, rotation := {} } with
  | (none, built) => (.ok (), built.report (.rosterBuilt built.registry.size))
  | (some a, built) => (.error a, { built with registry := r.registry, rotation := r.rotation })

end Roster
end RelayRoster
