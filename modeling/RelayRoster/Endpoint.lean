import RelayRoster.Event.Basic
import RelayRoster.Probe.Dial
import RelayRoster.Settings.Basic

namespace RelayRoster

structure Relay where
  address : String
  timeout : Duration
  tracker : Tracker
  deriving DecidableEq, Repr

def Relay.ofSettings (health : HealthSettings) (address : String) : Relay where
  address
  timeout := .ofSeconds health.timeout.toNat
  tracker := .create health.healthyThreshold.toUInt64 health.unhealthyThreshold.toUInt64

inductive Take where
  | ok
  | unreachable
  | timeout
  | lookup
  | failed (failure : ProbeFailure)
  | breakdown
  | collapse
  deriving DecidableEq, Repr

/-- A change that a rehearsed probe makes to the roster being swept: it removes an address, makes and
adds an endpoint, or adds one that was made before. -/
inductive Edit where
  | remove (address : String)
  | add (address : String)
  | register (id : Nat)
  deriving DecidableEq, Repr

/-- One rehearsed probe: how it turns out, whether the endpoint is alive afterwards if that differs
from the outcome, and what it changes. A breakdown comes before the changes, a collapse after them. -/
structure Cue where
  take : Take
  alive? : Option Bool := none
  edits : List Edit := []
  deriving DecidableEq, Repr

/-- An endpoint that acts by script, for trying out a roster without a network. It answers from the
scripts as long as they last. -/
structure Rehearsed where
  address : String
  alive : Bool := true
  probeOk : Bool := true
  aliveScript : List Bool := []
  probeScript : List Cue := []
  probes : Nat := 0
  deriving DecidableEq, Repr

inductive Endpoint where
  | relay (r : Relay)
  | rehearsed (r : Rehearsed)
  deriving DecidableEq, Repr

structure Probed where
  result : ProbeResult
  endpoint : Endpoint
  events : List Event := []
  attempts : List SocketAddress := []
  edits : List Edit := []
  elapsed : Duration := ⟨0⟩

namespace Relay

def changeEvent (address : String) : Option Health → List Event
  | some state => [.healthChanged address state]
  | none => []

/-- A probe dials the address and records the outcome. One whose limit overflows the clock breaks
down before it does anything. -/
def probe (net : Network) (r : Relay) : Probed :=
  if net.clockOverflows r.timeout then
    { result := .error .clockOverflow, endpoint := .relay r }
  else
    let d := Dial.run net r.address r.timeout
    let (outcome, result) : Outcome × Except ProbeFailure Unit := match d.result with
      | .ok () => (.success, .ok ())
      | .error cause => (.failure, .error ⟨r.address, cause⟩)
    let (change, tracker) := r.tracker.record outcome
    { result := .ok result
      endpoint := .relay { r with tracker }
      events := d.refused.map (fun (peer, e) => .connectFailed peer e) ++ changeEvent r.address change
      attempts := d.attempts
      elapsed := d.elapsed }

end Relay

namespace Rehearsed

def readAlive (r : Rehearsed) : Bool × Rehearsed :=
  match r.aliveScript with
  | [] => (r.alive, r)
  | a :: rest => (a, { r with aliveScript := rest })

def nextCue (r : Rehearsed) : Cue × Rehearsed :=
  match r.probeScript with
  | [] => (⟨if r.probeOk then .ok else .unreachable, none, []⟩, r)
  | cue :: rest => (cue, { r with probeScript := rest })

def takeResult (address : String) : Take → ProbeResult
  | .ok => .ok (.ok ())
  | .unreachable => .ok (.error ⟨address, .unreachable (.other "scripted refused")⟩)
  | .timeout => .ok (.error ⟨address, .timeout (.ofMillis 1500)⟩)
  | .lookup => .ok (.error ⟨address, .lookup (.other "scripted lookup")⟩)
  | .failed failure => .ok (.error failure)
  | .breakdown | .collapse => .error .rehearsed

def probe (r : Rehearsed) : Probed :=
  let (cue, r) := { r with probes := r.probes + 1 }.nextCue
  match cue.take with
  | .breakdown => { result := takeResult r.address .breakdown, endpoint := .rehearsed r }
  | take =>
    { result := takeResult r.address take
      endpoint := .rehearsed { r with alive := cue.alive?.getD (take = .ok) }
      edits := cue.edits }

end Rehearsed

namespace Endpoint

def address : Endpoint → String
  | .relay r => r.address
  | .rehearsed r => r.address

/-- Whether the endpoint is alive, and the endpoint after it has been asked. -/
def readAlive : Endpoint → Bool × Endpoint
  | .relay r => (r.tracker.isAlive, .relay r)
  | .rehearsed r => let (a, r) := r.readAlive; (a, .rehearsed r)

def probe (net : Network) : Endpoint → Probed
  | .relay r => r.probe net
  | .rehearsed r => r.probe

theorem address_readAlive (e : Endpoint) : e.readAlive.2.address = e.address := by
  cases e with
  | relay r => rfl
  | rehearsed r =>
    change r.readAlive.2.address = r.address
    unfold Rehearsed.readAlive
    split <;> rfl

theorem address_probe (net : Network) (e : Endpoint) :
    (e.probe net).endpoint.address = e.address := by
  cases e with
  | relay r =>
    change (r.probe net).endpoint.address = r.address
    unfold Relay.probe
    split <;> rfl
  | rehearsed r =>
    have h (r : Rehearsed) : r.nextCue.2.address = r.address := by
      unfold Rehearsed.nextCue; split <;> rfl
    change r.probe.endpoint.address = r.address
    unfold Rehearsed.probe
    dsimp only
    split <;> exact h _

end Endpoint
end RelayRoster
