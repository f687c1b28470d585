import RelayRoster.Roster.Basic

namespace RelayRoster

/-- A sweep so far: how many endpoints were probed and how many probes failed, each endpoint probed
with its result in order, what the probes changed, the connects tried, the time it took, and what
broke it off. -/
structure Sweep where
  probed : Nat := 0
  failed : Nat := 0
  probes : List (Nat × ProbeResult) := []
  edits : List Edit := []
  attempts : List SocketAddress := []
  elapsed : Duration := ⟨0⟩
  breakdown? : Option Breakdown := none

def Sweep.succeeded (s : Sweep) : Nat := s.probed - s.failed

def Sweep.note (s : Sweep) (id : Nat) (p : Probed) : Sweep :=
  { s with
    probed := s.probed + 1
    probes := s.probes ++ [(id, p.result)]
    edits := s.edits ++ p.edits
    attempts := s.attempts ++ p.attempts
    elapsed := ⟨s.elapsed.nanos + p.elapsed.nanos⟩ }

namespace Roster

/-- The endpoint made for an addition is alive. An addition of an address that is taken is ignored. -/
def edit (r : Roster) : Edit → Roster
  | .remove address => (r.deregister address).2
  | .add address => (r.enlist (.rehearsed { address })).2
  | .register id => (r.register id).2

def probe (net : Network) (r : Roster) (id : Nat) : Option Probed × Roster :=
  match r.fleet[id]? with
  | none => (none, r)
  | some e =>
    let p := e.probe net
    let r := { r with fleet := r.fleet.setIfInBounds id p.endpoint }
    (some p, p.edits.foldl edit (r.reportAll p.events))

def settle (r : Roster) (member : String × Nat) (result : Except ProbeFailure Unit) : Roster :=
  let r := match result with
    | .ok () => r.report (.probeSucceeded member.1)
    | .error failure =>
      let r := r.report (.probeFailed member.1 failure)
      { r with metrics := r.metrics.increment (.probeFailures member.1) }
  let (alive, r) := readAlive member.2 r
  { r with metrics := r.metrics.setAlive member.1 alive }

def failures : Except ProbeFailure Unit → Nat
  | .ok () => 0
  | .error _ => 1

/-- Probes the members in order, each once the probes before it are over. A breakdown ends the sweep
at once. -/
def sweepOver (net : Network) : List (String × Nat) → Sweep → Roster → Sweep × Roster
  | [], s, r => (s, r)
  | m :: ms, s, r =>
    match probe (net.later s.elapsed) r m.2 with
    | (none, r) => sweepOver net ms s r
    | (some p, r) =>
      let s := s.note m.2 p
      match p.result with
      | .error b => ({ s with breakdown? := some b }, r)
      | .ok result =>
        sweepOver net ms { s with failed := s.failed + failures result } (settle r m result)

/-- Probes every endpoint that is registered when the sweep starts, in order of address. -/
def sweep (net : Network) (r : Roster) : Sweep × Roster := sweepOver net r.registry.published {} r

end Roster
end RelayRoster
