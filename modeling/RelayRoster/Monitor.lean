import RelayRoster.Roster.Sweep
import RelayRoster.Ticker

namespace RelayRoster

/-- A run of the health monitor: each sweep with the time it started at, and the end of the run. -/
structure Monitoring where
  sweeps : List (Nat × Sweep)
  ended : Nat

namespace Roster

/-- A sweep with a report at its end. The number of the task that it runs in goes into the report of a
breakdown, and into nothing else. -/
def reportedSweep (net : Network) (task : Nat) (r : Roster) : Sweep × Roster :=
  let (s, r) := r.sweep net
  match s.breakdown? with
  | some b => (s, r.report (.sweepBrokeDown task b.message))
  | none =>
    let (alive, r) := r.aliveMembers
    if 0 < s.failed then (s, r.report (.sweepWithFailures s.probed s.failed alive.length))
    else (s, r.report (.sweepFinished s.probed alive.length))

/-- The time between sweeps in nanoseconds. An interval of zero acts as one second. -/
def sweepPeriod (h : HealthSettings) : Nat := max h.interval.toNat 1 * 1000000000

def sweepAtTick (nets : Nat → Network) (lag tasks : Nat → Nat) (now : Nat)
    (s : List (Nat × Sweep) × Roster) : Nat × List (Nat × Sweep) × Roster :=
  let (sweep, r) := s.2.reportedSweep (nets now) (tasks s.1.length)
  (sweep.elapsed.nanos + lag now, (now, sweep) :: s.1, r)

/-- Sweeps at every tick under the network of that time until the stop signal. A sweep begun at a
time keeps the monitor waiting for as long as its probes take and the lag of that time. The sweeps
are tasks with numbers of their own; where nothing else runs, the first is the second task. -/
def monitorFrom (nets : Nat → Network) (h : HealthSettings) (stop : Nat) (coins : List Bool)
    (r : Roster) (lag : Nat → Nat := fun _ => 0) (tasks : Nat → Nat := (· + 2)) :
    Monitoring × Roster :=
  let ticker : Ticker := { period := sweepPeriod h, pos := by unfold sweepPeriod; omega }
  let (run, sweeps, r) := ticker.run (sweepAtTick nets lag tasks) stop coins 0 ([], r)
  (⟨sweeps.reverse, run.ended⟩, r)

def monitor (nets : Nat → Network) (h : HealthSettings) (stop : Nat) (coins : List Bool)
    (r : Roster) (lag : Nat → Nat := fun _ => 0) (tasks : Nat → Nat := (· + 2)) :
    Monitoring × Roster :=
  if h.enabled then
    let r := r.report (.monitorStarted h.interval.toNat h.timeout.toNat)
    let (m, r) := monitorFrom nets h stop coins r lag tasks
    (m, r.report .monitorStopped)
  else (⟨[], 0⟩, r.report .monitorDisabled)

end Roster
end RelayRoster
