import RelayRoster.Monitor
import RelayRoster.Proofs.Pace
import RelayRoster.Proofs.Selection

namespace RelayRoster

namespace Roster

/-- A report on a sweep changes no more than asking who is alive does. -/
theorem alike_reportedSweep (net : Network) (task : Nat) (r : Roster) :
    Alike (r.sweep net).2 (reportedSweep net task r).2 := by
  unfold reportedSweep
  dsimp only
  split
  · exact ⟨rfl, rfl, rfl⟩
  · have ha := alike_aliveMembers (r.sweep net).2
    split
    · exact ha.trans ⟨rfl, rfl, rfl⟩
    · exact ha.trans ⟨rfl, rfl, rfl⟩

/-- Sweeps begun at these times one after the other, each run to its end and reported, with the number
of the first among all sweeps. -/
def sweepsAt (nets : Nat → Network) (tasks : Nat → Nat) :
    Nat → List Nat → Roster → List (Nat × Sweep) × Roster
  | _, [], r => ([], r)
  | k, time :: times, r =>
    let (sweep, r) := r.reportedSweep (nets time) (tasks k)
    let (sweeps, r) := sweepsAt nets tasks (k + 1) times r
    ((time, sweep) :: sweeps, r)

end Roster

namespace Monitoring

def span (lag : Nat → Nat) (x : Nat × Sweep) : Nat × Nat :=
  (x.1, x.1 + (x.2.elapsed.nanos + lag x.1))

end Monitoring

namespace Roster
open Monitoring

variable (nets : Nat → Network) (lag tasks : Nat → Nat)

/-- The steps that a ticker drives are sweeps, and nothing comes in between. -/
theorem run_sweepAtTick (stop : Nat) (coins : List Bool) (t : Ticker) (now : Nat)
    (s : List (Nat × Sweep) × Roster) :
    ∃ sweeps, (t.run (sweepAtTick nets lag tasks) stop coins now s).2.1 = sweeps.reverse ++ s.1 ∧
      (t.run (sweepAtTick nets lag tasks) stop coins now s).1.steps = sweeps.map (span lag) ∧
      sweepsAt nets tasks s.1.length (sweeps.map (·.1)) s.2 =
        (sweeps, (t.run (sweepAtTick nets lag tasks) stop coins now s).2.2) := by
  refine Ticker.run_induct (P := fun _ _ s res => ∃ sweeps, res.2.1 = sweeps.reverse ++ s.1 ∧
    res.1.steps = sweeps.map (span lag) ∧
    sweepsAt nets tasks s.1.length (sweeps.map (·.1)) s.2 = (sweeps, res.2.2)) ?_ ?_ coins t now s
  · intro t now s _
    exact ⟨[], rfl, rfl, rfl⟩
  · intro t now s duration s' R s'' _ hs ih
    obtain ⟨sweeps, hlist, hsteps, hrest⟩ := ih
    unfold sweepAtTick at hs
    dsimp only at hs
    cases hs
    refine ⟨(max now t.due, (s.2.reportedSweep (nets (max now t.due)) (tasks s.1.length)).1) ::
      sweeps, ?_, ?_, ?_⟩
    · rw [hlist, List.reverse_cons, List.append_assoc]
      rfl
    · dsimp only
      rw [hsteps]
      rfl
    · rw [List.map_cons]
      unfold sweepsAt
      dsimp only at hrest ⊢
      rw [List.length_cons] at hrest
      rw [hrest]

/-- The sweeps of a monitor that is enabled are the steps of a loop over a ticker. -/
theorem exists_paced_sweeps {h : HealthSettings} (he : h.enabled = true) (stop : Nat)
    (coins : List Bool) (r : Roster) :
    ∃ sweeps ended r',
      r.monitor nets h stop coins lag tasks = (⟨sweeps, ended⟩, r'.report .monitorStopped) ∧
      sweepsAt nets tasks 0 (sweeps.map (·.1))
        (r.report (.monitorStarted h.interval.toNat h.timeout.toNat)) = (sweeps, r') ∧
      Ticker.Paced (sweepPeriod h) stop 0 0 ⟨sweeps.map (span lag), ended⟩ := by
  let r₀ := r.report (.monitorStarted h.interval.toNat h.timeout.toNat)
  have hp : 0 < sweepPeriod h := by
    unfold sweepPeriod
    omega
  have ht : Ticker.tolerance < sweepPeriod h := by
    unfold Ticker.tolerance sweepPeriod
    omega
  let t : Ticker := ⟨sweepPeriod h, 0, hp⟩
  obtain ⟨sweeps, hlist, hsteps, hat⟩ := run_sweepAtTick nets lag tasks stop coins t 0 ([], r₀)
  have hpaced : Ticker.Paced (sweepPeriod h) stop 0 0 _ :=
    Ticker.run_paced (sweepAtTick nets lag tasks) stop coins t 0 ([], r₀) ht (Nat.dvd_zero _)
  refine ⟨sweeps, (t.run (sweepAtTick nets lag tasks) stop coins 0 ([], r₀)).1.ended, _, ?_, hat, ?_⟩
  · -- The loop keeps its latest sweep in front.
    have hsweeps : (t.run (sweepAtTick nets lag tasks) stop coins 0 ([], r₀)).2.1.reverse =
        sweeps := by
      rw [hlist, List.append_nil, List.reverse_reverse]
    rw [← hsweeps]
    unfold monitor
    rw [if_pos he]
    rfl
  · rw [← hsteps]
    exact hpaced

/-- A monitor that is disabled does nothing. Otherwise its sweeps come one after the other, each run
to its end: the first at once, and each further one at the first multiple of the period after the
beginning of the one before, or at the end of that one if it is later. Missed ticks are not made up
for, so up to any time there are no more sweeps than ticks. Whatever comes of a sweep, the next one
follows, until the signal comes and the sweep under way is over. -/
theorem monitor_keeps_pace (h : HealthSettings) (stop : Nat) (coins : List Bool) (r : Roster) :
    let period := max h.interval.toNat 1 * 1000000000
    (h.enabled = false →
      r.monitor nets h stop coins lag tasks = (⟨[], 0⟩, r.report .monitorDisabled)) ∧
    (h.enabled = true → ∃ m r',
      r.monitor nets h stop coins lag tasks = (m, r'.report .monitorStopped) ∧
      sweepsAt nets tasks 0 (m.sweeps.map (·.1))
        (r.report (.monitorStarted h.interval.toNat h.timeout.toNat)) = (m.sweeps, r') ∧
      (0 < stop → ∃ w, m.sweeps[0]? = some (0, w)) ∧
      (∀ k x, m.sweeps[k]? = some x → Ticker.nextStart period (span lag x) < stop →
        ∃ w, m.sweeps[k + 1]? = some (Ticker.nextStart period (span lag x), w)) ∧
      m.sweeps.Pairwise (fun x y => (span lag x).2 ≤ y.1) ∧
      (∀ k x, m.sweeps[k]? = some x → k * period ≤ x.1) ∧
      (∀ time, (m.sweeps.filter (·.1 ≤ time)).length ≤ time / period + 1) ∧
      (∀ x ∈ m.sweeps, (span lag x).2 ≤ m.ended) ∧
      m.ended = max stop ((m.sweeps.getLast?.map fun x => (span lag x).2).getD 0)) := by
  intro period
  have hp : 0 < period := by omega
  constructor
  · intro hd
    unfold monitor
    rw [if_neg (by simp [hd])]
  · intro he
    obtain ⟨sweeps, ended, r', hm, hat, hpaced⟩ := exists_paced_sweeps nets lag tasks he stop coins r
    have hstep {k : Nat} {x : Nat × Sweep} (hx : sweeps[k]? = some x) :
        (sweeps.map (span lag))[k]? = some (span lag x) := by
      rw [List.getElem?_map, hx]
      rfl
    have hsweep {k time : Nat} {y : Nat × Nat} (hy : (sweeps.map (span lag))[k]? = some y)
        (htime : y.1 = time) : ∃ w, sweeps[k]? = some (time, w) := by
      rw [List.getElem?_map, Option.map_eq_some_iff] at hy
      obtain ⟨⟨time', w⟩, hw, rfl⟩ := hy
      exact ⟨w, hw.trans (congrArg (fun time => some (time, w)) htime)⟩
    refine ⟨⟨sweeps, ended⟩, r', hm, hat, fun hs => ?_, fun k x hx hs => ?_, ?_, fun k x hx => ?_,
      fun time => ?_, fun x hx => ?_, ?_⟩
    · obtain ⟨y, hy, hfirst⟩ := hpaced.exists_first hs
      exact hsweep hy hfirst
    · obtain ⟨y, hy, hnext⟩ := hpaced.exists_next (hstep hx) hs
      exact hsweep hy hnext
    · exact (List.pairwise_map.mp (hpaced.pairwise hp)).imp fun hxy => hxy.2.1
    · exact (Nat.le_div_iff_mul_le hp).mp (hpaced.le_div hp (hstep hx))
    · have hlen := hpaced.length_filter_le hp time
      rwa [List.filter_map, List.length_map] at hlen
    · exact hpaced.ends_le_ended hp (List.mem_map_of_mem hx)
    · have hended := hpaced.ended
      rw [List.getLast?_map, Option.map_map] at hended
      exact hended

def brittle : Roster :=
  (({} : Roster).enlist (.rehearsed { address := "a:1", probeScript := [{ take := .breakdown }] })).2

def slowStart (time : Nat) : Nat := if time = 0 then 2500000000 else 0

/-- A sweep that breaks down and takes two and a half periods is followed by one at its end. -/
theorem monitor_keeps_pace_of_breakdown :
    ∃ m r', brittle.monitor (fun _ => {}) { interval := 1 } 2700000000 [] slowStart = (m, r') ∧
      m.sweeps.map (fun x => (x.1, x.2.breakdown?)) =
        [(0, some .rehearsed), (2500000000, none)] ∧
      m.ended = 2700000000 ∧
      ∀ time, (m.sweeps.filter (·.1 ≤ time)).length ≤ time / 1000000000 + 1 := by
  obtain ⟨m, r', hm, -, -, -, -, -, hcount, -, -⟩ :=
    (monitor_keeps_pace (fun _ => {}) slowStart (· + 2) { interval := 1 } 2700000000 []
      brittle).2 rfl
  have hrun := congrArg Prod.fst hm
  dsimp only at hrun
  refine ⟨m, _, hm, ?_, ?_, hcount⟩
  · rw [← hrun]
    cbv
  · rw [← hrun]
    cbv

end Roster
end RelayRoster
