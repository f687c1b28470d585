import Mathlib.Data.List.Basic
import RelayRoster.Health

namespace RelayRoster

/-- How many of the latest outcomes are of one kind, the latest outcome coming first. -/
def streak (o : Outcome) (os : List Outcome) : Nat := (os.takeWhile (· = o)).length

/-- What the outcomes so far, the latest first, say of an endpoint. The latest time at which enough
successes or enough failures stood in a row decides. -/
def Health.verdict (healthyAfter unhealthyAfter : Nat) : List Outcome → Health
  | [] => .unknown
  | o :: os =>
    if healthyAfter ≤ streak .success (o :: os) then .healthy
    else if unhealthyAfter ≤ streak .failure (o :: os) then .unhealthy
    else verdict healthyAfter unhealthyAfter os

theorem streak_cons_self (o : Outcome) (os : List Outcome) :
    streak o (o :: os) = streak o os + 1 := by
  simp [streak]

theorem streak_cons_of_ne {o o' : Outcome} (h : o' ≠ o) (os : List Outcome) :
    streak o (o' :: os) = 0 := by
  simp [streak, h]

/-- The latest outcome is of one kind only. -/
theorem streak_eq_zero_or (os : List Outcome) :
    streak .failure os = 0 ∨ streak .success os = 0 := by
  cases os with
  | nil => exact .inl rfl
  | cons o os =>
    cases o with
    | success => exact .inl (streak_cons_of_ne (by decide) os)
    | failure => exact .inr (streak_cons_of_ne (by decide) os)

namespace Health

theorem verdict_success {h u : Nat} (hu : 0 < u) (os : List Outcome) :
    verdict h u (.success :: os) =
      if h ≤ streak .success os + 1 then .healthy else verdict h u os := by
  rw [verdict, streak_cons_self, streak_cons_of_ne (by decide), if_neg (by omega : ¬ u ≤ 0)]

theorem verdict_failure {h u : Nat} (hh : 0 < h) (os : List Outcome) :
    verdict h u (.failure :: os) =
      if u ≤ streak .failure os + 1 then .unhealthy else verdict h u os := by
  rw [verdict, streak_cons_self, streak_cons_of_ne (by decide), if_neg (by omega : ¬ h ≤ 0)]

theorem verdict_of_le_successes {h u : Nat} (hh : 0 < h) {os : List Outcome}
    (hs : h ≤ streak .success os) : verdict h u os = .healthy := by
  cases os with
  | nil => exact absurd hs (by simp [streak]; omega)
  | cons o os => rw [verdict, if_pos hs]

theorem verdict_of_le_failures {h u : Nat} (hh : 0 < h) (hu : 0 < u) {os : List Outcome}
    (hs : u ≤ streak .failure os) : verdict h u os = .unhealthy := by
  cases os with
  | nil => exact absurd hs (by simp [streak]; omega)
  | cons o os =>
    cases o with
    | success =>
      rw [streak_cons_of_ne (by decide)] at hs
      omega
    | failure => rw [verdict_failure hh, if_pos (by rwa [streak_cons_self] at hs)]

end Health

namespace Tracker

/-- A tracker that has seen these outcomes, the latest first. It counts the run at the end of them,
but not one of the kind that its state confirms. -/
structure Follows (t : Tracker) (os : List Outcome) : Prop where
  healthy_pos : 0 < t.healthyThreshold.toNat
  unhealthy_pos : 0 < t.unhealthyThreshold.toNat
  state : t.state = Health.verdict t.healthyThreshold.toNat t.unhealthyThreshold.toNat os
  successes : t.successes.toNat = if t.state = .healthy then 0 else streak .success os
  failures : t.failures.toNat = if t.state = .unhealthy then 0 else streak .failure os

theorem toNat_max_one (n : UInt64) : (max n 1).toNat = max n.toNat 1 := by
  change (if n ≤ 1 then (1 : UInt64) else n).toNat = _
  have h : n ≤ 1 ↔ n.toNat ≤ 1 := UInt64.le_iff_toNat_le
  split
  next hn =>
    have := h.mp hn
    change 1 = _
    omega
  next hn =>
    have := mt h.mpr hn
    omega

/-- To count on from below a word never wraps. -/
theorem toNat_add_one_of_lt {n m : UInt64} (h : n < m) : (n + 1).toNat = n.toNat + 1 := by
  rw [UInt64.lt_iff_toNat_lt] at h
  have := m.toNat_lt
  rw [UInt64.toNat_add]
  change (n.toNat + 1) % 2 ^ 64 = _
  omega

theorem follows_create (h u : UInt64) : (create h u).Follows [] where
  healthy_pos := by
    change 0 < (max h 1).toNat
    rw [toNat_max_one]
    omega
  unhealthy_pos := by
    change 0 < (max u 1).toNat
    rw [toNat_max_one]
    omega
  state := rfl
  successes := rfl
  failures := rfl

namespace Follows

variable {t : Tracker} {os : List Outcome} (h : t.Follows os)
include h

theorem streak_success_lt (hs : t.state ≠ .healthy) :
    streak .success os < t.healthyThreshold.toNat := by
  by_contra hn
  exact hs (h.state.trans (Health.verdict_of_le_successes h.healthy_pos (by omega)))

theorem streak_failure_lt (hs : t.state ≠ .unhealthy) :
    streak .failure os < t.unhealthyThreshold.toNat := by
  by_contra hn
  exact hs (h.state.trans (Health.verdict_of_le_failures h.healthy_pos h.unhealthy_pos (by omega)))

theorem successes_lt : t.successes < t.healthyThreshold := by
  have hc := h.successes
  rw [UInt64.lt_iff_toNat_lt]
  by_cases hs : t.state = .healthy
  · rw [if_pos hs] at hc
    have := h.healthy_pos
    omega
  · rw [if_neg hs] at hc
    have := h.streak_success_lt hs
    omega

theorem failures_lt : t.failures < t.unhealthyThreshold := by
  have hc := h.failures
  rw [UInt64.lt_iff_toNat_lt]
  by_cases hs : t.state = .unhealthy
  · rw [if_pos hs] at hc
    have := h.unhealthy_pos
    omega
  · rw [if_neg hs] at hc
    have := h.streak_failure_lt hs
    omega

/-- An outcome clears the counter of the other kind, so that never both of them count. -/
theorem failures_eq_zero_or : t.failures = 0 ∨ t.successes = 0 := by
  have hf := h.failures
  have hs := h.successes
  simp only [← UInt64.toNat_inj, UInt64.toNat_zero]
  rcases streak_eq_zero_or os with hz | hz
  · rw [hz, ite_self] at hf
    exact .inl hf
  · rw [hz, ite_self] at hs
    exact .inr hs

theorem successes_add_one (hs : t.state ≠ .healthy) :
    (t.successes + 1).toNat = streak .success os + 1 := by
  rw [toNat_add_one_of_lt h.successes_lt, h.successes, if_neg hs]

theorem failures_add_one (hs : t.state ≠ .unhealthy) :
    (t.failures + 1).toNat = streak .failure os + 1 := by
  rw [toNat_add_one_of_lt h.failures_lt, h.failures, if_neg hs]

theorem success : t.success.2.Follows (.success :: os) := by
  have hf : streak .failure (.success :: os) = 0 := streak_cons_of_ne (by decide) os
  unfold Tracker.success
  dsimp only
  by_cases hs : t.state = .healthy
  · -- A healthy endpoint counts no successes, and one more changes nothing.
    rw [if_pos hs]
    refine ⟨h.healthy_pos, h.unhealthy_pos, ?_, ?_, ?_⟩
    · rw [Health.verdict_success h.unhealthy_pos, ← h.state, hs, ite_self]
    · have hc := h.successes
      rw [if_pos hs] at hc
      rw [if_pos hs, hc]
    · rw [hf, ite_self]
      rfl
  · rw [if_neg hs]
    have hc := h.successes_add_one hs
    by_cases hle : t.healthyThreshold ≤ t.successes + 1
    · rw [if_pos hle]
      rw [UInt64.le_iff_toNat_le, hc] at hle
      refine ⟨h.healthy_pos, h.unhealthy_pos, ?_, rfl, ?_⟩
      · rw [Health.verdict_success h.unhealthy_pos, if_pos hle]
      · rw [hf, ite_self]
        rfl
    · rw [if_neg hle]
      rw [UInt64.le_iff_toNat_le, hc] at hle
      refine ⟨h.healthy_pos, h.unhealthy_pos, ?_, ?_, ?_⟩
      · rw [Health.verdict_success h.unhealthy_pos, if_neg hle]
        exact h.state
      · rw [if_neg hs, streak_cons_self]
        exact hc
      · rw [hf, ite_self]
        rfl

theorem failure : t.failure.2.Follows (.failure :: os) := by
  have hf : streak .success (.failure :: os) = 0 := streak_cons_of_ne (by decide) os
  unfold Tracker.failure
  dsimp only
  by_cases hs : t.state = .unhealthy
  · -- Likewise for the failures of an unhealthy one.
    rw [if_pos hs]
    refine ⟨h.healthy_pos, h.unhealthy_pos, ?_, ?_, ?_⟩
    · rw [Health.verdict_failure h.healthy_pos, ← h.state, hs, ite_self]
    · rw [hf, ite_self]
      rfl
    · have hc := h.failures
      rw [if_pos hs] at hc
      rw [if_pos hs, hc]
  · rw [if_neg hs]
    have hc := h.failures_add_one hs
    by_cases hle : t.unhealthyThreshold ≤ t.failures + 1
    · rw [if_pos hle]
      rw [UInt64.le_iff_toNat_le, hc] at hle
      refine ⟨h.healthy_pos, h.unhealthy_pos, ?_, ?_, rfl⟩
      · rw [Health.verdict_failure h.healthy_pos, if_pos hle]
      · rw [hf, ite_self]
        rfl
    · rw [if_neg hle]
      rw [UInt64.le_iff_toNat_le, hc] at hle
      refine ⟨h.healthy_pos, h.unhealthy_pos, ?_, ?_, ?_⟩
      · rw [Health.verdict_failure h.healthy_pos, if_neg hle]
        exact h.state
      · rw [hf, ite_self]
        rfl
      · rw [if_neg hs, streak_cons_self]
        exact hc

theorem record (o : Outcome) : (t.record o).2.Follows (o :: os) := by
  cases o with
  | success => exact h.success
  | failure => exact h.failure

end Follows

/-- The tracker after some more outcomes, the first of them coming first. -/
def after (t : Tracker) (os : List Outcome) : Tracker := os.foldl (fun t o => (t.record o).2) t

theorem after_append (t : Tracker) (os os' : List Outcome) :
    t.after (os ++ os') = (t.after os).after os' := List.foldl_append

theorem record_thresholds (t : Tracker) (o : Outcome) :
    (t.record o).2.healthyThreshold = t.healthyThreshold ∧
      (t.record o).2.unhealthyThreshold = t.unhealthyThreshold := by
  cases o with
  | success =>
    change t.success.2.healthyThreshold = _ ∧ t.success.2.unhealthyThreshold = _
    unfold success
    dsimp only
    split
    · exact ⟨rfl, rfl⟩
    · split <;> exact ⟨rfl, rfl⟩
  | failure =>
    change t.failure.2.healthyThreshold = _ ∧ t.failure.2.unhealthyThreshold = _
    unfold failure
    dsimp only
    split
    · exact ⟨rfl, rfl⟩
    · split <;> exact ⟨rfl, rfl⟩

theorem after_thresholds (t : Tracker) (os : List Outcome) :
    (t.after os).healthyThreshold = t.healthyThreshold ∧
      (t.after os).unhealthyThreshold = t.unhealthyThreshold := by
  induction os generalizing t with
  | nil => exact ⟨rfl, rfl⟩
  | cons o os ih =>
    obtain ⟨hh, hu⟩ := record_thresholds t o
    obtain ⟨hh', hu'⟩ := ih (t.record o).2
    exact ⟨hh'.trans hh, hu'.trans hu⟩

theorem Follows.after {t : Tracker} {os : List Outcome} (h : t.Follows os) (later : List Outcome) :
    (t.after later).Follows (later.reverse ++ os) := by
  induction later generalizing t os with
  | nil => exact h
  | cons o later ih =>
    rw [List.reverse_cons, List.append_assoc]
    exact ih (h.record o)

/-- A new tracker comes to the verdict on what it has seen. -/
theorem state_after_create (healthy unhealthy : UInt64) (os : List Outcome) :
    ((create healthy unhealthy).after os).state =
      Health.verdict (max healthy.toNat 1) (max unhealthy.toNat 1) os.reverse := by
  have h := ((follows_create healthy unhealthy).after os).state
  obtain ⟨hh, hu⟩ := after_thresholds (create healthy unhealthy) os
  rw [hh, hu, List.append_nil] at h
  rw [h, ← toNat_max_one, ← toNat_max_one]
  rfl

end Tracker
end RelayRoster
