import Mathlib
import RelayRoster.Proofs.Hysteresis

namespace RelayRoster

namespace Health

def rank : Health → Nat
  | .unhealthy => 0
  | .unknown => 1
  | .healthy => 2

theorem rank_le_healthy (s : Health) : s.rank ≤ healthy.rank := by
  cases s <;> decide

theorem rank_eq_zero_iff {s : Health} : s.rank = 0 ↔ s = .unhealthy := by
  cases s <;> decide

/-- With more successes asked for, or fewer failures, the same outcomes never lead to a better
verdict. -/
theorem rank_verdict_le {h h' u u' : Nat} (hh : h ≤ h') (hu : u' ≤ u) (os : List Outcome) :
    (verdict h' u' os).rank ≤ (verdict h u os).rank := by
  induction os with
  | nil => exact le_rfl
  | cons o os ih =>
    -- The newest outcome decides for both, for the one that it favours, or for neither.
    rw [verdict, verdict]
    by_cases hs : h ≤ streak .success (o :: os)
    · rw [if_pos hs]
      exact rank_le_healthy _
    · rw [if_neg hs, if_neg (by omega : ¬ h' ≤ streak .success (o :: os))]
      by_cases hf : u' ≤ streak .failure (o :: os)
      · rw [if_pos hf]
        exact Nat.zero_le _
      · rw [if_neg hf, if_neg (by omega : ¬ u ≤ streak .failure (o :: os))]
        exact ih

end Health

namespace Tracker

section

variable {healthy healthy' unhealthy unhealthy' : UInt64}

theorem rank_after_create_le (hh : healthy ≤ healthy') (hu : unhealthy' ≤ unhealthy)
    (os : List Outcome) :
    ((create healthy' unhealthy').after os).state.rank ≤
      ((create healthy unhealthy).after os).state.rank := by
  rw [UInt64.le_iff_toNat_le] at hh hu
  rw [state_after_create, state_after_create]
  apply Health.rank_verdict_le
  · omega
  · omega

theorem unhealthy_after_create (hh : healthy ≤ healthy') (hu : unhealthy' ≤ unhealthy)
    {os : List Outcome} (h : ((create healthy unhealthy).after os).state = .unhealthy) :
    ((create healthy' unhealthy').after os).state = .unhealthy := by
  have := rank_after_create_le hh hu os
  rw [← Health.rank_eq_zero_iff] at h ⊢
  omega

end

theorem isAlive_iff (t : Tracker) : t.isAlive = true ↔ t.state ≠ .unhealthy := by
  simp [isAlive]

/-- Wherever a run has got to, an endpoint that is taken to be unhealthy would be so too if fewer
failures or more successes were asked for. So to ask for more failures takes none out that would be
in, and to ask for more successes brings none back that would still be out. -/
theorem unhealthy_monotone {healthy healthy' unhealthy unhealthy' : UInt64}
    (hh : healthy ≤ healthy') (hu : unhealthy ≤ unhealthy') (os : List Outcome) :
    (((create healthy unhealthy').after os).state = .unhealthy →
        ((create healthy unhealthy).after os).state = .unhealthy) ∧
      (((create healthy unhealthy).after os).state = .unhealthy →
        ((create healthy' unhealthy).after os).state = .unhealthy) ∧
      (((create healthy unhealthy).after os).isAlive = true →
        ((create healthy unhealthy').after os).isAlive = true) ∧
      (((create healthy' unhealthy).after os).isAlive = true →
        ((create healthy unhealthy).after os).isAlive = true) := by
  have hfewer : ((create healthy unhealthy').after os).state = .unhealthy →
      ((create healthy unhealthy).after os).state = .unhealthy :=
    unhealthy_after_create (UInt64.le_refl healthy) hu
  have hmore : ((create healthy unhealthy).after os).state = .unhealthy →
      ((create healthy' unhealthy).after os).state = .unhealthy :=
    unhealthy_after_create hh (UInt64.le_refl unhealthy)
  simp only [isAlive_iff]
  exact ⟨hfewer, hmore, mt hfewer, mt hmore⟩

/-- Two failures and a success: out, and where fewer failures or more successes are asked for no less
so. -/
theorem unhealthy_monotone_of_success :
    let os := [Outcome.failure, .failure, .success]
    (2 : UInt64) ≤ 3 ∧ (1 : UInt64) ≤ 2 ∧ ((create 2 2).after os).state = .unhealthy ∧
      ((create 2 1).after os).state = .unhealthy ∧ ((create 3 1).after os).state = .unhealthy := by
  intro os
  have hh : (2 : UInt64) ≤ 3 := by decide
  have hu : (1 : UInt64) ≤ 2 := by decide
  have hout : ((create 2 2).after os).state = .unhealthy := by decide
  obtain ⟨hfewer, hmore, -, -⟩ := unhealthy_monotone hh hu os
  exact ⟨hh, hu, hout, hfewer hout, hmore (hfewer hout)⟩

/-- Wherever a run has got to, each counter is below the threshold it counts towards, at most one of
them counts, and none counts towards the state that has been reached. So to count on never wraps, and
however long the run is, a counter holds the whole streak at the end of it. -/
theorem counters_below_thresholds (healthy unhealthy : UInt64) (os : List Outcome) :
    let t := (create healthy unhealthy).after os
    t.failures < max unhealthy 1 ∧ t.successes < max healthy 1 ∧
      (t.failures = 0 ∨ t.successes = 0) ∧
      (t.state = .healthy → t.successes = 0) ∧ (t.state = .unhealthy → t.failures = 0) ∧
      (t.failures + 1).toNat = t.failures.toNat + 1 ∧
      (t.successes + 1).toNat = t.successes.toNat + 1 ∧
      t.failures.toNat = (if t.state = .unhealthy then 0 else streak .failure os.reverse) ∧
      t.successes.toNat = (if t.state = .healthy then 0 else streak .success os.reverse) := by
  intro t
  have h : t.Follows os.reverse := by
    simpa using (follows_create healthy unhealthy).after os
  obtain ⟨hh, hu⟩ := after_thresholds (create healthy unhealthy) os
  have hf : t.failures < max unhealthy 1 := lt_of_lt_of_eq h.failures_lt hu
  have hs : t.successes < max healthy 1 := lt_of_lt_of_eq h.successes_lt hh
  refine ⟨hf, hs, h.failures_eq_zero_or, fun hk => ?_, fun hk => ?_, toNat_add_one_of_lt hf,
    toNat_add_one_of_lt hs, h.failures, h.successes⟩
  · rw [← UInt64.toNat_inj, h.successes, if_pos hk]
    rfl
  · rw [← UInt64.toNat_inj, h.failures, if_pos hk]
    rfl

end Tracker
end RelayRoster
