import Mathlib
import RelayRoster.Proofs.Hysteresis

namespace RelayRoster

theorem le_streak_iff {n : Nat} {o : Outcome} {os : List Outcome} :
    n ≤ streak o os ↔ List.replicate n o <+: os := by
  induction os generalizing n with
  | nil => simp [streak, List.prefix_nil]
  | cons o' os ih =>
    cases n with
    | zero => simp
    | succ n =>
      rw [List.replicate_succ, List.cons_prefix_cons]
      by_cases ho : o' = o
      · subst ho
        rw [streak_cons_self, Nat.succ_le_succ_iff, ih]
        simp
      · rw [streak_cons_of_ne ho]
        simp [Ne.symm ho]

namespace Health

/-- Whether outcomes, the first of them coming first, end with enough in a row to bring a state
about. Nothing brings about that nothing is known. -/
def ConfirmedBy (healthyAfter unhealthyAfter : Nat) (os : List Outcome) : Health → Prop
  | .unknown => False
  | .healthy => List.replicate healthyAfter .success <:+ os
  | .unhealthy => List.replicate unhealthyAfter .failure <:+ os

/-- Whether a state is confirmed at the end of some front of the outcomes, and none at the end of a
longer one. -/
def DecidedBy (healthyAfter unhealthyAfter : Nat) (os : List Outcome) (s : Health) : Prop :=
  ∃ p, p <+: os ∧ ConfirmedBy healthyAfter unhealthyAfter p s ∧
    ∀ q s', q <+: os → ConfirmedBy healthyAfter unhealthyAfter q s' → q.length ≤ p.length

section

variable {h u : Nat} {os : List Outcome} {s : Health}

theorem replicate_suffix_iff {n : Nat} {o : Outcome} :
    List.replicate n o <:+ os ↔ n ≤ streak o os.reverse := by
  rw [le_streak_iff, ← List.reverse_suffix, List.reverse_replicate, List.reverse_reverse]

variable (hh : 0 < h) (hu : 0 < u)
include hh hu

theorem verdict_of_confirmedBy (hc : ConfirmedBy h u os s) : verdict h u os.reverse = s := by
  cases s with
  | unknown => exact hc.elim
  | healthy => exact verdict_of_le_successes hh (replicate_suffix_iff.mp hc)
  | unhealthy => exact verdict_of_le_failures hh hu (replicate_suffix_iff.mp hc)

omit hh hu in
/-- An outcome with which no run is complete leaves the verdict as it was. -/
theorem verdict_concat_of_not_confirmedBy {o : Outcome}
    (hc : ∀ s, ¬ ConfirmedBy h u (os ++ [o]) s) :
    verdict h u (os ++ [o]).reverse = verdict h u os.reverse := by
  have hs : ¬ h ≤ streak .success (os ++ [o]).reverse :=
    fun hle => hc .healthy (replicate_suffix_iff.mpr hle)
  have hf : ¬ u ≤ streak .failure (os ++ [o]).reverse :=
    fun hle => hc .unhealthy (replicate_suffix_iff.mpr hle)
  rw [List.reverse_concat] at hs hf ⊢
  rw [verdict, if_neg hs, if_neg hf]

theorem not_confirmedBy_nil (s : Health) : ¬ ConfirmedBy h u [] s := by
  intro hc
  have hv := verdict_of_confirmedBy hh hu hc
  rw [← hv] at hc
  exact hc

/-- The verdict is decided by the outcomes, or nothing decides and it is that nothing is known. -/
theorem verdict_decidedBy (os : List Outcome) :
    DecidedBy h u os (verdict h u os.reverse) ∨
      (verdict h u os.reverse = .unknown ∧ ∀ p, p <+: os → ∀ s, ¬ ConfirmedBy h u p s) := by
  induction os using List.reverseRecOn with
  | nil =>
    refine .inr ⟨rfl, fun p hp s => ?_⟩
    rw [List.prefix_nil.mp hp]
    exact not_confirmedBy_nil hh hu s
  | append_singleton os o ih =>
    by_cases hc : ∃ s, ConfirmedBy h u (os ++ [o]) s
    · -- Nothing is longer than the whole.
      obtain ⟨s, hc⟩ := hc
      rw [verdict_of_confirmedBy hh hu hc]
      exact .inl ⟨_, List.prefix_refl _, hc, fun q s' hq _ => hq.length_le⟩
    · rw [not_exists] at hc
      rw [verdict_concat_of_not_confirmedBy hc]
      rcases ih with ⟨p, hp, hs, hmax⟩ | ⟨hv, hnone⟩
      · refine .inl ⟨p, hp.trans (List.prefix_append _ _), hs, fun q s' hq hq' => ?_⟩
        rcases List.prefix_concat_iff.mp hq with rfl | hq
        · exact absurd hq' (hc s')
        · exact hmax q s' hq hq'
      · refine .inr ⟨hv, fun q hq s' => ?_⟩
        rcases List.prefix_concat_iff.mp hq with rfl | hq
        · exact hc s'
        · exact hnone q hq s'

/-- Two states cannot both be decided: it is the same front that decides, and it ends in one kind of
outcome. -/
theorem DecidedBy.eq_verdict (hd : DecidedBy h u os s) : s = verdict h u os.reverse := by
  obtain ⟨p, hp, hs, hmax⟩ := hd
  rcases verdict_decidedBy hh hu os with ⟨q, hq, hv, hmax'⟩ | ⟨-, hnone⟩
  · have hlen : p.length = q.length := le_antisymm (hmax' p s hp hs) (hmax q _ hq hv)
    have hpq : p = q := (List.prefix_of_prefix_length_le hp hq hlen.le).eq_of_length hlen
    rw [← verdict_of_confirmedBy hh hu hs, hpq, verdict_of_confirmedBy hh hu hv]
  · exact absurd hs (hnone p hp s)

theorem verdict_eq_unknown_iff :
    verdict h u os.reverse = .unknown ↔ ∀ p, p <+: os → ∀ s, ¬ ConfirmedBy h u p s := by
  rcases verdict_decidedBy hh hu os with hd | ⟨hv, hnone⟩
  · obtain ⟨p, hp, hs, -⟩ := hd
    refine iff_of_false (fun hv => ?_) fun hnone => hnone p hp _ hs
    rw [hv] at hs
    exact hs
  · exact iff_of_true hv hnone

theorem verdict_eq_iff (hs : s ≠ .unknown) :
    verdict h u os.reverse = s ↔ DecidedBy h u os s := by
  constructor
  · rintro rfl
    exact (verdict_decidedBy hh hu os).resolve_right fun hv => hs hv.1
  · exact fun hd => (hd.eq_verdict hh hu).symm

/-- What has been decided once is never open again. -/
theorem verdict_ne_unknown_append (later : List Outcome)
    (hk : verdict h u os.reverse ≠ .unknown) : verdict h u (os ++ later).reverse ≠ .unknown := by
  rw [Ne, verdict_eq_unknown_iff hh hu] at hk ⊢
  exact fun hnone => hk fun p hp => hnone p (hp.trans (List.prefix_append _ _))

end

end Health

namespace Tracker

/-- A call answers the state it leads to if that is another one. -/
theorem record_eq_some_iff (t : Tracker) (o : Outcome) (s : Health) :
    (t.record o).1 = some s ↔ (t.record o).2.state = s ∧ s ≠ t.state := by
  cases o with
  | success =>
    change t.success.1 = some s ↔ t.success.2.state = s ∧ s ≠ t.state
    unfold success
    dsimp only
    split
    next hs => grind
    next hs => split <;> grind
  | failure =>
    change t.failure.1 = some s ↔ t.failure.2.state = s ∧ s ≠ t.state
    unfold failure
    dsimp only
    split
    next hs => grind
    next hs => split <;> grind

/-- Whatever the thresholds, a new tracker tells from the outcomes alone which state they decide. It
answers a change of its state and nothing else, and what it once knows it does not forget. -/
theorem state_decidedBy_outcomes (healthy unhealthy : UInt64) (os : List Outcome) :
    let h := max healthy.toNat 1
    let u := max unhealthy.toNat 1
    let t := (create healthy unhealthy).after os
    (t.state = .unknown ↔ ∀ p, p <+: os → ∀ s, ¬ Health.ConfirmedBy h u p s) ∧
      (∀ s, s ≠ .unknown → (t.state = s ↔ Health.DecidedBy h u os s)) ∧
      (∀ o s, (t.record o).1 = some s ↔ (t.record o).2.state = s ∧ s ≠ t.state) ∧
      (t.state ≠ .unknown → ∀ later, (t.after later).state ≠ .unknown) ∧
      (t.isAlive = true ↔ t.state ≠ .unhealthy) := by
  intro h u t
  have hh : 0 < h := lt_max_of_lt_right Nat.one_pos
  have hu : 0 < u := lt_max_of_lt_right Nat.one_pos
  have hv : t.state = Health.verdict h u os.reverse := state_after_create healthy unhealthy os
  refine ⟨?_, fun s hs => ?_, fun o s => record_eq_some_iff t o s, fun hk later => ?_,
    decide_eq_true_iff⟩
  · rw [hv, Health.verdict_eq_unknown_iff hh hu]
  · rw [hv, Health.verdict_eq_iff hh hu hs]
  · rw [hv] at hk
    rw [← after_append, state_after_create]
    exact Health.verdict_ne_unknown_append hh hu later hk

/-- One success is not enough to come back where two are asked for. -/
example : ((create 2 0).after [.failure, .success]).state = .unhealthy := by decide

end Tracker
end RelayRoster
