import Mathlib
import RelayRoster.Ticker

namespace RelayRoster

namespace Ticker

def tickAfter (period time : Nat) : Nat := period * (time / period + 1)

theorem div_lt_of_tickAfter_le {period a b : Nat} (hp : 0 < period) (h : tickAfter period a ≤ b) :
    a / period < b / period := by
  unfold tickAfter at h
  rw [Nat.lt_iff_add_one_le, Nat.le_div_iff_mul_le hp, Nat.mul_comm]
  exact h

/-- Ticks that are multiples of the period stay so, and the next one is the first that is not past. -/
theorem due_advance {t : Ticker} (ht : tolerance < t.period) (hd : t.period ∣ t.due) {now : Nat}
    (hn : t.due ≤ now) : (t.advance now).due = tickAfter t.period now := by
  obtain ⟨q, hq⟩ := hd
  have hnow : now = t.period * q + (now - t.due) := by omega
  have hdiv : now / t.period = q + (now - t.due) / t.period := by
    conv_lhs => rw [hnow]
    rw [Nat.mul_add_div t.pos]
  unfold advance tickAfter
  dsimp only
  rw [hdiv]
  split
  next hle =>
    rw [Nat.div_eq_of_lt (by omega), hq, Nat.add_zero, Nat.mul_add, Nat.mul_one]
  next =>
    have hmod := Nat.div_add_mod (now - t.due) t.period
    rw [Nat.mul_add, Nat.mul_add, Nat.mul_one]
    omega

section

variable {σ : Type} {step : Nat → σ → Nat × σ} {stop : Nat}

/-- What a loop does: it ends where the signal comes no later than the next tick, and takes a step
where the tick comes no later than the signal. -/
theorem run_induct {P : Ticker → Nat → σ → Run × σ → Prop}
    (hstop : ∀ t now s, stop ≤ max now t.due → P t now s (⟨[], max now stop⟩, s))
    (hstep : ∀ (t : Ticker) now s duration s' (R : Run) s'', max now t.due ≤ max now stop →
      step (max now t.due) s = (duration, s') →
      P (t.advance (max now t.due)) (max now t.due + duration) s' (R, s'') →
      P t now s (⟨(max now t.due, max now t.due + duration) :: R.steps, R.ended⟩, s''))
    (coins : List Bool) (t : Ticker) (now : Nat) (s : σ) : P t now s (run step stop coins t now s) := by
  fun_induction run step stop coins t now s with
  | case1 coins t now s tickAt stopAt hlt duration s' hs R s'' hr ih =>
    exact hstep t now s duration s' R s'' (Nat.le_of_lt hlt) hs (hr ▸ ih)
  | case2 coins t now s tickAt stopAt hnlt hlt =>
    exact hstop t now s (Nat.le_trans (Nat.le_max_right now stop) (Nat.le_of_lt hlt))
  | case3 t now s tickAt stopAt hnlt hngt coins duration s' hs R s'' hr ih =>
    exact hstep t now s duration s' R s'' (Nat.le_of_not_lt hngt) hs (hr ▸ ih)
  | case4 coins t now s tickAt stopAt hnlt hngt _ =>
    exact hstop t now s (Nat.le_trans (Nat.le_max_right now stop) (Nat.le_of_not_lt hnlt))

end

/-- When the step after one that began and ended at these times begins, if the signal does not come
before. -/
def nextStart (period : Nat) (x : Nat × Nat) : Nat := max x.2 (tickAfter period x.1)

/-- The steps of a loop that could begin with the first of them at `first`. The signal comes no later
than the step after the last one would. -/
structure Paced (period stop first now : Nat) (R : Run) : Prop where
  head : ∀ x ∈ R.steps.head?, x.1 = first
  next : R.steps.IsChain fun x y => y.1 = nextStart period x
  forward : ∀ x ∈ R.steps, x.1 ≤ x.2
  last : stop ≤ (R.steps.getLast?.map (nextStart period)).getD first
  ended : R.ended = max stop ((R.steps.getLast?.map (·.2)).getD now)

theorem getD_map_getLast?_cons {α β : Type} (f : α → β) (x : α) (xs : List α) (b : β) :
    (((x :: xs).getLast?).map f).getD b = (xs.getLast?.map f).getD (f x) := by
  rw [List.getLast?_cons]
  cases xs.getLast? <;> rfl

theorem run_paced {σ : Type} (step : Nat → σ → Nat × σ) (stop : Nat) (coins : List Bool) (t : Ticker)
    (now : Nat) (s : σ) (ht : tolerance < t.period) (hd : t.period ∣ t.due) :
    Paced t.period stop (max now t.due) now (run step stop coins t now s).1 := by
  revert ht hd
  refine run_induct (P := fun t now _ res => tolerance < t.period → t.period ∣ t.due →
    Paced t.period stop (max now t.due) now res.1) ?_ ?_ coins t now s
  · intro t now s hs _ _
    exact ⟨nofun, .nil, nofun, hs, max_comm _ _⟩
  · intro t now s duration s' R s'' hle _ ih ht hd
    have hdue := due_advance ht hd (Nat.le_max_right now t.due)
    -- What follows is a loop that begins where this step ends.
    have hrest := ih ht (by rw [hdue]; exact Nat.dvd_mul_right _ _)
    rw [hdue] at hrest
    refine ⟨?_, ?_, ?_, ?_, ?_⟩
    · rintro x ⟨⟩
      rfl
    · exact List.isChain_cons.mpr ⟨hrest.head, hrest.next⟩
    · exact List.forall_mem_cons.mpr ⟨Nat.le_add_right _ _, hrest.forward⟩
    · rw [getD_map_getLast?_cons]
      exact hrest.last
    · rw [getD_map_getLast?_cons]
      exact hrest.ended

namespace Paced

variable {period stop first now : Nat} {R : Run} (h : Paced period stop first now R)
include h

/-- Of any two steps the earlier one ends before the other begins, and they begin in different
periods. -/
theorem pairwise (hp : 0 < period) :
    R.steps.Pairwise fun x y => x.1 ≤ x.2 ∧ x.2 ≤ y.1 ∧ x.1 / period < y.1 / period := by
  let T (x y : Nat × Nat) : Prop := x.1 ≤ x.2 ∧ x.2 ≤ y.1 ∧ x.1 / period < y.1 / period
  have htrans : Trans T T T := ⟨fun {x y z} hxy hyz => by
    obtain ⟨hx, hxy, hdxy⟩ := hxy
    obtain ⟨hy, hyz, hdyz⟩ := hyz
    exact ⟨hx, hxy.trans (hy.trans hyz), hdxy.trans hdyz⟩⟩
  have hchain : R.steps.IsChain T := by
    refine List.IsChain.imp_of_mem_imp ?_ h.next
    intro x y hx _ hxy
    have hy : max x.2 (tickAfter period x.1) = y.1 := hxy.symm
    exact ⟨h.forward x hx, hy ▸ Nat.le_max_left _ _,
      div_lt_of_tickAfter_le hp (hy ▸ Nat.le_max_right _ _)⟩
  exact hchain.pairwise

theorem le_div {k : Nat} {x : Nat × Nat} (hp : 0 < period) (hx : R.steps[k]? = some x) :
    k ≤ x.1 / period := by
  have hpair := List.pairwise_iff_getElem.mp (h.pairwise hp)
  induction k generalizing x with
  | zero => exact Nat.zero_le _
  | succ k ih =>
    obtain ⟨hlt, rfl⟩ := List.getElem?_eq_some_iff.mp hx
    have hk := ih (List.getElem?_eq_getElem (Nat.lt_of_succ_lt hlt))
    have := (hpair k (k + 1) (Nat.lt_of_succ_lt hlt) hlt (Nat.lt_succ_self k)).2.2
    omega

/-- No more steps begin up to a time than there are ticks up to it. -/
theorem length_filter_le (hp : 0 < period) (time : Nat) :
    (R.steps.filter (·.1 ≤ time)).length ≤ time / period + 1 := by
  -- The periods in which these steps begin are all different, and none is later than the time's.
  have hnodup : ((R.steps.filter (·.1 ≤ time)).map fun x => x.1 / period).Nodup := by
    rw [List.nodup_iff_pairwise_ne, List.pairwise_map]
    exact ((h.pairwise hp).sublist List.filter_sublist).imp fun hxy => hxy.2.2.ne
  have hsub : ((R.steps.filter (·.1 ≤ time)).map fun x => x.1 / period) ⊆
      List.range (time / period + 1) := by
    intro q hq
    obtain ⟨x, hx, rfl⟩ := List.mem_map.mp hq
    have hle : x.1 ≤ time := by simpa using (List.mem_filter.mp hx).2
    rw [List.mem_range]
    exact Nat.lt_succ_of_le (Nat.div_le_div_right hle)
  have hlen := (List.subperm_of_subset hnodup hsub).length_le
  rwa [List.length_map, List.length_range] at hlen

theorem exists_first (hs : first < stop) : ∃ y, R.steps[0]? = some y ∧ y.1 = first := by
  have hlast := h.last
  have hhead := h.head
  cases hl : R.steps with
  | nil =>
    rw [hl] at hlast
    exact absurd hs (Nat.not_lt.mpr hlast)
  | cons x xs =>
    rw [hl] at hhead
    exact ⟨x, rfl, hhead x rfl⟩

/-- As long as the signal is not there, every step is followed by one. -/
theorem exists_next {k : Nat} {x : Nat × Nat} (hx : R.steps[k]? = some x)
    (hs : nextStart period x < stop) :
    ∃ y, R.steps[k + 1]? = some y ∧ y.1 = nextStart period x := by
  obtain ⟨hk, hget⟩ := List.getElem?_eq_some_iff.mp hx
  have hlt : k + 1 < R.steps.length := by
    by_contra hn
    have hlen : R.steps.length - 1 = k := by omega
    have hlast := h.last
    rw [List.getLast?_eq_getElem?, hlen, hx] at hlast
    exact absurd hs (Nat.not_lt.mpr hlast)
  have hnext := List.isChain_iff_getElem.mp h.next k hlt
  rw [hget] at hnext
  exact ⟨_, List.getElem?_eq_getElem hlt, hnext⟩

theorem ends_le_ended {x : Nat × Nat} (hp : 0 < period) (hx : x ∈ R.steps) : x.2 ≤ R.ended := by
  have hlast := List.getLast?_eq_getLast_of_ne_nil (List.ne_nil_of_mem hx)
  generalize List.getLast _ _ = y at hlast
  have hle : y.2 ≤ R.ended := by
    rw [h.ended, hlast]
    exact Nat.le_max_right _ _
  obtain ⟨init, hinit⟩ := List.getLast?_eq_some_iff.mp hlast
  have hforward := h.forward y (hinit ▸ List.mem_append_right _ (List.mem_singleton_self y))
  have hpair := h.pairwise hp
  rw [hinit] at hpair hx
  rcases List.mem_append.mp hx with hx | hx
  · have hxy := (List.pairwise_append.mp hpair).2.2 x hx y (List.mem_singleton_self y)
    exact hxy.2.1.trans (hforward.trans hle)
  · cases List.mem_singleton.mp hx
    exact hle

end Paced

end Ticker
end RelayRoster
