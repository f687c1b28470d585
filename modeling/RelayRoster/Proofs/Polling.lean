import Mathlib
import RelayRoster.Proofs.Gauges
import RelayRoster.Proofs.Starvation
import RelayRoster.Proofs.Turns

namespace RelayRoster

/-- Whom one asks one after the other, with what each of them answers. What is asked may change the
answers to come. -/
inductive Asked {ι σ : Type} (ask : ι → σ → Bool × σ) (s : σ) : List (ι × Bool) → σ → Prop
  | nothing : Asked ask s [] s
  | more {xs : List (ι × Bool)} {s' : σ} (h : Asked ask s xs s') (i : ι) :
      Asked ask s (xs ++ [(i, (ask i s').1)]) (ask i s').2

namespace Rotation

/-- What a call notes down is what it asks. -/
theorem turn_asked {σ : Type} (readAlive : Nat → σ → Bool × σ) (n : Nat) (r : Rotation) (s : σ) :
    Asked readAlive s (turn readAlive n r s).1.asked (pick readAlive n r s).2.2 := by
  have hnoted : (pick (noted readAlive) n r (s, [])).2.2.1 = (pick readAlive n r s).2.2 := by
    unfold pick
    by_cases hn : n = 0
    · rw [if_pos hn, if_pos hn]
    · obtain ⟨asked, -, hl⟩ := seek_noted readAlive (cycle n (r.cursor.toNat % n)) s []
      rw [if_neg hn, if_neg hn]
      dsimp only
      rw [hl]
  rw [← hnoted]
  exact pick_keeps (P := fun x : σ × List (Nat × Bool) => Asked readAlive s x.2 x.1)
    (fun i _ h => h.more i) .nothing

theorem Turn.Seeks.asked_sublist {t : Turn} {is : List Nat} (h : t.Seeks is) :
    (t.asked.map (·.1)).Sublist is := by
  obtain ⟨choice, asked⟩ := t
  cases choice with
  | none =>
    obtain rfl : asked = is.map (·, false) := h
    simp [Function.comp_def]
  | some i =>
    obtain ⟨before, after, rfl, rfl⟩ := h
    simp [Function.comp_def]

end Rotation

namespace Roster

section

variable {ι : Type} {f : ι → Nat} {r r' : Roster} {xs : List (ι × Bool)}

/-- Whoever is not asked stays as it is. -/
theorem fleet_of_asked (h : Asked (fun i => readAlive (f i)) r xs r') {id : Nat}
    (hid : id ∉ xs.map fun x => f x.1) : r'.fleet[id]? = r.fleet[id]? := by
  induction h with
  | nothing => rfl
  | @more xs s _ i ih =>
    rw [List.map_append, List.mem_append, not_or] at hid
    rw [readAlive_fleet_of_ne (by simpa using hid.2), ih hid.1]

/-- If nobody is asked twice, everyone answers as if asked first. -/
theorem answer_of_asked (h : Asked (fun i => readAlive (f i)) r xs r')
    (hn : (xs.map fun x => f x.1).Nodup) : ∀ x ∈ xs, x.2 = (readAlive (f x.1) r).1 := by
  induction h with
  | nothing => nofun
  | @more xs s h i ih =>
    rw [List.map_append, List.nodup_append] at hn
    obtain ⟨hn, -, hne⟩ := hn
    rw [List.forall_mem_append, List.forall_mem_singleton]
    -- Nobody asked before is the same endpoint, so this one is still as it was at first.
    refine ⟨ih hn, readAlive_fst_of_fleet (fleet_of_asked h fun hi => ?_)⟩
    exact hne _ hi _ (List.mem_singleton_self _) rfl

end

/-- The first pass asks the members in order. -/
theorem aliveAmong_asked {r r' : Roster} {xs : List ((String × Nat) × Bool)}
    (h : Asked (fun m => readAlive m.2) r xs r') (ms : List (String × Nat)) :
    ∃ ys, ys.map (·.1) = ms ∧ Asked (fun m => readAlive m.2) r (xs ++ ys) (aliveAmong ms r').2 := by
  induction ms generalizing xs r' with
  | nil => exact ⟨[], rfl, by rwa [List.append_nil]⟩
  | cons m ms ih =>
    obtain ⟨ys, hy, ha⟩ := ih (h.more m)
    rw [List.append_assoc] at ha
    exact ⟨(m, (readAlive m.2 r').1) :: ys, congrArg (m :: ·) hy, ha⟩

variable {r : Roster}

theorem Sound.aliveMembers_asked (h : r.Sound) :
    Asked (fun m => readAlive m.2) r (r.registry.published.map fun m => (m, r.isAlive m))
      r.aliveMembers.2 := by
  obtain ⟨ys, hy, ha⟩ := aliveAmong_asked .nothing r.registry.published
  rw [List.nil_append] at ha
  have hn : (ys.map fun y => y.1.2).Nodup := by
    have hids := h.published_ids_nodup
    rwa [← hy, List.map_map] at hids
  have hys : ys = r.registry.published.map fun m => (m, r.isAlive m) := by
    rw [← hy, List.map_map]
    refine (List.map_id' ys).symm.trans (List.map_congr_left fun y hm => ?_)
    exact Prod.ext rfl (answer_of_asked ha hn y hm)
  rwa [← hys]

/-- The second pass, as a call on the rotation. -/
def turn (r : Roster) : Rotation.Turn :=
  (Rotation.turn (ask r.alive) r.alive.length r.rotation r.counted).1

theorem Sound.choice_eq (h : r.Sound) :
    r.choice = Rotation.pick (ask r.alive) r.alive.length r.rotation r.counted := by
  unfold choice
  rw [h.aliveMembers_fst, (alike_counted r).rotation]

theorem Sound.turn_asked (h : r.Sound) :
    Asked (ask r.alive) r.counted r.turn.asked r.choice.2.2 := by
  rw [h.choice_eq]
  exact Rotation.turn_asked _ _ _ _

theorem turn_seeks (r : Roster) : r.turn.Seeks (r.rotation.queue r.alive.length) :=
  Rotation.turn_seeks _ _ _ _

theorem Sound.select_eq_turn (h : r.Sound) : r.select.1 = r.turn.choice.bind (r.alive[·]?) := by
  rw [Roster.select_fst, h.choice_eq, h.aliveMembers_fst]
  rfl

def numberAt (ms : List (String × Nat)) (i : Nat) : Nat := (ms[i]?.map (·.2)).getD 0

theorem numberAt_of_getElem? {ms : List (String × Nat)} {i : Nat} {m : String × Nat}
    (h : ms[i]? = some m) : numberAt ms i = m.2 := by
  unfold numberAt
  rw [h]
  rfl

theorem map_numberAt_range (ms : List (String × Nat)) :
    (List.range ms.length).map (numberAt ms) = ms.map (·.2) := by
  apply List.ext_getElem
  · simp
  · intro i hi hi'
    rw [List.length_map] at hi'
    rw [List.getElem_map, List.getElem_map, List.getElem_range]
    exact numberAt_of_getElem? (List.getElem?_eq_getElem hi')

/-- Nobody is asked again twice. -/
theorem Sound.turn_nodup (h : r.Sound) :
    (r.turn.asked.map fun x => numberAt r.alive x.1).Nodup := by
  have hids : (r.alive.map (·.2)).Nodup :=
    h.published_ids_nodup.sublist (List.filter_sublist.map _)
  have hqueue : ((r.rotation.queue r.alive.length).map (numberAt r.alive)).Perm
      (r.alive.map (·.2)) := by
    rw [← map_numberAt_range]
    exact (List.rotate_perm _ _).map _
  -- Those asked again stand in the queue in this order.
  have hsub := r.turn_seeks.asked_sublist.map (numberAt r.alive)
  rw [List.map_map] at hsub
  exact (hqueue.nodup_iff.mpr hids).sublist hsub

/-- In the second pass a member answers as it would right after the first. -/
theorem Sound.turn_answer (h : r.Sound) {i : Nat} {a : Bool} (hx : (i, a) ∈ r.turn.asked)
    {m : String × Nat} (hm : r.alive[i]? = some m) : a = r.aliveMembers.2.isAlive m := by
  have ha := answer_of_asked (f := numberAt r.alive) h.turn_asked h.turn_nodup _ hx
  dsimp only at ha
  rw [numberAt_of_getElem? hm] at ha
  exact ha.trans (readAlive_fst_of_fleet rfl)

theorem turn_choice_lt {i : Nat} (hc : r.turn.choice = some i) : i < r.alive.length :=
  Rotation.turn_choice_lt hc

/-- Nobody is selected exactly if nobody says twice that it is alive. -/
theorem Sound.select_eq_none_iff (h : r.Sound) :
    r.select.1 = none ↔ ∀ m ∈ r.alive, r.aliveMembers.2.isAlive m = false := by
  rw [h.select_eq_turn]
  cases hc : r.turn.choice with
  | none =>
    refine iff_of_true rfl fun m hm => ?_
    -- Everyone in the queue was asked again and said no.
    obtain ⟨i, hi, rfl⟩ := List.mem_iff_getElem.mp hm
    have hq : i ∈ r.rotation.queue r.alive.length := by simpa [Rotation.queue] using hi
    have hx : (i, false) ∈ r.turn.asked := by
      rw [r.turn_seeks.choice_eq_none_iff.mp hc]
      exact List.mem_map_of_mem hq
    exact (h.turn_answer hx (List.getElem?_eq_getElem hi)).symm
  | some i =>
    have hi := turn_choice_lt hc
    obtain ⟨before, after, -, hx⟩ := r.turn_seeks.of_choice hc
    have ha := h.turn_answer (hx ▸ List.mem_concat_self) (List.getElem?_eq_getElem hi)
    refine iff_of_false ?_ fun hno => ?_
    · simp [hi]
    · rw [hno _ (List.getElem_mem hi)] at ha
      cases ha

theorem Sound.select_cursor_eq (h : r.Sound) :
    r.select.2.rotation.cursor = match r.turn.choice with
      | some i => if i = r.rotation.cursor.toNat % r.alive.length then r.rotation.cursor + 1
        else UInt64.ofNat (i + 1)
      | none => if r.alive = [] then r.rotation.cursor else r.rotation.cursor + 1 := by
  by_cases hn : r.alive = []
  · have hc : r.turn.choice = none := by
      unfold turn
      rw [hn]
      rfl
    rw [hc, select_rotation_of_nobody (h.aliveMembers_fst.trans hn)]
    exact (if_pos hn).symm
  · have hpos : 0 < r.alive.length := List.length_pos_iff.mpr hn
    rw [select_rotation, h.choice_eq, Rotation.pick_rotation hpos]
    change (r.rotation.advance _ r.turn.choice).cursor = _
    unfold Rotation.advance
    cases r.turn.choice with
    | none => exact (if_neg hn).symm
    | some i => exact apply_ite _ _ _ _

def selected (r : Roster) : Series :=
  match r.select.1 with
  | some m => .selections m.1
  | none => .unavailable

theorem aliveAmong_metrics (ms : List (String × Nat)) (r : Roster) :
    (aliveAmong ms r).2.metrics = r.metrics := by
  induction ms generalizing r with
  | nil => rfl
  | cons m ms ih => exact (ih _).trans (readAlive_metrics m.2 r)

theorem choice_metrics (r : Roster) : r.choice.2.2.metrics = r.metrics := by
  have hcounted : r.counted.metrics = r.metrics := aliveAmong_metrics _ r
  exact Rotation.pick_keeps (P := fun s : Roster => s.metrics = r.metrics)
    (fun _ s hs => (readAlive_metrics _ s).trans hs) hcounted

theorem select_metrics (r : Roster) : r.select.2.metrics = r.metrics.increment r.selected := by
  unfold selected
  rw [select_eq]
  split
  · rw [← r.choice_metrics]
  · rw [← r.choice_metrics]

theorem select_fleet (r : Roster) : r.select.2.fleet = r.choice.2.2.fleet := by
  rw [select_eq]
  split <;> rfl

end Roster

/-- A selection asks everyone registered once, by address, and then again those who said that they
are alive, in cyclic order from the cursor on, up to the first who says so again. It selects that
one, and nobody if there is none. The cursor stays where nobody is asked again, and else goes on by
one or just behind the chosen; one counter goes up by one. Those who are asked may have changed, but
the registry and all other metrics have not. -/
theorem select_asks_again {r : Roster} (h : r.Sound) :
    let n := r.alive.length
    let cursor := r.rotation.cursor
    let r' := r.select.2
    ∃ (t : Rotation.Turn) (again : Roster),
      r.book.Lists r.registry.published ∧
      Asked (fun m => Roster.readAlive m.2) r
        (r.registry.published.map fun m => (m, r.isAlive m)) r.aliveMembers.2 ∧
      Asked (Roster.ask r.alive) r.counted t.asked again ∧
      t.Seeks ((List.range n).rotate cursor.toNat) ∧
      (∀ i, t.choice = some i → i < n) ∧ r.select.1 = t.choice.bind (r.alive[·]?) ∧
      (r.select.1 = none ↔
        r.alive = [] ∨ ∀ m ∈ r.alive, r.aliveMembers.2.isAlive m = false) ∧
      (r'.rotation.cursor = match t.choice with
        | some i => if i = cursor.toNat % n then cursor + 1 else UInt64.ofNat (i + 1)
        | none => if r.alive = [] then cursor else cursor + 1) ∧
      r'.registry = r.registry ∧ r'.fleet = again.fleet ∧
      (∀ s, r'.metrics.get? s = if s = r.selected then some ((r.metrics.get? s).getD 0 + 1)
        else r.metrics.get? s) ∧
      (r.StandsBy → r.alive ≠ [] → r.select.1 ≠ none) := by
  refine ⟨r.turn, r.choice.2.2, h.lists, h.aliveMembers_asked, h.turn_asked, r.turn_seeks,
    fun i => Roster.turn_choice_lt, h.select_eq_turn, ?_, h.select_cursor_eq,
    (Roster.alike_select r).registry, r.select_fleet, fun s => ?_, fun hs ha => ?_⟩
  · rw [h.select_eq_none_iff, iff_or_self]
    intro hn
    rw [hn]
    exact List.forall_mem_nil _
  · rw [r.select_metrics]
    unfold Metrics.increment
    rw [Metrics.get?_set]
    split
    next hs => rw [hs]
    next => rfl
  · have hpos : 0 < r.alive.length := List.length_pos_iff.mpr ha
    rw [h.select_fst hs hpos, List.getElem?_eq_getElem (Nat.mod_lt _ hpos)]
    exact Option.some_ne_none _

/-- The first of three has died by the time it is asked again, and the second is dead. -/
theorem select_asks_again_of_change :
    ∃ r : Roster, r.Sound ∧ r.alive = [("a:1", 0), ("c:1", 2)] ∧
      r.select.1 = some ("c:1", 2) ∧ r.select.2.rotation.cursor = 2 ∧
      r.select.2.metrics.get? (.selections "c:1") = some 1 ∧
      r.select.2.metrics.get? .unavailable = none ∧
      ¬ (∀ m ∈ r.alive, r.aliveMembers.2.isAlive m = false) ∧
      ∃ t again, Asked (Roster.ask r.alive) r.counted t.asked again ∧
        Rotation.Turn.Seeks t [0, 1] ∧ t.choice ≠ none := by
  let r : Roster :=
    { fleet := #[.rehearsed { address := "a:1", aliveScript := [true, false] },
        .rehearsed { address := "b:1", alive := false },
        .rehearsed { address := "c:1", aliveScript := [true, true], alive := false }]
      registry := .ofEntries [("b:1", 1), ("c:1", 2), ("a:1", 0)]
      rotation := ⟨4⟩ }
  have hs : r.Sound := ⟨⟨by decide, rfl⟩, by decide⟩
  have halive : r.alive = [("a:1", 0), ("c:1", 2)] := by cbv
  have hselect : r.select.1 = some ("c:1", 2) := by cbv
  obtain ⟨t, again, -, -, hasked, hseeks, -, hchoice, hnone, -, -, -, hmetrics, -⟩ :=
    select_asks_again hs
  have hselected : r.selected = .selections "c:1" := by
    unfold Roster.selected
    rw [hselect]
  rw [hselected] at hmetrics
  refine ⟨r, hs, halive, hselect, by cbv, hmetrics _, hmetrics _, fun hno => ?_, t, again, hasked,
    ?_, fun hc => ?_⟩
  · rw [hnone.mpr (.inr hno)] at hselect
    cases hselect
  · have hqueue : (List.range r.alive.length).rotate r.rotation.cursor.toNat = [0, 1] := by
      rw [halive]
      decide
    rwa [← hqueue]
  · rw [hchoice, hc] at hselect
    cases hselect

end RelayRoster
