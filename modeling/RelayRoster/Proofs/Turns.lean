import Mathlib
import RelayRoster.Proofs.Selection

namespace RelayRoster.Rotation

/-- A call: whom it chooses, and who was asked on the way, with the answer each gave. -/
structure Turn where
  choice : Option Nat
  asked : List (Nat × Bool)
  deriving DecidableEq, Repr

/-- Whether a call asks some positions in order up to the first that says it is alive, and chooses
that one; if all of them say no, it chooses nobody. -/
def Turn.Seeks (t : Turn) (is : List Nat) : Prop :=
  match t.choice with
  | some i => ∃ before after,
      is = before ++ i :: after ∧ t.asked = before.map (·, false) ++ [(i, true)]
  | none => t.asked = is.map (·, false)

section

variable {σ : Type} (readAlive : Nat → σ → Bool × σ)

def noted (i : Nat) (s : σ × List (Nat × Bool)) : Bool × σ × List (Nat × Bool) :=
  ((readAlive i s.1).1, (readAlive i s.1).2, s.2 ++ [(i, (readAlive i s.1).1)])

def turn (n : Nat) (r : Rotation) (s : σ) : Turn × Rotation :=
  -- The same choice once more, to see who is asked.
  (⟨(pick readAlive n r s).1, (pick (noted readAlive) n r (s, [])).2.2.2⟩,
    (pick readAlive n r s).2.1)

/-- Calls in a row. Each finds the endpoints in a state of its own: anything may happen to them
between two calls. -/
def turns (n : Nat) : Rotation → List σ → List Turn
  | _, [] => []
  | r, s :: ss => (turn readAlive n r s).1 :: turns n (turn readAlive n r s).2 ss

end

def queue (n : Nat) (r : Rotation) : List Nat := (List.range n).rotate r.cursor.toNat

/-- Whether so many calls come to an end before the cursor wraps, or the wrap does no harm. -/
def Lasts (n k : Nat) (r : Rotation) : Prop :=
  r.cursor.toNat + k ≤ 2 ^ 64 ∧ n + k ≤ 2 ^ 64 ∨ n ∣ 2 ^ 64

/-- Where a choice leaves the cursor, were it not to wrap. -/
def landing (n : Nat) (r : Rotation) : Option Nat → Nat
  | some i => if i = r.cursor.toNat % n then r.cursor.toNat + 1 else i + 1
  | none => r.cursor.toNat + 1

theorem landing_mod (n : Nat) (r : Rotation) (i : Nat) :
    r.landing n (some i) % n = (i + 1) % n := by
  change (if i = r.cursor.toNat % n then r.cursor.toNat + 1 else i + 1) % n = _
  split
  next he => rw [he, Nat.mod_add_mod]
  next => rfl

theorem Lasts.mono {n k l : Nat} {r : Rotation} (h : r.Lasts n l) (hk : k ≤ l) : r.Lasts n k := by
  unfold Lasts at h ⊢
  omega

theorem cycle_eq_rotate (n c : Nat) : cycle n (c % n) = (List.range n).rotate c := by
  apply List.ext_getElem
  · simp [cycle]
  · intro k hk hk'
    simp [cycle, List.getElem_rotate, Nat.add_comm k c]

theorem rotate_range_congr {n a b : Nat} (h : a % n = b % n) :
    (List.range n).rotate a = (List.range n).rotate b := by
  rw [← List.rotate_mod, List.length_range, h, ← List.rotate_mod _ b, List.length_range]

/-- Whoever stands before the chosen, and the chosen, go to the end of the queue. -/
theorem rotate_of_split {n c i : Nat} {before after : List Nat}
    (h : (List.range n).rotate c = before ++ i :: after) :
    (List.range n).rotate (i + 1) = after ++ (before ++ [i]) := by
  have hlt : before.length < ((List.range n).rotate c).length := by
    rw [h, List.length_append, List.length_cons]
    omega
  have hi : i = (before.length + c) % n := by
    have hg : ((List.range n).rotate c)[before.length] = i := by simp [h]
    rw [List.getElem_rotate, List.getElem_range, List.length_range] at hg
    exact hg.symm
  have hmod : (i + 1) % n = (c + (before ++ [i]).length) % n := by
    rw [hi, Nat.mod_add_mod, List.length_append, List.length_singleton]
    congr 1
    omega
  calc (List.range n).rotate (i + 1) = (List.range n).rotate (c + (before ++ [i]).length) :=
        rotate_range_congr hmod
    _ = ((before ++ [i]) ++ after).rotate (before ++ [i]).length := by
        rw [← List.rotate_rotate, h, List.append_assoc, List.singleton_append]
    _ = after ++ (before ++ [i]) := List.rotate_append_length_eq _ _

theorem Turn.Seeks.cons {t : Turn} {is : List Nat} (h : t.Seeks is) (i : Nat) :
    Turn.Seeks ⟨t.choice, (i, false) :: t.asked⟩ (i :: is) := by
  obtain ⟨choice, asked⟩ := t
  cases choice with
  | none => exact congrArg ((i, false) :: ·) h
  | some j =>
    obtain ⟨before, after, rfl, ha⟩ := h
    exact ⟨i :: before, after, rfl, congrArg ((i, false) :: ·) ha⟩

theorem Turn.Seeks.of_choice {t : Turn} {is : List Nat} {i : Nat} (h : t.Seeks is)
    (hc : t.choice = some i) :
    ∃ before after, is = before ++ i :: after ∧ t.asked = before.map (·, false) ++ [(i, true)] := by
  unfold Turn.Seeks at h
  rwa [hc] at h

/-- Where the answers are as a test says, it admits the chosen, and nobody before. -/
theorem Turn.Seeks.filter_of_choice {t : Turn} {is : List Nat} {i : Nat} {alive : Nat → Bool}
    (h : t.Seeks is) (hc : t.choice = some i) (ha : ∀ x ∈ t.asked, x.2 = alive x.1) :
    ∃ before after, is = before ++ i :: after ∧ before.filter alive = [] ∧ alive i = true := by
  obtain ⟨before, after, his, hx⟩ := h.of_choice hc
  rw [hx, List.forall_mem_append, List.forall_mem_map, List.forall_mem_singleton] at ha
  obtain ⟨hbefore, hi⟩ := ha
  refine ⟨before, after, his, List.filter_eq_nil_iff.mpr fun x hx => ?_, hi.symm⟩
  exact hbefore x hx ▸ Bool.false_ne_true

/-- Nobody is chosen exactly if everybody was asked and said no. -/
theorem Turn.Seeks.choice_eq_none_iff {t : Turn} {is : List Nat} (h : t.Seeks is) :
    t.choice = none ↔ t.asked = is.map (·, false) := by
  obtain ⟨choice, asked⟩ := t
  cases choice with
  | none => exact iff_of_true rfl h
  | some j =>
    obtain ⟨before, after, -, ha⟩ := h
    refine iff_of_false nofun fun hn => ?_
    have hm : (j, true) ∈ is.map (·, false) := by
      rw [← hn, ha]
      simp
    simp at hm

theorem Turn.Seeks.filter_of_none {t : Turn} {is : List Nat} {alive : Nat → Bool} (h : t.Seeks is)
    (hc : t.choice = none) (ha : ∀ x ∈ t.asked, x.2 = alive x.1) : is.filter alive = [] := by
  rw [h.choice_eq_none_iff.mp hc, List.forall_mem_map] at ha
  refine List.filter_eq_nil_iff.mpr fun x hx => ?_
  exact ha x hx ▸ Bool.false_ne_true

section

variable {σ : Type} {readAlive : Nat → σ → Bool × σ}

/-- Noting the readings down does not change a search. -/
theorem seek_noted (readAlive : Nat → σ → Bool × σ) (is : List Nat) (s : σ)
    (log : List (Nat × Bool)) :
    ∃ asked, Turn.Seeks ⟨(seek readAlive is s).1, asked⟩ is ∧
      seek (noted readAlive) is (s, log) =
        ((seek readAlive is s).1, (seek readAlive is s).2, log ++ asked) := by
  induction is generalizing s log with
  | nil => exact ⟨[], rfl, by simp [seek]⟩
  | cons i is ih =>
    rcases he : readAlive i s with ⟨a, s'⟩
    cases a with
    | true =>
      refine ⟨[(i, true)], ?_, ?_⟩
      · simp only [seek, he]
        exact ⟨[], is, rfl, rfl⟩
      · simp [seek, noted, he]
    | false =>
      obtain ⟨asked, hs, hl⟩ := ih s' (log ++ [(i, false)])
      refine ⟨(i, false) :: asked, ?_, ?_⟩
      · simp only [seek, he]
        exact hs.cons i
      · simp only [seek, noted, he]
        rw [hl, List.append_assoc, List.singleton_append]

variable {n : Nat} {r : Rotation} {s : σ}

theorem turn_seeks (readAlive : Nat → σ → Bool × σ) (n : Nat) (r : Rotation) (s : σ) :
    (turn readAlive n r s).1.Seeks (r.queue n) := by
  unfold turn queue pick
  by_cases hn : n = 0
  · subst hn
    rfl
  · rw [if_neg hn, if_neg hn, ← cycle_eq_rotate]
    obtain ⟨asked, hs, hl⟩ := seek_noted readAlive (cycle n (r.cursor.toNat % n)) s []
    dsimp only
    rw [hl]
    exact hs

theorem turn_choice_lt {i : Nat} (hc : (turn readAlive n r s).1.choice = some i) : i < n := by
  obtain ⟨before, after, hq, -⟩ := (turn_seeks readAlive n r s).of_choice hc
  have hm : i ∈ r.queue n := by simp [hq]
  simpa [queue] using hm

theorem turn_rotation_of_empty (r : Rotation) (s : σ) : (turn readAlive 0 r s).2 = r := rfl

theorem cursor_turn (hn : 0 < n) (r : Rotation) (s : σ) :
    (turn readAlive n r s).2.cursor.toNat =
      r.landing n (turn readAlive n r s).1.choice % 2 ^ 64 := by
  change (pick readAlive n r s).2.1.cursor.toNat = r.landing n (pick readAlive n r s).1 % 2 ^ 64
  have hadd : (r.cursor + 1).toNat = (r.cursor.toNat + 1) % 2 ^ 64 := by
    rw [UInt64.toNat_add, UInt64.toNat_one]
  rw [pick_rotation hn]
  cases (pick readAlive n r s).1 with
  | none => exact hadd
  | some i =>
    unfold advance landing
    dsimp only
    split
    next => exact hadd
    next => exact UInt64.toNat_ofNat'

theorem landing_turn_le (readAlive : Nat → σ → Bool × σ) (n : Nat) (r : Rotation) (s : σ) :
    r.landing n (turn readAlive n r s).1.choice ≤ max (r.cursor.toNat + 1) n := by
  cases hc : (turn readAlive n r s).1.choice with
  | none => exact le_max_left _ _
  | some i =>
    have hi := turn_choice_lt hc
    unfold landing
    dsimp only
    split <;> omega

theorem lasts_turn {k : Nat} (h : r.Lasts n (k + 1)) : (turn readAlive n r s).2.Lasts n k := by
  rcases h with ⟨hc, hn⟩ | hd
  · left
    rcases Nat.eq_zero_or_pos n with rfl | hpos
    · rw [turn_rotation_of_empty]
      omega
    · have hle := landing_turn_le readAlive n r s
      have hmod := Nat.mod_le (r.landing n (turn readAlive n r s).1.choice) (2 ^ 64)
      rw [cursor_turn hpos]
      omega
  · exact .inr hd

/-- Unless the cursor wraps, the next call goes on behind the one chosen. -/
theorem queue_turn {i : Nat} (h : r.Lasts n 2) (hc : (turn readAlive n r s).1.choice = some i) :
    (turn readAlive n r s).2.queue n = (List.range n).rotate (i + 1) := by
  have hi := turn_choice_lt hc
  have hle := landing_turn_le readAlive n r s
  rw [hc] at hle
  have hwrap : r.landing n (some i) % 2 ^ 64 % n = r.landing n (some i) % n := by
    rcases h with ⟨hr, hn⟩ | hd
    · rw [Nat.mod_eq_of_lt (by omega : r.landing n (some i) < 2 ^ 64)]
    · exact Nat.mod_mod_of_dvd _ hd
  apply rotate_range_congr
  rw [cursor_turn (by omega), hc, hwrap, landing_mod]

end

section

variable {σ : Type} {readAlive : Nat → σ → Bool × σ} {n : Nat} {r : Rotation} {ss : List σ}

theorem length_turns (readAlive : Nat → σ → Bool × σ) (n : Nat) (r : Rotation) (ss : List σ) :
    (turns readAlive n r ss).length = ss.length := by
  induction ss generalizing r with
  | nil => rfl
  | cons s ss ih => exact congrArg (· + 1) (ih _)

theorem turns_take (n : Nat) (r : Rotation) (ss : List σ) (k : Nat) :
    (turns readAlive n r ss).take k = turns readAlive n r (ss.take k) := by
  induction ss generalizing r k with
  | nil => rw [turns, List.take_nil, List.take_nil, turns]
  | cons s ss ih =>
    cases k with
    | zero => rfl
    | succ k => exact congrArg ((turn readAlive n r s).1 :: ·) (ih _ k)

/-- Some of the calls in a row are calls in a row, from where the ones before have left the
cursor. -/
theorem exists_of_infix_turns {w : List Turn} (h : r.Lasts n ss.length)
    (hw : w <:+: turns readAlive n r ss) :
    ∃ r' ss', w = turns readAlive n r' ss' ∧ r'.Lasts n ss'.length := by
  induction ss generalizing r with
  | nil =>
    rw [turns, List.infix_nil] at hw
    exact ⟨r, [], hw, h⟩
  | cons s ss ih =>
    rcases List.infix_cons_iff.mp hw with hp | hi
    · rw [List.prefix_iff_eq_take.mp hp]
      change ∃ r' ss', (turns readAlive n r (s :: ss)).take w.length = _ ∧ _
      rw [turns_take]
      exact ⟨r, _, rfl, h.mono (List.length_take_le' _ _)⟩
    · exact ih (lasts_turn h) hi

/-- Behind a choice, the next call asks on from the one chosen. -/
theorem seeks_of_consecutive {t t' : Turn} {i : Nat} (h : r.Lasts n ss.length)
    (hw : [t, t'] <:+: turns readAlive n r ss) (hc : t.choice = some i) :
    t'.Seeks ((List.range n).rotate (i + 1)) := by
  obtain ⟨r', ss', he, hl⟩ := exists_of_infix_turns h hw
  have hlen : ss'.length = 2 := by
    rw [← length_turns readAlive n r', ← he]
    rfl
  match ss', hlen with
  | [s, s'], _ =>
    simp only [turns, List.cons.injEq, and_true] at he
    obtain ⟨rfl, rfl⟩ := he
    rw [← queue_turn hl hc]
    exact turn_seeks _ _ _ _

/-- Whoever never says no when asked is chosen before the queue is through. -/
theorem exists_choice_of_idxOf_lt {e : Nat} (he : e < n) (h : r.Lasts n ss.length)
    (hlt : (r.queue n).idxOf e < ss.length)
    (hno : ∀ t ∈ turns readAlive n r ss, (e, false) ∉ t.asked) :
    ∃ t ∈ turns readAlive n r ss, t.choice = some e := by
  induction ss generalizing r with
  | nil => exact absurd hlt (Nat.not_lt_zero _)
  | cons s ss ih =>
    have hmem : e ∈ r.queue n := by simpa [queue] using he
    have hs := turn_seeks readAlive n r s
    rw [turns, List.forall_mem_cons] at hno
    rw [turns, List.exists_mem_cons_iff]
    rcases hc : (turn readAlive n r s).1.choice with _ | i
    · rw [hs.choice_eq_none_iff.mp hc] at hno
      exact absurd (List.mem_map_of_mem hmem) hno.1
    · by_cases hie : i = e
      · exact .inl (congrArg some hie)
      · -- He stands behind the chosen, so that the next call asks him that much earlier.
        obtain ⟨before, after, hq, ha⟩ := hs.of_choice hc
        have hbefore : e ∉ before := by
          intro hb
          rw [ha] at hno
          exact hno.1 (List.mem_append_left _ (List.mem_map_of_mem hb))
        have hafter : e ∈ after := by
          rw [hq] at hmem
          simpa [hbefore, Ne.symm hie] using hmem
        rw [hq, List.idxOf_append_of_notMem hbefore, List.idxOf_cons_ne _ hie,
          List.length_cons] at hlt
        rw [List.length_cons] at h
        refine .inr (ih (lasts_turn h) ?_ hno.2)
        rw [queue_turn (h.mono (by omega)) hc, rotate_of_split hq, List.idxOf_append_of_mem hafter]
        omega

/-- Where the same ones are alive throughout, they are chosen in the order in which they stand in
the queue, up to a full round. -/
theorem choices_eq_take {alive : Nat → Bool} (h : r.Lasts n ss.length)
    (hk : ss.length ≤ ((r.queue n).filter alive).length)
    (ha : ∀ t ∈ turns readAlive n r ss, ∀ x ∈ t.asked, x.2 = alive x.1) :
    (turns readAlive n r ss).map Turn.choice =
      (((r.queue n).filter alive).take ss.length).map some := by
  induction ss generalizing r with
  | nil => rfl
  | cons s ss ih =>
    have hs := turn_seeks readAlive n r s
    rw [turns, List.forall_mem_cons] at ha
    rw [turns, List.map_cons, List.length_cons]
    rw [List.length_cons] at h hk
    rcases hc : (turn readAlive n r s).1.choice with _ | i
    · rw [hs.filter_of_none hc ha.1] at hk
      exact absurd hk (Nat.not_succ_le_zero _)
    · obtain ⟨before, after, hq, hskip, hi⟩ := hs.filter_of_choice hc ha.1
      have hqueue : (r.queue n).filter alive = i :: after.filter alive := by
        rw [hq, List.filter_append, hskip, List.nil_append, List.filter_cons_of_pos hi]
      rw [hqueue, List.length_cons, Nat.succ_le_succ_iff] at hk
      rw [hqueue, List.take_succ_cons, List.map_cons]
      congr 1
      rcases Nat.eq_zero_or_pos ss.length with hz | hpos
      · obtain rfl := List.length_eq_zero_iff.mp hz
        rfl
      · -- The chosen is now the last among the living.
        have hnext :
            ((turn readAlive n r s).2.queue n).filter alive = after.filter alive ++ [i] := by
          rw [queue_turn (h.mono (by omega)) hc, rotate_of_split hq, List.filter_append,
            List.filter_append, hskip, List.nil_append, List.filter_cons_of_pos hi, List.filter_nil]
        rw [ih (lasts_turn h) (by rw [hnext, List.length_append]; omega) ha.2, hnext,
          List.take_append_of_le_length hk]

end

/-- What a filter leaves of a rotated list is what it leaves of the list, rotated. -/
theorem filter_rotate_isRotated {α : Type} (p : α → Bool) (l : List α) (k : Nat) :
    (l.rotate k).filter p ~r l.filter p := by
  have hl : l.filter p = (l.take (k % l.length)).filter p ++ (l.drop (k % l.length)).filter p := by
    rw [← List.filter_append, List.take_append_drop]
  rw [List.rotate_eq_drop_append_take_mod, List.filter_append, hl]
  exact List.isRotated_append

/-- While the cursor lasts, each call goes on behind the one chosen before and asks everybody at
most once, in cyclic order, up to the first that is alive. So whoever never says no in a round of
calls is chosen in it, and if the same ones are alive throughout, as many calls as there are of them
choose each of them once, in cyclic order. -/
theorem turns_go_round {σ : Type} (readAlive : Nat → σ → Bool × σ) (n : Nat) (r : Rotation)
    (ss : List σ)
    (h : r.cursor.toNat + ss.length ≤ 2 ^ 64 ∧ n + ss.length ≤ 2 ^ 64 ∨ n ∣ 2 ^ 64) :
    let ts := turns readAlive n r ss
    (∀ t t' i, [t, t'] <:+: ts → t.choice = some i →
      t'.Seeks ((List.range n).rotate (i + 1)) ∧
        (t'.choice = none ↔ t'.asked = ((List.range n).rotate (i + 1)).map (·, false))) ∧
      (∀ w, w <:+: ts → w.length = n →
        ∀ e < n, (∀ t ∈ w, (e, false) ∉ t.asked) → ∃ t ∈ w, t.choice = some e) ∧
      ∀ w, w <:+: ts →
        ∀ alive : Nat → Bool, w.length = ((List.range n).filter alive).length →
          (∀ t ∈ w, ∀ x ∈ t.asked, x.2 = alive x.1) →
          w.map Turn.choice ~r ((List.range n).filter alive).map some := by
  intro ts
  have hlast : r.Lasts n ss.length := h
  refine ⟨fun t t' i hw hc => ?_, fun w hw hlen e he hno => ?_, fun w hw alive hlen ha => ?_⟩
  · have hs := seeks_of_consecutive hlast hw hc
    exact ⟨hs, hs.choice_eq_none_iff⟩
  · obtain ⟨r', ss', rfl, hl⟩ := exists_of_infix_turns hlast hw
    rw [length_turns] at hlen
    refine exists_choice_of_idxOf_lt he hl ?_ hno
    have hmem : e ∈ r'.queue n := by simpa [queue] using he
    calc (r'.queue n).idxOf e < (r'.queue n).length := List.idxOf_lt_length_of_mem hmem
      _ = ss'.length := by rw [queue, List.length_rotate, List.length_range, hlen]
  · obtain ⟨r', ss', rfl, hl⟩ := exists_of_infix_turns hlast hw
    rw [length_turns] at hlen
    have hrot : (r'.queue n).filter alive ~r (List.range n).filter alive :=
      filter_rotate_isRotated _ _ _
    have hfull : ss'.length = ((r'.queue n).filter alive).length :=
      hlen.trans hrot.perm.length_eq.symm
    rw [choices_eq_take hl hfull.le ha, hfull, List.take_length]
    exact hrot.map some

/-- Of four the second is dead, and the cursor wraps after the first call: the others take turns. -/
theorem turns_go_round_of_wrap :
    let readAlive := fun (i : Nat) (alive : Nat → Bool) => (alive i, alive)
    let ts := turns readAlive 4 ⟨18446744073709551615⟩ [(· ≠ 1), (· ≠ 1), (· ≠ 1)]
    4 ∣ 2 ^ 64 ∧
      ts = [⟨some 3, [(3, true)]⟩, ⟨some 0, [(0, true)]⟩, ⟨some 2, [(1, false), (2, true)]⟩] ∧
      Turn.Seeks ⟨some 2, [(1, false), (2, true)]⟩ [1, 2, 3, 0] ∧
      ts.map Turn.choice ~r [some 0, some 2, some 3] := by
  intro readAlive ts
  have hts : ts =
      [⟨some 3, [(3, true)]⟩, ⟨some 0, [(0, true)]⟩, ⟨some 2, [(1, false), (2, true)]⟩] := by
    decide
  have hd : 4 ∣ 2 ^ 64 := by norm_num
  obtain ⟨hnext, -, hround⟩ := turns_go_round readAlive 4 ⟨18446744073709551615⟩
    [(· ≠ 1), (· ≠ 1), (· ≠ 1)] (.inr hd)
  refine ⟨hd, hts, ?_, ?_⟩
  · exact (hnext ⟨some 0, [(0, true)]⟩ _ 0 ⟨[⟨some 3, [(3, true)]⟩], [], hts.symm⟩ rfl).1
  · refine hround ts List.infix_rfl (· ≠ 1) ?_ ?_
    · rw [hts]
      decide
    · rw [hts]
      decide

end RelayRoster.Rotation
