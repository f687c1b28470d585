import Mathlib
import RelayRoster.Proofs.Starvation

namespace RelayRoster

theorem count_residue (c : Nat) {n i : Nat} (hi : i < n) (k : Nat) :
    ∃ v, Nat.count (fun j => (c + j) % n = i) k = k / n + if v % n < k % n then 1 else 0 := by
  have hc : c % n < n := Nat.mod_lt _ (Nat.zero_lt_of_lt hi)
  have hv : (c + (i + (n - c % n))) % n = i := by
    rw [← Nat.mod_add_mod, show c % n + (i + (n - c % n)) = i + n by omega, Nat.add_mod_right,
      Nat.mod_eq_of_lt hi]
  refine ⟨i + (n - c % n), ?_⟩
  rw [← Nat.count_modEq_card _ (Nat.zero_lt_of_lt hi)]
  congr 1
  funext j
  refine propext ⟨fun h => ?_, fun h => ?_⟩
  · exact Nat.ModEq.add_left_cancel' c (h.trans hv.symm)
  · exact (show (c + j) % n = _ from Nat.ModEq.add_left c h).trans hv

/-- A counter that wraps within a round takes one residue twice, unless the modulus divides what it
counts to. -/
theorem exists_residue_twice {b c n : Nat} (hc : c < b) (hw : b < c + n) (hd : ¬ n ∣ b) :
    ∃ j k, j < k ∧ k < n ∧ (c + j) % b % n = (c + k) % b % n := by
  rcases Nat.lt_or_ge b n with hn | hn
  · exact ⟨0, b, by omega, hn, by rw [Nat.add_zero, Nat.add_mod_right]⟩
  have hr : 0 < b % n := Nat.pos_of_ne_zero fun h => hd (Nat.dvd_of_mod_eq_zero h)
  have hrn : b % n < n := Nat.mod_lt _ (by omega)
  have hb : n * (b / n) + b % n = b := Nat.div_add_mod b n
  -- A residue that comes up before the wrap, counting down from that of `b`, and after it.
  obtain ⟨x, hx, hxn, hxc⟩ : ∃ x, x < b % n ∧ b - c + x < n ∧ b % n - x ≤ b - c :=
    ⟨min (b % n - 1) (n - (b - c) - 1), by omega, by omega, by omega⟩
  have hj : c + (b - c - (b % n - x)) = n * (b / n) + x := by omega
  have hk : c + (b - c + x) = b + x := by omega
  refine ⟨b - c - (b % n - x), b - c + x, by omega, hxn, ?_⟩
  rw [hj, hk, Nat.mod_eq_of_lt (by omega : n * (b / n) + x < b), Nat.mul_add_mod,
    Nat.add_mod_left, Nat.mod_eq_of_lt (by omega : x < b)]

theorem mod_wrap_mod {b c n k : Nat} (h : c + k ≤ b ∨ n ∣ b) {j : Nat} (hj : j < k) :
    (c + j) % b % n = (c + j) % n := by
  rcases h with h | h
  · rw [Nat.mod_eq_of_lt (by omega : c + j < b)]
  · exact Nat.mod_mod_of_dvd _ h

theorem add_sub_one_div {k n : Nat} (h : 0 < k % n) (hn : 0 < n) : (k + n - 1) / n = k / n + 1 := by
  have hk : n * (k / n) + k % n = k := Nat.div_add_mod k n
  have hlt : k % n < n := Nat.mod_lt _ hn
  have he : k + n - 1 = k % n - 1 + n * (k / n + 1) := by
    rw [Nat.mul_add, Nat.mul_one]
    omega
  rw [he, Nat.add_mul_div_left _ _ hn, Nat.div_eq_of_lt (by omega), Nat.zero_add]

section

variable {α : Type} [BEq α] [LawfulBEq α] {l : List α} {m : α}

theorem getElem?_eq_some_iff_idxOf (hn : l.Nodup) (hm : m ∈ l) {i : Nat} :
    l[i]? = some m ↔ i = l.idxOf m := by
  constructor
  · intro h
    obtain ⟨hi, rfl⟩ := List.getElem?_eq_some_iff.mp h
    exact (hn.idxOf_getElem i hi).symm
  · rintro rfl
    exact List.getElem?_idxOf hm

theorem count_map_getElem? (hn : l.Nodup) (hm : m ∈ l) (f : Nat → Nat) (k : Nat) :
    ((List.range k).map fun j => l[f j]?).count (some m) =
      Nat.count (fun j => f j = l.idxOf m) k := by
  induction k with
  | zero => simp
  | succ k ih =>
    rw [List.range_succ, List.map_append, List.count_append, ih, Nat.count_succ, List.map_singleton,
      List.count_singleton]
    simp only [beq_iff_eq, getElem?_eq_some_iff_idxOf hn hm]

/-- While the positions are consecutive residues, the members take turns. -/
theorem count_of_residues (hn : l.Nodup) (hm : m ∈ l) {f : Nat → Nat} {c k : Nat}
    (hf : ∀ j < k, f j = (c + j) % l.length) :
    ∃ v, ((List.range k).map fun j => l[f j]?).count (some m) =
      k / l.length + if v % l.length < k % l.length then 1 else 0 := by
  have hi := List.idxOf_lt_length_of_mem hm
  have hmap : (List.range k).map (fun j => l[f j]?) =
      (List.range k).map fun j => l[(c + j) % l.length]? :=
    List.map_congr_left fun j hj => by rw [hf j (List.mem_range.mp hj)]
  rw [hmap, count_map_getElem? hn hm]
  exact count_residue c hi k

end

/-- Whether the living are just these, and stand by it. -/
structure Steady (l : List (String × Nat)) (r : Roster) : Prop where
  standsBy : r.StandsBy
  alive : r.alive = l

theorem Steady.upholds {l : List (String × Nat)} {r : Roster} (h : Steady l r) {m : String × Nat}
    (hm : m ∈ l) : Upholds (· = l) m r := ⟨h.standsBy, h.alive, h.alive ▸ hm⟩

namespace Spell

variable {P Q : Roster → Prop} {start r : Roster} {as : List (Option (String × Nat))}
  {l : List (String × Nat)}

theorem mono (h : Spell P start as r) (hPQ : ∀ r, P r → Q r) : Spell Q start as r := by
  induction h with
  | start => exact .start
  | shuffle _ hp ih => exact ih.shuffle hp
  | step _ hq hr ih => exact ih.step hq hr
  | select _ hp ih => exact ih.select (hPQ _ hp)

theorem nodup_alive (hs : start.Sound) (h : Spell (Steady l) start as r) (ha : as ≠ []) :
    l.Nodup := by
  induction h with
  | start => exact absurd rfl ha
  | shuffle _ _ ih => exact ih ha
  | step _ _ _ ih => exact ih ha
  | select h hp _ =>
    rw [← hp.alive]
    exact ((h.sound hs).published_ids_nodup.of_map _).filter _

variable (hs : start.Sound) (h : Spell (Steady l) start as r)
include hs h

/-- The selections follow the cursor round the list of the living. -/
theorem getElem?_of_steady (hl : l ≠ []) {k : Nat} (hk : k < as.length) :
    as[k]? = some l[(start.rotation.cursor.toNat + k) % 2 ^ 64 % l.length]? := by
  obtain ⟨m, hm⟩ := List.exists_mem_of_ne_nil l hl
  obtain ⟨l', -, rfl, -, ha⟩ := (h.mono fun _ hp => hp.upholds hm).getElem? hs hk
  rw [ha, UInt64.toNat_add, UInt64.toNat_ofNat', Nat.add_mod_mod]

theorem eq_map_range (hl : l ≠ []) :
    as = (List.range as.length).map
      fun k => l[(start.rotation.cursor.toNat + k) % 2 ^ 64 % l.length]? := by
  refine List.ext_getElem? fun k => ?_
  rcases Nat.lt_or_ge k as.length with hk | hk
  · rw [h.getElem?_of_steady hs hl hk, List.getElem?_map, List.getElem?_range hk]
    rfl
  · rw [List.getElem?_eq_none hk, List.getElem?_eq_none (by simpa using hk)]

theorem exists_of_mem (hl : l ≠ []) {a : Option (String × Nat)} (ha : a ∈ as) :
    ∃ m ∈ l, a = some m := by
  obtain ⟨k, hk, rfl⟩ := List.getElem_of_mem ha
  have hi := Nat.mod_lt ((start.rotation.cursor.toNat + k) % 2 ^ 64) (List.length_pos_of_ne_nil hl)
  have hg := h.getElem?_of_steady hs hl hk
  rw [List.getElem?_eq_getElem hk, List.getElem?_eq_getElem hi] at hg
  exact ⟨_, List.getElem_mem hi, Option.some.inj hg⟩

/-- In a stretch in which a wrap does no harm, the members have their turns evenly. -/
theorem count_of_steady {m : String × Nat} (hm : m ∈ l) (ha : as ≠ [])
    (hc : start.rotation.cursor.toNat + as.length ≤ 2 ^ 64 ∨ l.length ∣ 2 ^ 64) :
    ∃ v, as.count (some m) =
      as.length / l.length + if v % l.length < as.length % l.length then 1 else 0 := by
  obtain ⟨v, hv⟩ := count_of_residues (h.nodup_alive hs ha) hm fun j hj => mod_wrap_mod hc hj
  have has := h.eq_map_range hs (List.ne_nil_of_mem hm)
  exact ⟨v, (congrArg (List.count (some m)) has).trans hv⟩

/-- A round in which the cursor wraps and its residues jump selects somebody twice. -/
theorem not_nodup_of_wrap (hl : l ≠ []) (hlen : as.length = l.length)
    (hc : 2 ^ 64 < start.rotation.cursor.toNat + l.length) (hd : ¬ l.length ∣ 2 ^ 64) :
    ¬ as.Nodup := by
  obtain ⟨j, k, hjk, hk, he⟩ := exists_residue_twice start.rotation.cursor.toNat_lt hc hd
  rw [List.nodup_iff_getElem?_ne_getElem?]
  intro hne
  refine hne j k hjk (by omega) ?_
  rw [h.getElem?_of_steady hs hl (by omega), h.getElem?_of_steady hs hl (by omega), he]

end Spell

/-- While the same ones are alive and stand by it, the selections follow the cursor round the list
of them, wherever it starts and also where it wraps. So a stretch in which it does not wrap is
shared out evenly and begins anew after a round; and a round selects each of them once exactly if
the cursor does not wrap in it, or their number divides what the cursor counts to. -/
theorem selections_follow_cursor {start r : Roster} (hs : start.Sound) {l : List (String × Nat)}
    (hl : l ≠ []) {as : List (Option (String × Nat))} (h : Spell (Steady l) start as r) :
    let c := start.rotation.cursor.toNat
    let n := l.length
    as = ((List.range as.length).map fun k => l[(c + k) % 2 ^ 64 % n]?) ∧
      (c + as.length ≤ 2 ^ 64 →
        (∀ m ∈ l, as.count (some m) = as.length / n ∨
          as.count (some m) = (as.length + n - 1) / n) ∧
        (n < as.length → as[n]? = as[0]?)) ∧
      (as.length = n →
        ((∀ m ∈ l, as.count (some m) = 1) ↔ c + n ≤ 2 ^ 64 ∨ n ∣ 2 ^ 64)) := by
  intro c n
  have hn : 0 < n := List.length_pos_of_ne_nil hl
  refine ⟨h.eq_map_range hs hl, fun hc => ⟨fun m hm => ?_, fun hlt => ?_⟩,
    fun hlen => ⟨fun hone => ?_, fun hr m hm => ?_⟩⟩
  · rcases eq_or_ne as [] with rfl | ha
    · exact .inl (Nat.zero_div n).symm
    · obtain ⟨v, hv⟩ := h.count_of_steady hs hm ha (.inl hc)
      rw [hv]
      split
      next hlt => exact .inr (add_sub_one_div (Nat.zero_lt_of_lt hlt) hn).symm
      next => exact .inl (Nat.add_zero _)
  · rw [h.getElem?_of_steady hs hl hlt, h.getElem?_of_steady hs hl (by omega),
      mod_wrap_mod (.inl hc) hlt, mod_wrap_mod (.inl hc) (by omega : 0 < as.length),
      Nat.add_mod_right, Nat.add_zero]
  -- Where the cursor wraps within the round, somebody is selected twice.
  · by_contra hr
    rw [not_or, not_le] at hr
    refine h.not_nodup_of_wrap hs hl hlen hr.1 hr.2 (List.nodup_iff_count_le_one.mpr fun a => ?_)
    by_cases ha : a ∈ as
    · obtain ⟨m, hm, rfl⟩ := h.exists_of_mem hs hl ha
      exact (hone m hm).le
    · rw [List.count_eq_zero_of_not_mem ha]
      exact Nat.zero_le 1
  · have ha : as ≠ [] := List.ne_nil_of_length_pos (hlen ▸ hn)
    obtain ⟨v, hv⟩ := h.count_of_steady hs hm ha (hlen ▸ hr)
    rw [hv, hlen, Nat.div_self hn, Nat.mod_self, if_neg (Nat.not_lt_zero _)]

/-- However many selections are asked for, there is a stretch of so many with just those alive that
a test admits. -/
theorem exists_spell_of_steady {r : Roster} (h : r.Sound) (p : String × Nat → Bool) (k : Nat) :
    ∃ as r', Spell (Steady (r.registry.published.filter p)) r as r' ∧ as.length = k := by
  induction k with
  | zero => exact ⟨[], r, .start, rfl⟩
  | succ k ih =>
    obtain ⟨as, r', hs, hl⟩ := ih
    have hr' := hs.sound h
    have hst := hs.stage p r'.registry.published
    have halive :
        (Roster.stage p r'.registry.published r').alive = r.registry.published.filter p := by
      rw [hr'.alive_stage, hs.published]
    exact ⟨_, _, hst.select ⟨hr'.standsBy_stage, halive⟩, by rw [List.length_append, hl]; rfl⟩

/-- Three take turns at the end of what the cursor counts to: the first of them is selected twice in
a row, and the last has no turn in the round. -/
theorem selections_follow_cursor_of_three :
    ∃ (start r : Roster) (as : List (Option (String × Nat))), start.Sound ∧
      start.rotation.cursor = 18446744073709551615 ∧
      Spell (Steady [("a:1", 0), ("b:1", 1), ("c:1", 2)]) start as r ∧
      as = [some ("a:1", 0), some ("a:1", 0), some ("b:1", 1)] ∧
      ¬ ∀ m ∈ [("a:1", 0), ("b:1", 1), ("c:1", 2)], as.count (some m) = 1 := by
  obtain ⟨t, r, hr, hp⟩ := exists_run_of_three
  have hr' := hr.sound Roster.sound_empty
  let start : Roster := { r with rotation := ⟨18446744073709551615⟩ }
  have hs : start.Sound := ⟨hr'.registry, hr'.named⟩
  have hcursor : start.rotation.cursor.toNat = 18446744073709551615 := rfl
  have hl : start.registry.published.filter (fun _ => true) =
      [("a:1", 0), ("b:1", 1), ("c:1", 2)] := by
    rw [List.filter_true]
    exact hp
  obtain ⟨as, r', hspell, hlen⟩ := exists_spell_of_steady hs (fun _ => true) 3
  rw [hl] at hspell
  obtain ⟨has, -, hround⟩ := selections_follow_cursor hs (by decide) hspell
  refine ⟨start, r', as, hs, rfl, hspell, ?_, ?_⟩
  · rw [has, hlen, hcursor]
    simp [List.range_succ]
  · rw [hround hlen, hcursor]
    norm_num

end RelayRoster
