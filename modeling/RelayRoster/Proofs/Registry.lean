import Mathlib.Data.List.Nodup
import Mathlib.Data.String.Basic
import RelayRoster.Roster.Registry

namespace RelayRoster

theorem lookup_filter_ne {α β : Type} [DecidableEq α] (es : List (α × β)) (a b : α) :
    (es.filter (·.1 ≠ a)).lookup b = if b = a then none else es.lookup b := by
  induction es with
  | nil => simp
  | cons m es ih =>
    by_cases hm : m.1 = a
    · rw [List.filter_cons_of_neg (by simpa using hm), ih, List.lookup_cons]
      by_cases hb : b = a
      · rw [if_pos hb, if_pos hb]
      · have hbm : b ≠ m.1 := fun he => hb (he.trans hm)
        rw [if_neg hb, if_neg hb, beq_false_of_ne hbm]
    · rw [List.filter_cons_of_pos (by simpa using hm), List.lookup_cons, List.lookup_cons, ih]
      by_cases hb : b = a
      · have hbm : b ≠ m.1 := fun he => hm (he.symm.trans hb)
        rw [if_pos hb, beq_false_of_ne hbm, if_pos hb]
      · rw [if_neg hb, if_neg hb]

namespace Registry

/-- No address has two entries, and what readers see are the entries in order. -/
structure Sound (g : Registry) : Prop where
  keys : (g.entries.map (·.1)).Nodup
  published : g.published = byAddress g.entries

theorem sound_empty : Sound {} where
  keys := List.nodup_nil
  published := List.mergeSort_nil.symm

theorem byAddress_perm (es : List (String × Nat)) : (byAddress es).Perm es :=
  List.mergeSort_perm _ _

theorem mem_byAddress {m : String × Nat} {es : List (String × Nat)} :
    m ∈ byAddress es ↔ m ∈ es := List.mem_mergeSort

theorem byAddress_sorted {es : List (String × Nat)} (h : (es.map (·.1)).Nodup) :
    (byAddress es).Pairwise fun m n => m.1 < n.1 := by
  have hle : (byAddress es).Pairwise fun m n => m.1 ≤ n.1 := by
    unfold byAddress
    refine (List.pairwise_mergeSort ?_ ?_ es).imp fun hl => of_decide_eq_true hl
    · intro a b c hab hbc
      exact decide_eq_true (le_trans (of_decide_eq_true hab) (of_decide_eq_true hbc))
    · intro a b
      simpa using le_total a.1 b.1
  have hne : (byAddress es).Pairwise fun m n => m.1 ≠ n.1 := by
    have hn := ((byAddress_perm es).map (·.1)).nodup_iff.mpr h
    rwa [List.nodup_iff_pairwise_ne, List.pairwise_map] at hn
  exact hle.and hne |>.imp fun ⟨hl, hn⟩ => lt_of_le_of_ne hl hn

/-- Whatever the order of the entries, the same list is published. -/
theorem byAddress_eq_of_perm {es es' : List (String × Nat)} (h : (es.map (·.1)).Nodup)
    (hp : es'.Perm es) : byAddress es' = byAddress es := by
  have h' : (es'.map (·.1)).Nodup := (hp.map _).nodup_iff.mpr h
  -- Two strictly sorted lists with the same members are equal.
  refine List.Perm.eq_of_pairwise ?_ (byAddress_sorted h') (byAddress_sorted h)
    (((byAddress_perm es').trans hp).trans (byAddress_perm es).symm)
  intro m n _ _ hmn hnm
  exact absurd hnm hmn.asymm

theorem lookup_eq_some_iff_mem {es : List (String × Nat)} (h : (es.map (·.1)).Nodup)
    {a : String} {id : Nat} : es.lookup a = some id ↔ (a, id) ∈ es := by
  induction es with
  | nil => simp
  | cons m es ih =>
    rw [List.map_cons, List.nodup_cons] at h
    rw [List.lookup_cons, List.mem_cons]
    by_cases ha : a = m.1
    · have hn : (a, id) ∉ es := fun hm => h.1 (List.mem_map.mpr ⟨_, hm, ha⟩)
      subst ha
      simp only [beq_self_eq_true, Option.some.injEq, hn, or_false, Prod.ext_iff, true_and]
      exact eq_comm
    · simp only [beq_false_of_ne ha, ih h.2, Prod.ext_iff, ha, false_and, false_or]

theorem lookup_eq_none_iff_notMem {es : List (String × Nat)} {a : String} :
    es.lookup a = none ↔ a ∉ es.map (·.1) := by
  rw [List.lookup_eq_none_iff, List.mem_map]
  constructor
  · rintro h ⟨m, hm, rfl⟩
    simpa using h m hm
  · intro h m hm
    simpa using fun he : a = m.1 => h ⟨m, hm, he.symm⟩

theorem lookup_eq_of_perm {es es' : List (String × Nat)} (h : (es.map (·.1)).Nodup)
    (hp : es'.Perm es) (a : String) : es'.lookup a = es.lookup a := by
  have h' : (es'.map (·.1)).Nodup := (hp.map _).nodup_iff.mpr h
  apply Option.ext
  intro id
  rw [lookup_eq_some_iff_mem h', lookup_eq_some_iff_mem h, hp.mem_iff]

theorem taken_iff {g : Registry} {a : String} : g.taken a = true ↔ a ∈ g.entries.map (·.1) := by
  simp [taken]

theorem taken_eq_isSome (g : Registry) (a : String) : g.taken a = (g.entries.lookup a).isSome := by
  rw [Bool.eq_iff_iff, taken_iff, Option.isSome_iff_ne_none, ne_eq, lookup_eq_none_iff_notMem,
    not_not]

theorem size_ofEntries (es : List (String × Nat)) : (ofEntries es).size = es.length :=
  (byAddress_perm es).length_eq

namespace Sound

variable {g : Registry} (h : g.Sound)
include h

theorem mem_published {m : String × Nat} : m ∈ g.published ↔ m ∈ g.entries := by
  rw [h.published, mem_byAddress]

theorem published_sorted : g.published.Pairwise fun m n => m.1 < n.1 := by
  rw [h.published]
  exact byAddress_sorted h.keys

theorem get?_eq_lookup (a : String) : g.get? a = g.entries.lookup a := by
  unfold Registry.get?
  rw [h.published]
  exact lookup_eq_of_perm h.keys (byAddress_perm _) a

theorem contains_eq_taken (a : String) : g.contains a = g.taken a := by
  unfold contains
  rw [h.get?_eq_lookup, taken_eq_isSome]

theorem mem_addresses {a : String} : a ∈ g.addresses ↔ g.taken a = true := by
  unfold addresses
  rw [taken_iff, h.published]
  exact ((byAddress_perm _).map _).mem_iff

theorem addresses_sorted : g.addresses.Pairwise (· < ·) := by
  unfold addresses
  rw [List.pairwise_map]
  exact h.published_sorted

theorem addresses_nodup : g.addresses.Nodup := h.addresses_sorted.imp fun hl => hl.ne

theorem insert {a : String} (ha : g.taken a = false) (id : Nat) : (g.insert a id).Sound where
  keys := by
    change ((a, id).1 :: g.entries.map (·.1)).Nodup
    refine List.nodup_cons.mpr ⟨fun hm => ?_, h.keys⟩
    rw [taken_iff.mpr hm] at ha
    cases ha
  published := rfl

theorem erase (a : String) : (g.erase a).Sound where
  keys := h.keys.sublist ((List.filter_sublist).map _)
  published := rfl

/-- The entries may be kept in any order. -/
theorem reorder {es : List (String × Nat)} (hp : es.Perm g.entries) :
    Sound { g with entries := es } where
  keys := (hp.map _).nodup_iff.mpr h.keys
  published := h.published.trans (byAddress_eq_of_perm h.keys hp).symm

end Sound

theorem lookup_insert (g : Registry) (a : String) (id : Nat) (b : String) :
    (g.insert a id).entries.lookup b = if b = a then some id else g.entries.lookup b := by
  change ((a, id) :: g.entries).lookup b = _
  rw [List.lookup_cons]
  by_cases hb : b = a
  · simp [hb]
  · rw [beq_false_of_ne hb, if_neg hb]

theorem lookup_erase (g : Registry) (a b : String) :
    (g.erase a).entries.lookup b = if b = a then none else g.entries.lookup b :=
  lookup_filter_ne _ _ _

end Registry
end RelayRoster
