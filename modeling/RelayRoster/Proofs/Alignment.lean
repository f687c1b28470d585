import Mathlib
import RelayRoster.Proofs.Book

namespace RelayRoster

namespace Book

theorem fill_cons_of_bound {b : Book} {a : String} (h : (b.bound a).isSome = true)
    (as : List String) : b.fill (a :: as) = b.fill as := by
  unfold fill
  rw [List.foldl_cons, if_pos h]

theorem fill_cons_of_free {b : Book} {a : String} (h : (b.bound a).isSome = false)
    (as : List String) : b.fill (a :: as) = (b.enlist a).fill as := by
  unfold fill
  rw [List.foldl_cons, if_neg (by simp [h])]

theorem bound_enlist_of_free {b : Book} {a : String} (h : (b.bound a).isSome = false) (x : String) :
    (b.enlist a).bound x = if x = a then some b.made.length else b.bound x := by
  rw [enlist_of_free (by simpa using h)]
  rfl

theorem bound_fill_of_bound {b : Book} {as : List String} {x : String} {id : Nat}
    (h : b.bound x = some id) : (b.fill as).bound x = some id := by
  induction as generalizing b with
  | nil => exact h
  | cons a as ih =>
    cases ha : (b.bound a).isSome with
    | true => rw [fill_cons_of_bound ha]; exact ih h
    | false =>
      rw [fill_cons_of_free ha]
      apply ih
      have hx : x ≠ a := by
        rintro rfl
        rw [h] at ha
        cases ha
      rw [bound_enlist_of_free ha, if_neg hx, h]

theorem bound_fill_isSome {b : Book} {as : List String} {x : String} :
    ((b.fill as).bound x).isSome = true ↔ (b.bound x).isSome = true ∨ x ∈ as := by
  induction as generalizing b with
  | nil => simp [fill]
  | cons a as ih =>
    cases ha : (b.bound a).isSome with
    | true =>
      rw [fill_cons_of_bound ha, ih, List.mem_cons]
      constructor
      · exact Or.imp_right Or.inr
      · rintro (h | rfl | h)
        · exact .inl h
        · exact .inl ha
        · exact .inr h
    | false =>
      rw [fill_cons_of_free ha, ih, bound_enlist_of_free ha, List.mem_cons]
      by_cases hx : x = a <;> simp [hx]

theorem cursor_fill (b : Book) (as : List String) : (b.fill as).cursor = b.cursor := by
  induction as generalizing b with
  | nil => rfl
  | cons a as ih =>
    cases ha : (b.bound a).isSome with
    | true => rw [fill_cons_of_bound ha, ih]
    | false =>
      rw [fill_cons_of_free ha, ih, enlist_of_free (by simpa using ha)]
      rfl

theorem bound_align_isSome {b : Book} {wanted : List String} {x : String} :
    ((b.align wanted).bound x).isSome = true ↔ x ∈ wanted := by
  unfold align
  rw [bound_fill_isSome]
  change ((if x ∈ wanted then b.bound x else none).isSome = true ∨ x ∈ wanted) ↔ x ∈ wanted
  by_cases hx : x ∈ wanted <;> simp [hx]

theorem bound_align_of_bound {b : Book} {wanted : List String} {x : String} {id : Nat}
    (hx : x ∈ wanted) (h : b.bound x = some id) : (b.align wanted).bound x = some id :=
  bound_fill_of_bound ((if_pos hx).trans h)

end Book

namespace Roster

theorem removeUnwanted_of_wanted {wanted : List String} {a : String} (h : a ∈ wanted)
    (as : List String) (r : Roster) :
    removeUnwanted wanted (a :: as) r = removeUnwanted wanted as r :=
  if_pos (List.contains_iff_mem.mpr h)

theorem removeUnwanted_of_unwanted {wanted : List String} {a : String} (h : a ∉ wanted)
    (as : List String) (r : Roster) :
    removeUnwanted wanted (a :: as) r =
      let rest := removeUnwanted wanted as (r.deregister a).2
      (if r.registry.taken a then a :: rest.1 else rest.1, rest.2) := by
  rw [← deregister_fst]
  exact if_neg (by simpa using h)

theorem book_removeUnwanted (wanted as : List String) (r : Roster) :
    (removeUnwanted wanted as r).2.book =
      { r.book with bound := fun x => if x ∈ as ∧ x ∉ wanted then none else r.book.bound x } := by
  induction as generalizing r with
  | nil =>
    refine Book.ext rfl (funext fun x => ?_) rfl
    change r.book.bound x = if x ∈ [] ∧ x ∉ wanted then none else r.book.bound x
    rw [if_neg fun h => List.not_mem_nil h.1]
  | cons a as ih =>
    -- An address may stand in the list more than once; removing it again changes nothing.
    by_cases ha : a ∈ wanted
    · rw [removeUnwanted_of_wanted ha, ih]
      refine Book.ext rfl (funext fun x => ?_) rfl
      have hx : (x ∈ as ∧ x ∉ wanted) ↔ (x ∈ a :: as ∧ x ∉ wanted) := by
        rw [List.mem_cons]
        refine ⟨fun h => ⟨.inr h.1, h.2⟩, ?_⟩
        rintro ⟨rfl | h, hn⟩
        · exact absurd ha hn
        · exact ⟨h, hn⟩
      exact if_congr hx rfl rfl
    · rw [removeUnwanted_of_unwanted ha]
      dsimp only
      rw [ih, book_deregister]
      refine Book.ext rfl (funext fun x => ?_) rfl
      change (if x ∈ as ∧ x ∉ wanted then none else if x = a then none else r.book.bound x) = _
      dsimp only
      by_cases hx : x = a
      · subst hx
        rw [if_pos rfl, ite_self, if_pos ⟨List.mem_cons_self, ha⟩]
      · simp only [List.mem_cons, hx, false_or, if_false]

theorem Sound.removeUnwanted {r : Roster} (h : r.Sound) (wanted as : List String) :
    (Roster.removeUnwanted wanted as r).2.Sound := by
  induction as generalizing r with
  | nil => exact h
  | cons a as ih =>
    by_cases ha : a ∈ wanted
    · rw [removeUnwanted_of_wanted ha]; exact ih h
    · rw [removeUnwanted_of_unwanted ha]; exact ih (h.deregister a)

theorem deregister_fleet (r : Roster) (a : String) : (r.deregister a).2.fleet = r.fleet := by
  cases ht : r.registry.taken a with
  | true => rw [deregister_of_taken ht]
  | false => rw [deregister_of_free ht]

theorem removeUnwanted_fleet (wanted as : List String) (r : Roster) :
    (removeUnwanted wanted as r).2.fleet = r.fleet := by
  induction as generalizing r with
  | nil => rfl
  | cons a as ih =>
    by_cases ha : a ∈ wanted
    · rw [removeUnwanted_of_wanted ha, ih]
    · rw [removeUnwanted_of_unwanted ha]
      exact (ih _).trans (deregister_fleet r a)

theorem removeUnwanted_fst {wanted as : List String} {r : Roster} (hn : as.Nodup)
    (ht : ∀ a ∈ as, r.registry.taken a = true) :
    (removeUnwanted wanted as r).1 = as.filter (· ∉ wanted) := by
  induction as generalizing r with
  | nil => rfl
  | cons a as ih =>
    rw [List.nodup_cons] at hn
    rw [List.forall_mem_cons] at ht
    by_cases ha : a ∈ wanted
    · rw [removeUnwanted_of_wanted ha, ih hn.2 ht.2, List.filter_cons_of_neg (by simpa using ha)]
    · -- No address comes twice, so the others are still registered.
      have ht' : ∀ x ∈ as, (r.deregister a).2.registry.taken x = true := by
        intro x hx
        have hne : x ≠ a := fun he => hn.1 (he ▸ hx)
        rw [← book_bound_isSome, book_deregister]
        change (if x = a then none else r.book.bound x).isSome = true
        rw [if_neg hne, book_bound_isSome]
        exact ht.2 x hx
      rw [removeUnwanted_of_unwanted ha, List.filter_cons_of_pos (by simpa using ha)]
      dsimp only
      rw [if_pos ht.1, ih hn.2 ht']

theorem addMissing_of_contained {health : HealthSettings} {a : String} {r : Roster}
    (h : r.registry.contains a = true) (as : List String) :
    addMissing health (a :: as) r = addMissing health as r := if_pos h

theorem addMissing_of_missing {health : HealthSettings} {a : String} {r : Roster} (hr : r.Sound)
    (h : r.registry.contains a = false) (as : List String) :
    addMissing health (a :: as) r =
      let rest := addMissing health as (r.enlist (.relay (.ofSettings health a))).2
      (a :: rest.1, rest.2) := by
  have hd : (r.enlist (.relay (.ofSettings health a))).1 = true := by
    rw [enlist_fst]
    change (!r.registry.taken a) = true
    rw [← hr.registry.contains_eq_taken, h]
    rfl
  change (if r.registry.contains a then _ else _) = _
  rw [if_neg (by simp [h])]
  generalize r.enlist (.relay (.ofSettings health a)) = d at hd ⊢
  obtain ⟨done, r'⟩ := d
  dsimp only at hd
  subst hd
  rfl

theorem book_addMissing {health : HealthSettings} {as : List String} {r : Roster} (h : r.Sound) :
    (addMissing health as r).2.book = r.book.fill as := by
  induction as generalizing r with
  | nil => rfl
  | cons a as ih =>
    have hb : (r.book.bound a).isSome = r.registry.contains a := by
      rw [book_bound_isSome, h.registry.contains_eq_taken]
    cases hc : r.registry.contains a with
    | true => rw [addMissing_of_contained hc, ih h, Book.fill_cons_of_bound (hb.trans hc)]
    | false =>
      rw [addMissing_of_missing h hc, Book.fill_cons_of_free (hb.trans hc)]
      exact (ih (h.enlist _)).trans (congrArg (Book.fill · as) (book_enlist r _))

theorem Sound.addMissing {r : Roster} (h : r.Sound) (health : HealthSettings) (as : List String) :
    (Roster.addMissing health as r).2.Sound := by
  induction as generalizing r with
  | nil => exact h
  | cons a as ih =>
    cases hc : r.registry.contains a with
    | true => rw [addMissing_of_contained hc]; exact ih h
    | false => rw [addMissing_of_missing h hc]; exact ih (h.enlist _)

theorem register_fleet (r : Roster) (id : Nat) : (r.register id).2.fleet = r.fleet := by
  cases he : r.fleet[id]? with
  | none => rw [register_of_none he]
  | some e =>
    cases ht : r.registry.taken e.address with
    | true => rw [register_of_taken he ht]
    | false => rw [register_of_free he ht]

theorem enlist_fleet (r : Roster) (e : Endpoint) : (r.enlist e).2.fleet = r.fleet.push e :=
  register_fleet _ _

/-- Each address that is missing is added once, where it comes first. -/
theorem addMissing_fst {health : HealthSettings} {as : List String} {r : Roster} (h : r.Sound) :
    (addMissing health as r).1 = (as.filter fun a => !r.registry.taken a).eraseDups := by
  induction as generalizing r with
  | nil => rfl
  | cons a as ih =>
    have hc' := h.registry.contains_eq_taken a
    cases hc : r.registry.contains a with
    | true =>
      rw [addMissing_of_contained hc, ih h, List.filter_cons_of_neg (by simp [← hc', hc])]
    | false =>
      rw [addMissing_of_missing h hc, List.filter_cons_of_pos (by simp [← hc', hc]),
        List.eraseDups_cons]
      dsimp only
      -- From here on the address added now is registered too, which is what erases its repeats.
      rw [ih (h.enlist _), List.filter_filter]
      congr 2
      apply List.filter_congr
      intro x _
      have hb : (r.book.bound a).isSome = false := by rw [book_bound_isSome, ← hc', hc]
      rw [← book_bound_isSome, book_enlist]
      change (!((r.book.enlist a).bound x).isSome) = _
      rw [Book.bound_enlist_of_free hb]
      by_cases hx : x = a
      · simp [hx]
      · simp [hx, book_bound_isSome]

theorem addMissing_fleet {r : Roster} (h : r.Sound) (health : HealthSettings) (as : List String) :
    (addMissing health as r).2.fleet.toList =
      r.fleet.toList ++ (addMissing health as r).1.map fun a => .relay (.ofSettings health a) := by
  induction as generalizing r with
  | nil => simp [addMissing]
  | cons a as ih =>
    cases hc : r.registry.contains a with
    | true => rw [addMissing_of_contained hc]; exact ih h
    | false =>
      rw [addMissing_of_missing h hc]
      dsimp only
      rw [ih (h.enlist _), enlist_fleet]
      simp

theorem book_align {r : Roster} (h : r.Sound) (s : Settings) :
    (r.align s).2.book = r.book.align s.endpoints := by
  change (addMissing s.health s.endpoints
    (removeUnwanted s.endpoints r.registry.addresses r).2).2.book = _
  rw [book_addMissing (h.removeUnwanted _ _), book_removeUnwanted]
  unfold Book.align
  congr 1
  refine Book.ext rfl (funext fun x => ?_) rfl
  change (if x ∈ r.registry.addresses ∧ x ∉ s.endpoints then none else r.book.bound x) =
    if x ∈ s.endpoints then r.book.bound x else none
  by_cases hx : x ∈ s.endpoints
  · rw [if_neg (fun h => h.2 hx), if_pos hx]
  · rw [if_neg hx, ite_eq_left_iff]
    intro hn
    have ht : ¬ r.registry.taken x = true := fun ht => hn ⟨h.registry.mem_addresses.mpr ht, hx⟩
    rwa [← book_bound_isSome, Option.not_isSome_iff_eq_none] at ht

theorem Sound.align {r : Roster} (h : r.Sound) (s : Settings) : (r.align s).2.Sound := by
  have ha := (h.removeUnwanted s.endpoints r.registry.addresses).addMissing s.health s.endpoints
  have hl : Alike (Roster.addMissing s.health s.endpoints
      (Roster.removeUnwanted s.endpoints r.registry.addresses r).2).2 (r.align s).2 :=
    ⟨rfl, rfl, rfl⟩
  exact hl.sound ha

theorem align_removed {r : Roster} (h : r.Sound) (s : Settings) :
    (r.align s).1.removed = r.registry.addresses.filter (· ∉ s.endpoints) :=
  removeUnwanted_fst h.registry.addresses_nodup fun _ ha => h.registry.mem_addresses.mp ha

theorem align_added {r : Roster} (h : r.Sound) (s : Settings) :
    (r.align s).1.added = (s.endpoints.filter (· ∉ r.registry.addresses)).eraseDups := by
  change (addMissing s.health s.endpoints
    (removeUnwanted s.endpoints r.registry.addresses r).2).1 = _
  rw [addMissing_fst (h.removeUnwanted _ _)]
  congr 1
  apply List.filter_congr
  intro x hx
  rw [← book_bound_isSome, book_removeUnwanted]
  change (!(if x ∈ r.registry.addresses ∧ x ∉ s.endpoints then none
    else r.book.bound x).isSome) = _
  rw [if_neg fun hn => hn.2 hx, book_bound_isSome]
  by_cases ha : x ∈ r.registry.addresses
  · simp [ha, h.registry.mem_addresses.mp ha]
  · have ht : r.registry.taken x = false :=
      Bool.eq_false_iff.mpr fun ht => ha (h.registry.mem_addresses.mpr ht)
    simp [ha, ht]

theorem align_fleet {r : Roster} (h : r.Sound) (s : Settings) :
    (r.align s).2.fleet.toList =
      r.fleet.toList ++ (r.align s).1.added.map fun a => .relay (.ofSettings s.health a) := by
  have hf := addMissing_fleet (h.removeUnwanted s.endpoints r.registry.addresses) s.health
    s.endpoints
  rwa [removeUnwanted_fleet] at hf

theorem align_rotation {r : Roster} (h : r.Sound) (s : Settings) :
    (r.align s).2.rotation = r.rotation := by
  have hc : (r.align s).2.book.cursor = r.book.cursor := by
    rw [book_align h]
    exact Book.cursor_fill _ _
  exact congrArg Rotation.mk hc

/-- Settings that list just what is registered change nothing. -/
theorem align_of_same {r : Roster} (h : r.Sound) {s : Settings}
    (hs : ∀ a, a ∈ s.endpoints ↔ r.registry.contains a = true) :
    r.align s = ({}, r.report (.aligned 0 0 r.registry.size)) := by
  have hr (as : List String) (ha : ∀ a ∈ as, a ∈ s.endpoints) :
      removeUnwanted s.endpoints as r = ([], r) := by
    induction as with
    | nil => rfl
    | cons a as ih =>
      rw [List.forall_mem_cons] at ha
      rw [removeUnwanted_of_wanted ha.1, ih ha.2]
  have hm (as : List String) (ha : ∀ a ∈ as, r.registry.contains a = true) :
      addMissing s.health as r = ([], r) := by
    induction as with
    | nil => rfl
    | cons a as ih =>
      rw [List.forall_mem_cons] at ha
      rw [addMissing_of_contained ha.1, ih ha.2]
  unfold align
  rw [hr]
  · dsimp only
    rw [hm _ fun a ha => (hs a).mp ha]
    rfl
  · intro a ha
    rw [hs, h.registry.contains_eq_taken]
    exact h.registry.mem_addresses.mp ha

theorem align_contains {r : Roster} (h : r.Sound) (s : Settings) (a : String) :
    (r.align s).2.registry.contains a = true ↔ a ∈ s.endpoints := by
  rw [(h.align s).registry.contains_eq_taken, ← book_bound_isSome, book_align h]
  exact Book.bound_align_isSome

/-- An endpoint whose address stays is the same one, in the same state. -/
theorem align_keeps {r : Roster} (h : r.Sound) {s : Settings} {a : String} {id : Nat}
    (ha : a ∈ s.endpoints) (hg : r.registry.get? a = some id) :
    (r.align s).2.registry.get? a = some id ∧ (r.align s).2.fleet[id]? = r.fleet[id]? := by
  rw [h.registry.get?_eq_lookup] at hg
  constructor
  · have hb : ((r.align s).2.book.bound a) = some id := by
      rw [book_align h]
      exact Book.bound_align_of_bound ha hg
    rw [(h.align s).registry.get?_eq_lookup]
    exact hb
  · have hm := h.named _ ((Registry.lookup_eq_some_iff_mem h.registry.keys).mp hg)
    have hlt : id < r.fleet.toList.length := by
      have hl := (List.getElem?_eq_some_iff.mp hm).1
      rwa [names_length] at hl
    rw [← Array.getElem?_toList, align_fleet h, List.getElem?_append_left hlt,
      Array.getElem?_toList]

/-- An alignment changes nothing exactly if just the listed addresses are registered. -/
theorem align_isEmpty_iff {r : Roster} (h : r.Sound) (s : Settings) :
    (r.align s).1.isEmpty = true ↔ ∀ a, r.registry.contains a = true ↔ a ∈ s.endpoints := by
  unfold Changes.isEmpty
  rw [Bool.and_eq_true, List.isEmpty_iff, List.isEmpty_iff, align_removed h, align_added h,
    List.filter_eq_nil_iff]
  have hadd : (s.endpoints.filter (· ∉ r.registry.addresses)).eraseDups = [] ↔
      ∀ a ∈ s.endpoints, a ∈ r.registry.addresses := by
    rw [List.eq_nil_iff_forall_not_mem]
    simp only [List.mem_eraseDups, List.mem_filter, decide_eq_true_eq, not_and, not_not]
  rw [hadd]
  simp only [decide_eq_true_eq, not_not, h.registry.contains_eq_taken, ← h.registry.mem_addresses]
  exact ⟨fun hh a => ⟨hh.2 a, hh.1 a⟩, fun hh => ⟨fun a => (hh a).mpr, fun a => (hh a).mp⟩⟩

/-- After an alignment just the listed addresses are registered, those that were there before with
the same endpoint in the same state. The summary names the addresses that went, in ascending order,
and those that came, as listed and each once. A second alignment to the same addresses changes
nothing. -/
theorem align_to_settings {r : Roster} (h : r.Sound) (s : Settings) :
    (∀ a, (r.align s).2.registry.contains a = true ↔ a ∈ s.endpoints) ∧
      (∀ a ∈ s.endpoints, ∀ id, r.registry.get? a = some id →
        (r.align s).2.registry.get? a = some id ∧ (r.align s).2.fleet[id]? = r.fleet[id]?) ∧
      (r.align s).1.removed = r.registry.addresses.filter (· ∉ s.endpoints) ∧
      (r.align s).1.removed.Pairwise (fun a b => Text.bytes a < Text.bytes b) ∧
      (r.align s).1.added = (s.endpoints.filter (· ∉ r.registry.addresses)).eraseDups ∧
      (r.align s).2.rotation = r.rotation ∧
      ((r.align s).1.isEmpty = true ↔ ∀ a, r.registry.contains a = true ↔ a ∈ s.endpoints) ∧
      ∀ s' : Settings, (∀ a, a ∈ s'.endpoints ↔ a ∈ s.endpoints) →
        (r.align s).2.align s' =
          ({}, (r.align s).2.report (.aligned 0 0 (r.align s).2.registry.size)) := by
  refine ⟨align_contains h s, fun a ha id => align_keeps h ha, align_removed h s, ?_,
    align_added h s, align_rotation h s, align_isEmpty_iff h s, fun s' hs => ?_⟩
  · rw [align_removed h]
    exact (h.registry.addresses_sorted.sublist List.filter_sublist).imp
      fun hl => (Text.lt_iff_bytes_lt _ _).mp hl
  · exact align_of_same (h.align s) fun a => (hs a).trans (align_contains h s a).symm

/-- An address that is listed twice is added once, and one that is not listed goes. -/
theorem align_to_settings_of_repeat :
    ∃ (r : Roster) (s : Settings), r.Sound ∧ r.registry.addresses = ["a:1", "b:1"] ∧
      s.endpoints = ["c:1", "c:1", "b:1"] ∧
      (r.align s).1.removed = ["a:1"] ∧ (r.align s).1.added = ["c:1"] := by
  let r := ((({} : Roster).enlist (.rehearsed { address := "b:1" })).2.enlist
    (.rehearsed { address := "a:1" })).2
  let s : Settings := { endpoints := ["c:1", "c:1", "b:1"] }
  have hr : r.Sound := (sound_empty.enlist _).enlist _
  have ha : r.registry.addresses = ["a:1", "b:1"] := by cbv
  obtain ⟨-, -, hremoved, -, hadded, -⟩ := align_to_settings hr s
  refine ⟨r, s, hr, ha, rfl, ?_, ?_⟩
  · rw [hremoved, ha]
    decide
  · rw [hadded, ha]
    decide

end Roster
end RelayRoster
