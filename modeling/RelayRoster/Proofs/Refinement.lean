import RelayRoster.Proofs.Run

namespace RelayRoster

namespace Book

/-- The answers that a book allows to a step, and the book after it. Which of the bound endpoints a
selection finds alive, and where it leaves the cursor, is not the book's affair. -/
inductive Allows (b : Book) : Step → Answer → Book → Prop
  | make (e : Endpoint) : b.Allows (.call (.make e)) .nothing (b.make e.address)
  | change (id : Nat) (e : Endpoint) : b.Allows (.call (.change id e)) .nothing b
  | unmade {id : Nat} (hm : b.made[id]? = none) : b.Allows (.call (.register id)) .nothing b
  | taken {id other : Nat} {a : String} (hm : b.made[id]? = some a) (hb : b.bound a = some other) :
      b.Allows (.call (.register id)) (.taken a) b
  | registered {id : Nat} {a : String} (hm : b.made[id]? = some a) (hb : b.bound a = none) :
      b.Allows (.call (.register id)) .registered (b.bind a id)
  | gone {id : Nat} {a : String} (hb : b.bound a = some id) :
      b.Allows (.call (.deregister a)) (.deregistered true) (b.unbind a)
  | absent {a : String} (hb : b.bound a = none) :
      b.Allows (.call (.deregister a)) (.deregistered false) b
  | chosen {m : String × Nat} (hb : b.bound m.1 = some m.2) (cursor : UInt64) :
      b.Allows (.call .select) (.selected (some m)) { b with cursor }
  | nobody (cursor : UInt64) : b.Allows (.call .select) (.selected none) { b with cursor }
  | members {ms : List (String × Nat)} (hl : b.Lists ms) :
      b.Allows (.call .members) (.members ms) b
  | aliveMembers {ms alive : List (String × Nat)} (hl : b.Lists ms) (hs : alive.Sublist ms) :
      b.Allows (.call .aliveMembers) (.members alive) b
  | get (a : String) : b.Allows (.call (.get a)) (.found (b.bound a)) b
  | contains (a : String) : b.Allows (.call (.contains a)) (.truth (b.bound a).isSome) b
  | addresses {ms : List (String × Nat)} (hl : b.Lists ms) :
      b.Allows (.call .addresses) (.addresses (ms.map (·.1))) b
  | size {ms : List (String × Nat)} (hl : b.Lists ms) :
      b.Allows (.call .size) (.count ms.length) b
  | isEmpty {ms : List (String × Nat)} (hl : b.Lists ms) :
      b.Allows (.call .isEmpty) (.truth (ms.length = 0)) b
  | align (s : Settings) (c : Changes) :
      b.Allows (.call (.align s)) (.aligned c) (b.align s.endpoints)
  | sweep (net : Network) (w : Sweep) :
      b.Allows (.sweep net) (.swept w) (w.edits.foldl edit b)

inductive Explains : List (Step × Answer) → Book → Prop
  | start : Explains [] {}
  | step {t : List (Step × Answer)} {q : Step} {a : Answer} {b b' : Book} (h : Explains t b)
      (ha : b.Allows q a b') : Explains (t ++ [(q, a)]) b'

end Book

namespace Roster

theorem register_allowed (r : Roster) (id : Nat) :
    r.book.Allows (.call (.register id)) (r.call (.register id)).1 (r.call (.register id)).2.book := by
  have hn : r.book.made[id]? = r.fleet[id]?.map Endpoint.address := getElem?_names r id
  cases he : r.fleet[id]? with
  | none =>
    rw [call_register_of_none he]
    exact .unmade (by rw [hn, he]; rfl)
  | some e =>
    rw [he] at hn
    have hb := book_bound_isSome r e.address
    cases ht : r.registry.taken e.address with
    -- The registry and the book agree on whether the address is taken.
    | true =>
      rw [ht, Option.isSome_iff_exists] at hb
      obtain ⟨other, ho⟩ := hb
      rw [call_register_of_taken he ht]
      exact .taken hn ho
    | false =>
      rw [ht, Option.isSome_eq_false_iff, Option.isNone_iff_eq_none] at hb
      have hk : r.book.add id = r.book.bind e.address id := by
        unfold Book.add
        rw [hn]
        dsimp only [Option.map_some]
        rw [hb]
        rfl
      rw [call_register_of_free he ht]
      dsimp only
      rw [book_register, hk]
      exact .registered hn hb

theorem deregister_allowed (r : Roster) (a : String) :
    r.book.Allows (.call (.deregister a)) (r.call (.deregister a)).1
      (r.call (.deregister a)).2.book := by
  change r.book.Allows _ (.deregistered (r.deregister a).1) (r.deregister a).2.book
  rw [deregister_fst, book_deregister, ← book_bound_isSome]
  cases hb : r.book.bound a with
  | none => rw [Book.unbind_eq_self hb]; exact .absent hb
  | some id => exact .gone hb

theorem select_allowed {r : Roster} (h : r.Sound) :
    r.book.Allows (.call .select) (.selected r.select.1) r.select.2.book := by
  have hb : r.select.2.book = { r.book with cursor := r.select.2.rotation.cursor } :=
    (alike_select r).book
  rw [hb]
  cases hs : r.select.1 with
  | none => exact .nobody _
  | some m =>
    have hm := (aliveMembers_sublist r).subset (mem_of_select hs)
    exact .chosen ((h.lists.1 m.1 m.2).mp hm) _

/-- Whatever a roster answers, its book allows. -/
theorem step_allowed {r : Roster} (h : r.Sound) (q : Step) :
    r.book.Allows q (r.step q).1 (r.step q).2.book := by
  cases q with
  -- To its book a sweep is no more than the edits of its probes.
  | sweep net =>
    change r.book.Allows _ _ (r.sweep net).2.book
    rw [book_sweep]
    exact .sweep net _
  | call c =>
    cases c with
    | make e =>
      change r.book.Allows _ .nothing (r.make e).2.book
      rw [book_make]
      exact .make e
    | change id e =>
      change r.book.Allows _ (r.call (.change id e)).1 (r.call (.change id e)).2.book
      rw [call_change_fst, (alike_change r id e).book]
      exact .change id e
    | register id => exact register_allowed r id
    | deregister a => exact deregister_allowed r a
    | select => exact select_allowed h
    | members => exact .members h.lists
    | aliveMembers =>
      change r.book.Allows _ _ r.aliveMembers.2.book
      rw [(alike_aliveMembers r).book]
      exact .aliveMembers h.lists (aliveMembers_sublist r)
    | get a =>
      change r.book.Allows _ (.found (r.registry.get? a)) r.book
      rw [h.registry.get?_eq_lookup]
      exact .get a
    | contains a =>
      change r.book.Allows _ (.truth (r.registry.contains a)) r.book
      rw [h.registry.contains_eq_taken, ← book_bound_isSome]
      exact .contains a
    | addresses => exact .addresses h.lists
    | size => exact .size h.lists
    | isEmpty => exact .isEmpty h.lists
    | align s =>
      change r.book.Allows _ _ (r.align s).2.book
      rw [book_align h]
      exact .align s _

/-- A refused change leaves the whole roster as it was. -/
theorem step_of_refusal {r : Roster} {q : Step} (h : (r.step q).1.isRefusal = true) :
    (r.step q).2 = r := by
  -- Only a registration and a removal can be refused, and each asks before it writes.
  cases q with
  | sweep net => cases h
  | call c =>
    cases c with
    | register id =>
      change (r.call (.register id)).1.isRefusal = true at h
      change (r.call (.register id)).2 = r
      cases he : r.fleet[id]? with
      | none => rw [call_register_of_none he]
      | some e =>
        cases ht : r.registry.taken e.address with
        | true => rw [call_register_of_taken he ht]
        | false => rw [call_register_of_free he ht] at h; cases h
    | deregister a =>
      change (r.deregister a).2 = r
      change (Answer.deregistered (r.deregister a).1).isRefusal = true at h
      cases ht : r.registry.taken a with
      | true => rw [deregister_of_taken ht] at h; cases h
      | false => rw [deregister_of_free ht]
    | change id e =>
      change (r.call (.change id e)).1.isRefusal = true at h
      rw [call_change_fst] at h
      cases h
    | _ => cases h

theorem book_add_cursor (b : Book) (id : Nat) : (b.add id).cursor = b.cursor := by
  unfold Book.add
  split
  · split <;> rfl
  · rfl

theorem book_edits_cursor (cs : List Edit) (b : Book) : (cs.foldl Book.edit b).cursor = b.cursor := by
  induction cs generalizing b with
  | nil => rfl
  | cons c cs ih =>
    rw [List.foldl_cons, ih]
    cases c with
    | remove a => rfl
    | add a => exact book_add_cursor _ _
    | register id => exact book_add_cursor _ _

/-- Only a selection that finds somebody moves the cursor. -/
theorem step_rotation {r : Roster} (h : r.Sound) (q : Step) :
    (r.step q).2.rotation = r.rotation ∨ q = .call .select ∧ r.aliveMembers.1 ≠ [] := by
  by_cases hq : q = .call .select
  · by_cases ha : r.aliveMembers.1 = []
    · subst hq
      exact .inl (select_rotation_of_nobody ha)
    · exact .inr ⟨hq, ha⟩
  · left
    have hc : (r.step q).2.book.cursor = r.book.cursor := by
      have ha := step_allowed h q
      generalize (r.step q).1 = answer, (r.step q).2.book = b at ha ⊢
      cases ha with
      | chosen => exact absurd rfl hq
      | nobody => exact absurd rfl hq
      | align => exact Book.cursor_fill _ _
      | sweep => exact book_edits_cursor _ _
      | _ => rfl
    exact congrArg Rotation.mk hc

end Roster

theorem Run.explained {t : List (Step × Answer)} {r : Roster} (h : Run {} t r) :
    Book.Explains t r.book := by
  induction h with
  | start => exact .start
  | shuffle h hp ih => rw [Roster.book_shuffle (h.sound Roster.sound_empty) hp]; exact ih
  | step h q ih => exact .step ih (Roster.step_allowed (h.sound Roster.sound_empty) q)

theorem Reaches.explained {t : List (Step × Answer)} {r : Roster} (h : Reaches {} t r) :
    Book.Explains t r.book := by
  cases h with
  | between h => exact h.explained
  | @within t r h net k =>
    have hb : (r.sweepFirst net k).2.book =
        (r.sweepFirst net k).1.edits.foldl Book.edit r.book :=
      Roster.book_sweepOver net r.book _ {} r rfl
    rw [hb]
    exact .step h.explained (.sweep net _)

/-- From an empty roster on, every answer is one that the book allows, and the list published is the
book's list however the entries are enumerated, between two steps and within a sweep. A refused
change leaves everything as it was, and only a selection that finds somebody moves the cursor. -/
theorem run_refines_book {t : List (Step × Answer)} {r : Roster} (h : Reaches {} t r) :
    Book.Explains t r.book ∧ r.book.Lists r.registry.published ∧
      (∀ es, es.Perm r.registry.entries → Registry.byAddress es = r.registry.published) ∧
      (∀ q, (r.step q).1.isRefusal = true → (r.step q).2 = r) ∧
      ∀ q, (r.step q).2.rotation = r.rotation ∨ q = .call .select ∧ r.aliveMembers.1 ≠ [] := by
  have hs := h.sound Roster.sound_empty
  refine ⟨h.explained, hs.lists, fun es hp => ?_, fun q => Roster.step_of_refusal, fun q => ?_⟩
  · rw [hs.registry.published]
    exact Registry.byAddress_eq_of_perm hs.registry.keys hp
  · exact Roster.step_rotation hs q

/-- A second registration under an address is refused with that address. -/
theorem run_refines_book_of_duplicate :
    ∃ r : Roster, Reaches {} [(.call (.make (.rehearsed { address := "a:1" })), .nothing),
        (.call (.register 0), .registered), (.call (.register 0), .taken "a:1")] r ∧
      Book.Explains [(.call (.make (.rehearsed { address := "a:1" })), .nothing),
        (.call (.register 0), .registered), (.call (.register 0), .taken "a:1")] r.book ∧
      r.book.Lists r.registry.published ∧
      (∀ es, es.Perm r.registry.entries → Registry.byAddress es = r.registry.published) ∧
      (∀ q, (r.step q).1.isRefusal = true → (r.step q).2 = r) ∧
      ∀ q, (r.step q).2.rotation = r.rotation ∨ q = .call .select ∧ r.aliveMembers.1 ≠ [] := by
  have h₀ : Run {} [] {} := .start
  have h := Reaches.between (((h₀.step (.call (.make (.rehearsed { address := "a:1" })))).step
    (.call (.register 0))).step (.call (.register 0)))
  exact ⟨_, h, run_refines_book h⟩

end RelayRoster
