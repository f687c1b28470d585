import Mathlib
import RelayRoster.Proofs.Strokes

namespace RelayRoster

namespace Event

def isAddition : Event → Bool
  | .endpointAdded _ _ => true
  | _ => false

def isRemoval : Event → Bool
  | .endpointRemoved _ _ => true
  | _ => false

def isSummary : Event → Bool
  | .aligned _ _ _ => true
  | _ => false

/-- The addresses after an event. An addition must be of one that is not among them, a removal of one
that is, and both must give their number right. -/
def replayed (as : Finset String) : Event → Option (Finset String)
  | .endpointAdded a n => if a ∉ as ∧ n = (insert a as).card then some (insert a as) else none
  | .endpointRemoved a n => if a ∈ as ∧ n = (as.erase a).card then some (as.erase a) else none
  | _ => some as

theorem replayed_of_remark {e : Event} (h : e.stroke? = none) (as : Finset String) :
    e.replayed as = some as := by
  cases e with
  | endpointAdded | endpointRemoved => cases h
  | _ => rfl

end Event

/-- The addresses that a journal leads to from none at all, its newest event first. There are none if
it does not add up. -/
def replay : List Event → Option (Finset String)
  | [] => some ∅
  | e :: es => (replay es).bind e.replayed

section

variable {g : Registry} (h : g.Sound)
include h

theorem card_addresses : g.addresses.toFinset.card = g.entries.length := by
  rw [List.toFinset_card_of_nodup h.addresses_nodup, Registry.addresses, List.length_map,
    h.published]
  exact (Registry.byAddress_perm _).length_eq

theorem toFinset_addresses_insert {a : String} (ha : g.taken a = false) (id : Nat) :
    (g.insert a id).addresses.toFinset = insert a g.addresses.toFinset := by
  ext b
  rw [List.mem_toFinset, (h.insert ha id).mem_addresses, Finset.mem_insert, List.mem_toFinset,
    h.mem_addresses, Registry.taken_iff, Registry.taken_iff]
  exact List.mem_cons

theorem toFinset_addresses_erase (a : String) :
    (g.erase a).addresses.toFinset = g.addresses.toFinset.erase a := by
  ext b
  rw [List.mem_toFinset, (h.erase a).mem_addresses, Finset.mem_erase, List.mem_toFinset,
    h.mem_addresses, Registry.taken_eq_isSome, Registry.taken_eq_isSome, Registry.lookup_erase]
  by_cases hb : b = a
  · simp [hb]
  · simp [hb]

end

namespace Roster

def Recorded (r : Roster) : Prop := replay r.journal = some r.registry.addresses.toFinset

variable {r r' : Roster} {ks : List Stroke}

theorem Write.recorded (h : Write r ks r') (hs : r.Sound) (hr : r.Recorded) : r'.Recorded := by
  unfold Recorded at hr
  -- Two kinds of writes are told of by an event that is replayed, and each says the right number.
  cases h with
  | @register id e he ht =>
    have hg := hs.registry
    have hn : e.address ∉ r.registry.addresses.toFinset := by
      rw [List.mem_toFinset, hg.mem_addresses, ht]
      exact Bool.false_ne_true
    rw [register_of_free he ht]
    change (replay r.journal).bind _ = some (r.registry.insert e.address id).addresses.toFinset
    rw [hr, Option.bind_some, ← card_addresses (hg.insert ht id), toFinset_addresses_insert hg ht]
    exact if_pos ⟨hn, rfl⟩
  | @deregister a ht =>
    have hg := hs.registry
    have ha : a ∈ r.registry.addresses.toFinset := by
      rw [List.mem_toFinset, hg.mem_addresses, ht]
    rw [deregister_of_taken ht]
    change (replay r.journal).bind _ = some (r.registry.erase a).addresses.toFinset
    rw [hr, Option.bind_some, ← card_addresses (hg.erase a), toFinset_addresses_erase hg]
    exact if_pos ⟨ha, rfl⟩
  | @remark e he =>
    change (replay r.journal).bind _ = _
    rw [hr, Option.bind_some]
    exact Event.replayed_of_remark he _
  | sumUp added removed endpoints =>
    change (replay r.journal).bind _ = _
    rw [hr]
    rfl
  | fleet | rotation | shuffle | count | measure => exact hr

theorem Writes.recorded (h : Writes r ks r') (hs : r.Sound) (hr : r.Recorded) : r'.Recorded := by
  induction h with
  | nothing => exact hr
  | more h hw ih => exact hw.recorded (h.sound hs) ih

/-- A write adds to the journal just what there is to tell of its stroke. -/
theorem Write.journal (h : Write r ks r') :
    ∃ es, r'.journal = es ++ r.journal ∧
      es.filterMap Event.stroke? = (ks.filter Stroke.isTold).reverse := by
  cases h with
  | register he ht => exact ⟨[_], by rw [register_of_free he ht]; rfl, rfl⟩
  | deregister ht => exact ⟨[_], by rw [deregister_of_taken ht]; rfl, rfl⟩
  | @remark e he => exact ⟨[e], rfl, by simp [he]⟩
  | sumUp => exact ⟨[_], rfl, rfl⟩
  | fleet | rotation | shuffle | count | measure => exact ⟨[], rfl, rfl⟩

/-- The newest event comes first, so the strokes are told of in reverse. -/
theorem Writes.journal (h : Writes r ks r') :
    ∃ es, r'.journal = es ++ r.journal ∧
      es.filterMap Event.stroke? = (ks.filter Stroke.isTold).reverse := by
  induction h with
  | nothing => exact ⟨[], rfl, rfl⟩
  | more _ hw ih =>
    obtain ⟨es, hj, he⟩ := ih
    obtain ⟨es', hj', he'⟩ := hw.journal
    refine ⟨es' ++ es, by rw [hj', hj, List.append_assoc], ?_⟩
    rw [List.filterMap_append, he, he', List.filter_append, List.reverse_append]

end Roster

namespace Stroke

def isAddition : Stroke → Bool
  | .added _ => true
  | _ => false

def isRemoval : Stroke → Bool
  | .removed _ => true
  | _ => false

def summary? : Stroke → Option Event
  | .summedUp a b n => some (.aligned a b n)
  | _ => none

end Stroke

namespace Event

theorem countP_isAddition (es : List Event) :
    es.countP isAddition = (es.filterMap stroke?).countP Stroke.isAddition := by
  rw [List.countP_filterMap]
  apply List.countP_congr
  intro e _
  cases e <;> rfl

theorem countP_isRemoval (es : List Event) :
    es.countP isRemoval = (es.filterMap stroke?).countP Stroke.isRemoval := by
  rw [List.countP_filterMap]
  apply List.countP_congr
  intro e _
  cases e <;> rfl

theorem filter_isSummary (es : List Event) :
    es.filter isSummary = (es.filterMap stroke?).filterMap Stroke.summary? := by
  rw [List.filterMap_filterMap, ← List.filterMap_eq_filter]
  apply List.filterMap_congr
  intro e _
  cases e <;> rfl

end Event

namespace Roster

/-- Events that tell of no alignment sum up none. -/
theorem filter_isSummary_of_unsummed {es : List Event} {ks : List Stroke}
    (he : es.filterMap Event.stroke? = (ks.filter Stroke.isTold).reverse)
    (hk : ∀ a b n, Stroke.summedUp a b n ∉ ks) : es.filter Event.isSummary = [] := by
  rw [Event.filter_isSummary, he, List.filterMap_eq_nil_iff]
  intro k hm
  rw [List.mem_reverse, List.mem_filter] at hm
  cases k with
  | summedUp a b n => exact (hk a b n hm.1).elim
  | _ => rfl

theorem strokes_unsummed {r : Roster} {c : Call} (hc : ∀ s, c ≠ .align s) (a b n : Nat) :
    Stroke.summedUp a b n ∉ r.strokes c := by
  cases c with
  | register id =>
    change _ ∉ r.registration id
    obtain ⟨hk, -⟩ | ⟨a, hk, -⟩ := call_register_strokes r id <;> rw [hk] <;> simp
  | deregister a =>
    change _ ∉ (if (r.deregister a).1 then [Stroke.removed a] else [])
    split <;> simp
  | select =>
    change _ ∉ [r.selection]
    unfold selection
    cases r.select.1 <;> simp
  | align s => exact (hc s rfl).elim
  | _ => simp [strokes]

/-- An alignment is summed up once, by the additions and removals that it tells of; nothing else is
summed up. -/
theorem exists_step_journal (r : Roster) (q : Step) :
    ∃ es, (r.step q).2.journal = es ++ r.journal ∧
      es.filter Event.isSummary = match q with
        | .call (.align _) =>
          [.aligned (es.countP Event.isAddition) (es.countP Event.isRemoval)
            (r.step q).2.registry.size]
        | _ => [] := by
  cases q with
  | sweep net =>
    obtain ⟨ks, failed, hw, -, ha⟩ := writes_sweepOver net r.registry.published {} r
    obtain ⟨es, hj, he⟩ := hw.journal
    exact ⟨es, hj, filter_isSummary_of_unsummed he ha.unsummed⟩
  | call c =>
    obtain ⟨es, hj, he⟩ := (writes_call r c).journal
    refine ⟨es, hj, ?_⟩
    cases c with
    | align s =>
      have ht : (r.strokes (.align s)).filter Stroke.isTold = r.strokes (.align s) := by
        rw [List.filter_eq_self]
        intro k hk
        simp only [strokes, List.mem_append, List.mem_map, List.mem_singleton] at hk
        obtain (⟨a, -, rfl⟩ | ⟨a, -, rfl⟩) | rfl := hk <;> rfl
      have hn : (r.step (.call (.align s))).2 = (r.align s).2 := rfl
      dsimp only
      rw [Event.filter_isSummary, Event.countP_isAddition, Event.countP_isRemoval, he, ht, hn]
      simp [strokes, List.countP_map, Function.comp_def, Stroke.summary?, Stroke.isAddition,
        Stroke.isRemoval]
    | _ => exact filter_isSummary_of_unsummed he (strokes_unsummed (by simp))

end Roster

/-- At every point of a run from the empty roster, also in the middle of a probe that changes it or of
an alignment, the journal leads to just the addresses that are registered: each addition is of an
address that is not there, each removal of one that is, and each tells the number of addresses after
it. A step sums up its additions and removals if it is an alignment, and does so once. -/
theorem replay_of_reaches {t : List (Step × Answer)} {r : Roster} (h : Reaches {} t r) :
    replay r.journal = some r.registry.addresses.toFinset ∧
      (∀ cs : List Edit, (cs.foldl Roster.edit r).Recorded) ∧
      (∀ wanted gone health added,
        (Roster.addMissing health added (Roster.removeUnwanted wanted gone r).2).2.Recorded) ∧
      ∀ q, ∃ es, (r.step q).2.journal = es ++ r.journal ∧
        es.filter Event.isSummary = match q with
          | .call (.align _) =>
            [.aligned (es.countP Event.isAddition) (es.countP Event.isRemoval)
              (r.step q).2.registry.size]
          | _ => [] := by
  obtain ⟨ks, hw⟩ := h.exists_writes
  have hr {ks' : List Stroke} {r' : Roster} (hw' : r.Writes ks' r') : r'.Recorded :=
    (hw.trans hw').recorded Roster.sound_empty rfl
  refine ⟨hr (.nothing r), fun cs => ?_, fun wanted gone health added => ?_, r.exists_step_journal⟩
  · obtain ⟨ks', hw', -⟩ := Roster.writes_foldl_edit cs r
    exact hr hw'
  · exact hr ((Roster.writes_removeUnwanted wanted gone r).trans
      (Roster.writes_addMissing health added _))

/-- A probe that takes another address off is told of like any other removal. -/
theorem replay_of_reaches_of_removal :
    ∃ t r, Reaches {} t r ∧ r.registry.addresses = ["a:1"] ∧ replay r.journal = some {"a:1"} ∧
      r.journal.countP Event.isAddition = 2 ∧ r.journal.countP Event.isRemoval = 1 := by
  let a : Rehearsed :=
    { address := "a:1", probeScript := [{ take := .ok, edits := [.remove "b:1"] }] }
  let b : Rehearsed := { address := "b:1" }
  have h₀ : Run {} [] {} := .start
  have h := Reaches.between (((((h₀.step (.call (.make (.rehearsed a)))).step
    (.call (.make (.rehearsed b)))).step (.call (.register 0))).step (.call (.register 1))).step
    (.sweep {}))
  generalize ht : [] ++ [_] ++ [_] ++ [_] ++ [_] ++ [_] = t at h
  generalize hr : Prod.snd (Roster.step _ (Step.sweep _)) = r at h
  have ha : r.registry.addresses = ["a:1"] := by
    subst hr
    cbv
  refine ⟨t, r, h, ha, ?_, ?_, ?_⟩
  · rw [(replay_of_reaches h).1, ha]
    rfl
  · subst hr
    cbv
  · subst hr
    cbv

end RelayRoster
