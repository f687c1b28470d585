import Mathlib
import RelayRoster.Proofs.Refinement

namespace RelayRoster

inductive Request where
  | add (id : Nat)
  | remove (address : String)
  | get (address : String)
  | contains (address : String)
  deriving DecidableEq, Repr

namespace Request

def step : Request → Step
  | .add id => .call (.register id)
  | .remove a => .call (.deregister a)
  | .get a => .call (.get a)
  | .contains a => .call (.contains a)

/-- The address that a request is about, where these are the endpoints' addresses. To add an endpoint
that was never made is about none. -/
def address? (names : List String) : Request → Option String
  | .add id => names[id]?
  | .remove a | .get a | .contains a => some a

/-- The answer to a request and what it leaves bound to its address, from what was bound to it. -/
def onAddress (a : String) (bound : Option Nat) : Request → Answer × Option Nat
  | .add id =>
    match bound with
    | some other => (.taken a, some other)
    | none => (.registered, some id)
  | .remove _ => (.deregistered bound.isSome, none)
  | .get _ => (.found bound, bound)
  | .contains _ => (.truth bound.isSome, bound)

end Request

namespace Roster

def respond (r : Roster) : List Request → List Answer × Roster
  | [] => ([], r)
  | q :: qs =>
    let (a, r) := r.step q.step
    let (as, r) := respond r qs
    (a :: as, r)

theorem respond_concat (r : Roster) (qs : List Request) (q : Request) :
    r.respond (qs ++ [q]) =
      ((r.respond qs).1 ++ [((r.respond qs).2.step q.step).1],
        ((r.respond qs).2.step q.step).2) := by
  induction qs generalizing r with
  | nil => rfl
  | cons q' qs ih =>
    have hq := ih (r.step q'.step).2
    rw [List.cons_append]
    unfold respond
    dsimp only
    rw [hq]
    rfl

theorem Sound.respond {r : Roster} (h : r.Sound) (qs : List Request) : (r.respond qs).2.Sound := by
  induction qs generalizing r with
  | nil => exact h
  | cons q qs ih => exact ih (h.step q.step)

theorem request_names (r : Roster) (q : Request) : (r.step q.step).2.names = r.names := by
  cases q with
  | add id =>
    change (r.call (.register id)).2.names = r.names
    unfold names
    rw [call_register_snd, register_fleet]
  | remove a =>
    change (r.deregister a).2.names = r.names
    unfold names
    rw [deregister_fleet]
  | get | contains => rfl

theorem respond_names (r : Roster) (qs : List Request) : (r.respond qs).2.names = r.names := by
  induction qs generalizing r with
  | nil => rfl
  | cons q qs ih => exact (ih _).trans (request_names r q)

/-- A request works on its own address. -/
theorem request_onAddress {r : Roster} (h : r.Sound) {q : Request} {a : String}
    (ha : q.address? r.names = some a) :
    (r.step q.step).1 = (q.onAddress a (r.book.bound a)).1 ∧
      ∀ b, (r.step q.step).2.book.bound b =
        if b = a then (q.onAddress a (r.book.bound a)).2 else r.book.bound b := by
  have hstep := step_allowed h q.step
  generalize (r.step q.step).1 = x, (r.step q.step).2.book = b' at hstep ⊢
  have hself (b : String) : r.book.bound b = if b = a then r.book.bound a else r.book.bound b := by
    split
    next hb => rw [hb]
    next => rfl
  -- The book allows one answer to each request, and binds nothing but the address it is about.
  cases q with
  | add id =>
    unfold Request.onAddress
    cases hstep with
    | unmade hm => exact nomatch hm.symm.trans ha
    | taken hm hb =>
      cases hm.symm.trans ha
      rw [hb] at hself ⊢
      exact ⟨rfl, hself⟩
    | registered hm hb =>
      cases hm.symm.trans ha
      rw [hb]
      exact ⟨rfl, fun _ => rfl⟩
  | remove b =>
    cases ha
    unfold Request.onAddress
    cases hstep with
    | gone hb => rw [hb]; exact ⟨rfl, fun _ => rfl⟩
    | absent hb => rw [hb] at hself ⊢; exact ⟨rfl, hself⟩
  | get b =>
    cases ha
    cases hstep
    exact ⟨rfl, hself⟩
  | contains b =>
    cases ha
    cases hstep
    exact ⟨rfl, hself⟩

/-- A request about no address does nothing. -/
theorem request_of_unmade {r : Roster} {q : Request} (h : q.address? r.names = none) :
    r.step q.step = (.nothing, r) := by
  cases q with
  | add id =>
    apply call_register_of_none
    change r.names[id]? = none at h
    rw [getElem?_names] at h
    exact Option.map_eq_none_iff.mp h
  | remove | get | contains => cases h

theorem request_frame {r : Roster} (h : r.Sound) {q : Request} {b : String}
    (hb : q.address? r.names ≠ some b) : (r.step q.step).2.book.bound b = r.book.bound b := by
  cases ha : q.address? r.names with
  | none => rw [request_of_unmade ha]
  | some a =>
    rw [(request_onAddress h ha).2, if_neg]
    rintro rfl
    exact hb ha

/-- Two rosters that agree on some addresses cannot be told apart by requests about these. -/
theorem request_agree {r s : Roster} (hr : r.Sound) (hs : s.Sound) (hn : s.names = r.names)
    {q : Request} {S : Set String} (hq : ∀ a, q.address? r.names = some a → a ∈ S)
    (hb : ∀ a ∈ S, s.book.bound a = r.book.bound a) :
    (s.step q.step).1 = (r.step q.step).1 ∧
      ∀ a ∈ S, (s.step q.step).2.book.bound a = (r.step q.step).2.book.bound a := by
  cases ha : q.address? r.names with
  | none =>
    rw [request_of_unmade ha, request_of_unmade (hn ▸ ha)]
    exact ⟨rfl, hb⟩
  | some a =>
    obtain ⟨hanswer, hbound⟩ := request_onAddress hr ha
    obtain ⟨hanswer', hbound'⟩ := request_onAddress hs (hn ▸ ha)
    rw [hb a (hq a ha)] at hanswer' hbound'
    refine ⟨hanswer'.trans hanswer.symm, fun b hbS => ?_⟩
    rw [hbound, hbound', hb b hbS]

end Roster

structure Exchange (ι : Type) where
  client : ι
  request : Request
  answer : Answer

def Exchange.step {ι : Type} (m : Exchange ι) : Step × Answer := (m.request.step, m.answer)

def own {ι : Type} [DecidableEq ι] (i : ι) (ms : List (Exchange ι)) : List (Exchange ι) :=
  ms.filter fun m => m.client = i

theorem own_request {ι : Type} [DecidableEq ι] (i : ι) (ms : List (Exchange ι)) :
    (own i ms).map (·.request) =
      ((ms.map fun m => (m.client, m.request)).filter fun q => q.1 = i).map (·.2) := by
  unfold own
  rw [List.filter_map, List.map_map]
  rfl

/-- Every sequence of requests gets its answers. -/
theorem exists_exchanges {ι : Type} (r : Roster) (qs : List (ι × Request)) :
    ∃ (ms : List (Exchange ι)) (r' : Roster), (ms.map fun m => (m.client, m.request)) = qs ∧
      Run r (ms.map Exchange.step) r' := by
  induction qs using List.reverseRecOn with
  | nil => exact ⟨[], r, rfl, .start⟩
  | append_singleton qs q ih =>
    obtain ⟨ms, r', hms, h⟩ := ih
    refine ⟨ms ++ [⟨q.1, q.2, (r'.step q.2.step).1⟩], (r'.step q.2.step).2, ?_, ?_⟩
    · rw [List.map_append, hms]
      rfl
    · rw [List.map_append]
      exact h.step q.2.step

section

variable {ι : Type} [DecidableEq ι]

/-- What clients that keep to addresses of their own have done to a roster: each got the answers it
gets alone and left its addresses as it leaves them alone, and all other addresses are as before. -/
structure Undisturbed (r : Roster) (A : ι → Set String) (ms : List (Exchange ι)) (r' : Roster) :
    Prop where
  sound : r'.Sound
  names : r'.names = r.names
  answers : ∀ i, (own i ms).map (·.answer) = (r.respond ((own i ms).map (·.request))).1
  bound : ∀ i, ∀ a ∈ A i,
    r'.book.bound a = (r.respond ((own i ms).map (·.request))).2.book.bound a
  rest : ∀ a, (∀ i, a ∉ A i) → r'.book.bound a = r.book.bound a

variable {r r' : Roster} {A : ι → Set String} {ms : List (Exchange ι)}

theorem own_concat_self (ms : List (Exchange ι)) (m : Exchange ι) :
    own m.client (ms ++ [m]) = own m.client ms ++ [m] := by
  simp [own]

theorem own_concat_of_ne {i : ι} {m : Exchange ι} (h : m.client ≠ i) (ms : List (Exchange ι)) :
    own i (ms ++ [m]) = own i ms := by
  simp [own, h]

/-- One more request of a client disturbs nobody. -/
theorem Undisturbed.concat (h : Undisturbed r A ms r') (hs : r.Sound)
    (hA : Pairwise fun i j => Disjoint (A i) (A j)) {m : Exchange ι}
    (hm : m.answer = (r'.step m.request.step).1)
    (hk : ∀ a, m.request.address? r.names = some a → a ∈ A m.client) :
    Undisturbed r A (ms ++ [m]) (r'.step m.request.step).2 := by
  have halone := (r.respond_names ((own m.client ms).map (·.request)))
  obtain ⟨hanswer, hbound⟩ := Roster.request_agree (q := m.request) h.sound (hs.respond _)
    (halone.trans h.names.symm) (fun a ha => hk a (h.names ▸ ha))
    fun a ha => (h.bound m.client a ha).symm
  refine ⟨h.sound.step _, (Roster.request_names _ _).trans h.names, fun i => ?_, fun i a ha => ?_,
    fun a ha => ?_⟩
  · by_cases hi : m.client = i
    · subst hi
      rw [own_concat_self, List.map_append, List.map_append, List.map_singleton,
        List.map_singleton, Roster.respond_concat, h.answers, hanswer, hm]
    · rw [own_concat_of_ne hi]
      exact h.answers i
  · by_cases hi : m.client = i
    · subst hi
      rw [own_concat_self, List.map_append, List.map_singleton, Roster.respond_concat]
      exact (hbound a ha).symm
    · -- The request is about an address of another client.
      rw [own_concat_of_ne hi, ← h.bound i a ha]
      apply Roster.request_frame h.sound
      intro hq
      exact Set.disjoint_left.mp (hA hi) (hk a (h.names ▸ hq)) ha
  · rw [← h.rest a ha]
    apply Roster.request_frame h.sound
    intro hq
    exact ha m.client (hk a (h.names ▸ hq))

theorem Run.undisturbed (hs : r.Sound) (hA : Pairwise fun i j => Disjoint (A i) (A j))
    (hk : ∀ m ∈ ms, ∀ a, m.request.address? r.names = some a → a ∈ A m.client)
    (h : Run r (ms.map Exchange.step) r') : Undisturbed r A ms r' := by
  generalize ht : ms.map Exchange.step = t at h
  induction h generalizing ms with
  | start =>
    obtain rfl := List.map_eq_nil_iff.mp ht
    exact ⟨hs, rfl, fun _ => rfl, fun _ _ _ => rfl, fun _ _ => rfl⟩
  | shuffle _ hp ih =>
    have hu := ih hk ht
    have hb := Roster.book_shuffle hu.sound hp
    refine ⟨hu.sound.shuffle hp, hu.names, hu.answers, ?_, ?_⟩
    · rw [hb]; exact hu.bound
    · rw [hb]; exact hu.rest
  | step h q ih =>
    obtain ⟨ms₁, ms₂, rfl, ht₁, ht₂⟩ := List.map_eq_append_iff.mp ht
    obtain ⟨m, rfl, hm⟩ := List.map_eq_singleton_iff.mp ht₂
    rw [List.forall_mem_append, List.forall_mem_singleton] at hk
    obtain ⟨rfl, hm⟩ := Prod.mk.inj hm
    exact (ih hk.1 ht₁).concat hs hA hm hk.2

/-- Where the same is bound, the same list is published. -/
theorem Roster.Sound.published_congr {s : Roster} (hr : r.Sound) (hs : s.Sound)
    (h : ∀ a, s.book.bound a = r.book.bound a) : s.registry.published = r.registry.published := by
  rw [hs.registry.published, hr.registry.published]
  apply Registry.byAddress_eq_of_perm hr.registry.keys
  rw [List.perm_ext_iff_of_nodup hs.registry.keys.of_map hr.registry.keys.of_map]
  intro m
  rw [← Registry.lookup_eq_some_iff_mem hs.registry.keys,
    ← Registry.lookup_eq_some_iff_mem hr.registry.keys]
  exact Eq.congr_left (h m.1)

/-- Two interleavings of the same requests of each client lead to the same list. -/
theorem Undisturbed.published_congr {r'' : Roster} {ms' : List (Exchange ι)}
    (h : Undisturbed r A ms r') (h' : Undisturbed r A ms' r'')
    (hms : ∀ i, (own i ms').map (·.request) = (own i ms).map (·.request)) :
    r''.registry.published = r'.registry.published := by
  apply h.sound.published_congr h'.sound
  intro a
  by_cases ha : ∃ i, a ∈ A i
  · obtain ⟨i, hi⟩ := ha
    rw [h.bound i a hi, h'.bound i a hi, hms]
  · rw [not_exists] at ha
    rw [h.rest a ha, h'.rest a ha]

/-- Each client leaves registered what it would leave alone, and all else stays. -/
theorem Undisturbed.mem_published (h : Undisturbed r A ms r') (hs : r.Sound) (a : String)
    (id : Nat) :
    (a, id) ∈ r'.registry.published ↔
      (∃ i, a ∈ A i ∧
        (a, id) ∈ (r.respond ((own i ms).map (·.request))).2.registry.published) ∨
      (∀ i, a ∉ A i) ∧ (a, id) ∈ r.registry.published := by
  simp only [h.sound.lists.1, hs.lists.1, (hs.respond _).lists.1]
  by_cases ha : ∃ i, a ∈ A i
  · obtain ⟨i, hi⟩ := ha
    rw [h.bound i a hi]
    constructor
    · exact fun hb => .inl ⟨i, hi, hb⟩
    · rintro (⟨j, hj, hb⟩ | ⟨hn, -⟩)
      · rw [← h.bound j a hj, h.bound i a hi] at hb
        exact hb
      · exact (hn i hi).elim
  · rw [not_exists] at ha
    rw [h.rest a ha]
    simp [ha]

end

theorem filter_eq_singleton {α β : Type} [DecidableEq β] {f : α → β} {l : List α}
    (h : (l.map f).Nodup) {x : α} (hx : x ∈ l) : l.filter (fun y => f y = f x) = [x] := by
  induction l with
  | nil => cases hx
  | cons y l ih =>
    rw [List.map_cons, List.nodup_cons] at h
    obtain rfl | hx := List.mem_cons.mp hx
    · rw [List.filter_cons_of_pos (by simp), List.filter_eq_nil_iff.mpr]
      intro z hz
      simpa using fun he : f z = f x => h.1 (he ▸ List.mem_map_of_mem hz)
    · have hy : f y ≠ f x := fun he => h.1 (he ▸ List.mem_map_of_mem hx)
      rw [List.filter_cons_of_neg (by simpa using hy)]
      exact ih h.2 hx

/-- Additions of different addresses that are free all succeed, whoever asks for them. -/
theorem additions_registered {ι : Type} {r r' : Roster} (hs : r.Sound) {ms : List (Exchange ι)}
    (h : Run r (ms.map Exchange.step) r')
    (hms : ∀ m ∈ ms, ∃ id a, m.request = .add id ∧ r.names[id]? = some a ∧
      r.registry.taken a = false)
    (hd : (ms.map fun m => m.request.address? r.names).Nodup) :
    ∀ m ∈ ms, ∀ id a, m.request = .add id → r.names[id]? = some a →
      m.answer = .registered ∧ (a, id) ∈ r'.registry.published := by
  -- Every address may be taken for a client of its own.
  let tagged (m : Exchange ι) : Exchange (Option String) :=
    ⟨m.request.address? r.names, m.request, m.answer⟩
  have hu : Undisturbed r (fun o : Option String => {a | o = some a}) (ms.map tagged) r' := by
    apply Run.undisturbed hs
    · intro o o' ho
      rw [Set.disjoint_left]
      intro a ha ha'
      exact ho (ha.trans ha'.symm)
    · intro m' hm' a ha
      obtain ⟨m, -, rfl⟩ := List.mem_map.mp hm'
      exact ha
    · rw [List.map_map]
      exact h
  intro m hm id a hq ha
  obtain ⟨id', a', hq', ha', hfree⟩ := hms m hm
  obtain rfl : id = id' := Request.add.inj (hq.symm.trans hq')
  obtain rfl : a = a' := Option.some.inj (ha.symm.trans ha')
  have hma : m.request.address? r.names = some a := by rw [hq]; exact ha
  have hown : own (some a) (ms.map tagged) = [tagged m] := by
    unfold own
    rw [List.filter_map, ← hma]
    exact congrArg (List.map tagged) (filter_eq_singleton hd hm)
  have hnone : r.book.bound a = none := by
    rw [← Option.not_isSome_iff_eq_none, Roster.book_bound_isSome, hfree]
    exact Bool.false_ne_true
  have hon : m.request.onAddress a none = (.registered, some id) := by rw [hq]; rfl
  obtain ⟨hanswer, hbound⟩ := Roster.request_onAddress hs hma
  rw [hnone, hon] at hanswer hbound
  constructor
  · have hans := hu.answers (some a)
    rw [hown] at hans
    exact (List.cons.inj hans).1.trans hanswer
  · rw [hu.sound.lists.1, hu.bound (some a) a rfl, hown]
    exact (hbound a).trans (if_pos rfl)

/-- Clients that keep to addresses of their own and share a roster each get the answers they would
get alone, in whatever order their requests come. The list after them is sorted, holds what each
leaves registered alone and whatever else was there, and is the same for every such order. Additions
of different addresses that are free all succeed and none is lost. -/
theorem clients_undisturbed {ι : Type} [DecidableEq ι] {r r' : Roster} (hs : r.Sound)
    {A : ι → Set String} (hA : Pairwise fun i j => Disjoint (A i) (A j)) {ms : List (Exchange ι)}
    (hk : ∀ m ∈ ms, ∀ a, m.request.address? r.names = some a → a ∈ A m.client)
    (h : Run r (ms.map Exchange.step) r') :
    (∀ i, (own i ms).map (·.answer) = (r.respond ((own i ms).map (·.request))).1) ∧
      r'.registry.published.Pairwise (fun m n => Text.bytes m.1 < Text.bytes n.1) ∧
      (∀ a id, (a, id) ∈ r'.registry.published ↔
        (∃ i, a ∈ A i ∧
          (a, id) ∈ (r.respond ((own i ms).map (·.request))).2.registry.published) ∨
        (∀ i, a ∉ A i) ∧ (a, id) ∈ r.registry.published) ∧
      (∀ ms' r'', Run r (ms'.map Exchange.step) r'' →
        (∀ i, (own i ms').map (·.request) = (own i ms).map (·.request)) →
          r''.registry.published = r'.registry.published) ∧
      ((∀ m ∈ ms, ∃ id a, m.request = .add id ∧ r.names[id]? = some a ∧
          r.registry.taken a = false) →
        (ms.map fun m => m.request.address? r.names).Nodup →
          ∀ m ∈ ms, ∀ id a, m.request = .add id → r.names[id]? = some a →
            m.answer = .registered ∧ (a, id) ∈ r'.registry.published) := by
  have hu := h.undisturbed hs hA hk
  refine ⟨hu.answers, hu.sound.lists.2, hu.mem_published hs, fun ms' r'' h' hms => ?_,
    additions_registered hs h⟩
  -- The other order has the same requests, so its clients keep to their addresses too.
  refine hu.published_congr (h'.undisturbed hs hA fun m hm a ha => ?_) hms
  have hown : m.request ∈ (own m.client ms').map (·.request) := by
    apply List.mem_map_of_mem
    exact List.mem_filter.mpr ⟨hm, by simp⟩
  rw [hms] at hown
  obtain ⟨n, hn, hreq⟩ := List.mem_map.mp hown
  obtain ⟨hn, hc⟩ := List.mem_filter.mp hn
  rw [← of_decide_eq_true hc]
  exact hk n hn a (hreq ▸ ha)

/-- Of two clients that take turns, one adds an endpoint and finds it, and the other adds one and
removes it again. -/
theorem clients_undisturbed_of_turns :
    ∃ (r r' : Roster) (ms : List (Exchange Bool)), r.Sound ∧ Run r (ms.map Exchange.step) r' ∧
      (ms.map fun m => (m.client, m.request)) =
        [(true, .add 0), (false, .add 1), (true, .get "a:1"), (false, .remove "b:1")] ∧
      (own true ms).map (·.answer) = [.registered, .found (some 0)] ∧
      (own false ms).map (·.answer) = [.registered, .deregistered true] ∧
      ("a:1", 0) ∈ r'.registry.published := by
  let r := ((({} : Roster).make (.rehearsed { address := "a:1" })).2.make
    (.rehearsed { address := "b:1" })).2
  have hs : r.Sound := (Roster.sound_empty.make _).make _
  obtain ⟨ms, r', hms, h⟩ := exists_exchanges r
    [(true, .add 0), (false, .add 1), (true, .get "a:1"), (false, .remove "b:1")]
  let A (b : Bool) : Set String := {if b then "a:1" else "b:1"}
  have hA : Pairwise fun i j => Disjoint (A i) (A j) := by
    intro i j hij
    cases i <;> cases j <;> simp [A] at hij ⊢
  have hn : r.names = ["a:1", "b:1"] := rfl
  have hk : ∀ q ∈ ms.map fun m => (m.client, m.request), ∀ a,
      q.2.address? r.names = some a → a ∈ A q.1 := by
    rw [hms, hn]
    simp [A, Request.address?]
  rw [List.forall_mem_map] at hk
  obtain ⟨hanswers, -, hpublished, -⟩ := clients_undisturbed hs hA hk h
  refine ⟨r, r', ms, hs, h, hms, ?_, ?_, ?_⟩
  · rw [hanswers, own_request, hms]
    cbv
  · rw [hanswers, own_request, hms]
    cbv
  · rw [hpublished]
    refine .inl ⟨true, rfl, ?_⟩
    rw [own_request, hms]
    apply List.mem_of_getElem? (i := 0)
    cbv

end RelayRoster
