import RelayRoster.Proofs.ByteOrder
import RelayRoster.Proofs.Registry
import RelayRoster.Roster.Align
import RelayRoster.Roster.Sweep

namespace RelayRoster

/-- The plain account of a roster: the address of every endpoint ever made, which of them is bound
to which address, and whose turn it is. -/
@[ext]
structure Book where
  made : List String := []
  bound : String → Option Nat := fun _ => none
  cursor : UInt64 := 0

namespace Book

def make (b : Book) (address : String) : Book := { b with made := b.made ++ [address] }

def bind (b : Book) (address : String) (id : Nat) : Book :=
  { b with bound := fun a => if a = address then some id else b.bound a }

def unbind (b : Book) (address : String) : Book :=
  { b with bound := fun a => if a = address then none else b.bound a }

def add (b : Book) (id : Nat) : Book :=
  match b.made[id]? with
  | some address => if (b.bound address).isSome then b else b.bind address id
  | none => b

def enlist (b : Book) (address : String) : Book := (b.make address).add b.made.length

def edit (b : Book) : Edit → Book
  | .remove address => b.unbind address
  | .add address => b.enlist address
  | .register id => b.add id

def keep (b : Book) (wanted : List String) : Book :=
  { b with bound := fun a => if a ∈ wanted then b.bound a else none }

def fill (b : Book) (wanted : List String) : Book :=
  wanted.foldl (fun b a => if (b.bound a).isSome then b else b.enlist a) b

def align (b : Book) (wanted : List String) : Book := (b.keep wanted).fill wanted

/-- A list of all that is bound, by the bytes of the addresses, each address once. -/
def Lists (b : Book) (ms : List (String × Nat)) : Prop :=
  (∀ a id, (a, id) ∈ ms ↔ b.bound a = some id) ∧
    ms.Pairwise fun m n => Text.bytes m.1 < Text.bytes n.1

theorem unbind_eq_self {b : Book} {address : String} (h : b.bound address = none) :
    b.unbind address = b := by
  refine Book.ext rfl (funext fun a => ?_) rfl
  change (if a = address then none else b.bound a) = b.bound a
  split
  next he => rw [he, h]
  next => rfl

theorem enlist_of_free {b : Book} {address : String} (h : b.bound address = none) :
    b.enlist address = (b.make address).bind address b.made.length := by
  have hm : (b.make address).made[b.made.length]? = some address := List.getElem?_concat_length
  have hb : (b.make address).bound address = none := h
  unfold enlist add
  rw [hm]
  simp [hb]

end Book

namespace Roster

def names (r : Roster) : List String := r.fleet.toList.map Endpoint.address

def book (r : Roster) : Book :=
  { made := r.names, bound := fun a => r.registry.entries.lookup a, cursor := r.rotation.cursor }

/-- The registry is sound, and everyone is registered under their own address. -/
structure Sound (r : Roster) : Prop where
  registry : r.registry.Sound
  named : ∀ m ∈ r.registry.entries, r.names[m.2]? = some m.1

theorem sound_empty : Sound {} where
  registry := Registry.sound_empty
  named := by intro m hm; cases hm

/-- Two rosters that differ in no more than the endpoints' own state, the metrics and the journal. -/
structure Alike (r r' : Roster) : Prop where
  registry : r'.registry = r.registry
  rotation : r'.rotation = r.rotation
  names : r'.names = r.names

namespace Alike

theorem refl (r : Roster) : Alike r r := ⟨rfl, rfl, rfl⟩

theorem trans {r s t : Roster} (h : Alike r s) (h' : Alike s t) : Alike r t :=
  ⟨h'.registry.trans h.registry, h'.rotation.trans h.rotation, h'.names.trans h.names⟩

theorem book {r r' : Roster} (h : Alike r r') : r'.book = r.book := by
  unfold Roster.book
  rw [h.registry, h.rotation, h.names]

theorem sound {r r' : Roster} (h : Alike r r') (hs : r.Sound) : r'.Sound where
  registry := h.registry ▸ hs.registry
  named := by rw [h.registry, h.names]; exact hs.named

end Alike

theorem Sound.lists {r : Roster} (h : r.Sound) : r.book.Lists r.registry.published := by
  constructor
  · intro a id
    rw [h.registry.mem_published]
    exact (Registry.lookup_eq_some_iff_mem h.registry.keys).symm
  · exact h.registry.published_sorted.imp fun hl => (Text.lt_iff_bytes_lt _ _).mp hl

theorem names_length (r : Roster) : r.names.length = r.fleet.size := by
  simp [names]

theorem getElem?_names (r : Roster) (id : Nat) :
    r.names[id]? = r.fleet[id]?.map Endpoint.address := by
  simp [names]

theorem book_bound_isSome (r : Roster) (a : String) :
    (r.book.bound a).isSome = r.registry.taken a := (Registry.taken_eq_isSome _ _).symm

/-- An endpoint may change as long as it keeps its address. -/
theorem alike_setIfInBounds {r : Roster} {id : Nat} {e e' : Endpoint}
    (h : r.fleet[id]? = some e) (ha : e'.address = e.address) :
    Alike r { r with fleet := r.fleet.setIfInBounds id e' } where
  registry := rfl
  rotation := rfl
  names := by
    apply List.ext_getElem?
    intro i
    rw [getElem?_names, getElem?_names]
    by_cases hi : id = i
    · subst hi
      obtain ⟨hlt, -⟩ := Array.getElem?_eq_some_iff.mp h
      rw [Array.getElem?_setIfInBounds_self_of_lt hlt, h, Option.map_some, Option.map_some, ha]
    · rw [Array.getElem?_setIfInBounds_ne hi]

theorem alike_readAlive (id : Nat) (r : Roster) : Alike r (readAlive id r).2 := by
  unfold readAlive
  split
  next e he => exact alike_setIfInBounds he (Endpoint.address_readAlive e)
  next => exact Alike.refl r

theorem readAlive_fst_of_fleet {r r' : Roster} {id : Nat} (h : r'.fleet[id]? = r.fleet[id]?) :
    (readAlive id r').1 = (readAlive id r).1 := by
  unfold readAlive
  rw [h]
  split <;> rfl

theorem alike_aliveAmong (ms : List (String × Nat)) (r : Roster) :
    Alike r (aliveAmong ms r).2 := by
  induction ms generalizing r with
  | nil => exact Alike.refl r
  | cons m ms ih => exact (alike_readAlive m.2 r).trans (ih _)

theorem aliveAmong_sublist (ms : List (String × Nat)) (r : Roster) :
    (aliveAmong ms r).1.Sublist ms := by
  induction ms generalizing r with
  | nil => exact List.Sublist.refl _
  | cons m ms ih =>
    change (if (readAlive m.2 r).1 then m :: (aliveAmong ms (readAlive m.2 r).2).1
      else (aliveAmong ms (readAlive m.2 r).2).1).Sublist (m :: ms)
    split
    · exact (ih _).cons_cons m
    · exact (ih _).cons m

theorem names_make (e : Endpoint) (r : Roster) : (r.make e).2.names = r.names ++ [e.address] := by
  simp [make, names]

theorem book_make (e : Endpoint) (r : Roster) : (r.make e).2.book = r.book.make e.address :=
  Book.ext (names_make e r) rfl rfl

theorem Sound.make {r : Roster} (h : r.Sound) (e : Endpoint) : (r.make e).2.Sound where
  registry := h.registry
  named := by
    intro m hm
    have hn := h.named m hm
    rw [names_make, List.getElem?_append_left (List.getElem?_eq_some_iff.mp hn).1]
    exact hn

theorem register_of_taken {r : Roster} {id : Nat} {e : Endpoint} (he : r.fleet[id]? = some e)
    (h : r.registry.taken e.address = true) : r.register id = (false, r) := by
  unfold register
  rw [he]
  exact if_pos h

theorem register_of_free {r : Roster} {id : Nat} {e : Endpoint} (he : r.fleet[id]? = some e)
    (h : r.registry.taken e.address = false) :
    r.register id = (true,
      { r with
        registry := r.registry.insert e.address id
        metrics := r.metrics.set .endpoints (r.registry.insert e.address id).entries.length
        journal := .endpointAdded e.address (r.registry.insert e.address id).entries.length ::
          r.journal }) := by
  unfold register
  rw [he]
  exact if_neg (by simp [h])

theorem register_of_none {r : Roster} {id : Nat} (h : r.fleet[id]? = none) :
    r.register id = (false, r) := by
  unfold register
  rw [h]

theorem book_register (r : Roster) (id : Nat) : (r.register id).2.book = r.book.add id := by
  unfold Book.add
  change _ = match r.names[id]? with
    | some address => if (r.book.bound address).isSome then r.book else r.book.bind address id
    | none => r.book
  rw [getElem?_names]
  cases he : r.fleet[id]? with
  | none => rw [register_of_none he]; rfl
  | some e =>
    dsimp only [Option.map_some]
    rw [book_bound_isSome]
    cases ht : r.registry.taken e.address with
    | true => rw [register_of_taken he ht]; rfl
    | false =>
      rw [register_of_free he ht]
      exact Book.ext rfl (funext fun b => Registry.lookup_insert _ _ _ b) rfl

theorem Sound.register {r : Roster} (h : r.Sound) (id : Nat) : (r.register id).2.Sound := by
  cases he : r.fleet[id]? with
  | none => rw [register_of_none he]; exact h
  | some e =>
    cases ht : r.registry.taken e.address with
    | true => rw [register_of_taken he ht]; exact h
    | false =>
      rw [register_of_free he ht]
      refine ⟨h.registry.insert ht id, fun m hm => ?_⟩
      rcases List.mem_cons.mp hm with rfl | hm
      · exact (getElem?_names r id).trans (congrArg (Option.map Endpoint.address) he)
      · exact h.named m hm

theorem book_enlist (r : Roster) (e : Endpoint) :
    (r.enlist e).2.book = r.book.enlist e.address := by
  change ((r.make e).2.register r.fleet.size).2.book = _
  rw [book_register, book_make, ← names_length]
  rfl

theorem Sound.enlist {r : Roster} (h : r.Sound) (e : Endpoint) : (r.enlist e).2.Sound :=
  (h.make e).register _

/-- An endpoint is enlisted exactly if its address is free. -/
theorem enlist_fst (r : Roster) (e : Endpoint) :
    (r.enlist e).1 = !r.registry.taken e.address := by
  change ((r.make e).2.register r.fleet.size).1 = _
  have he : (r.make e).2.fleet[r.fleet.size]? = some e := by simp [make]
  have hr : (r.make e).2.registry = r.registry := rfl
  cases ht : r.registry.taken e.address with
  | true => rw [register_of_taken he (hr ▸ ht)]; rfl
  | false => rw [register_of_free he (hr ▸ ht)]; rfl

theorem deregister_of_free {r : Roster} {a : String} (h : r.registry.taken a = false) :
    r.deregister a = (false, r) := by
  unfold deregister
  exact if_neg (by simp [h])

theorem deregister_of_taken {r : Roster} {a : String} (h : r.registry.taken a = true) :
    r.deregister a = (true,
      { r with
        registry := r.registry.erase a
        metrics := (r.metrics.set .endpoints (r.registry.erase a).entries.length).setAlive a false
        journal := .endpointRemoved a (r.registry.erase a).entries.length :: r.journal }) := by
  unfold deregister
  exact if_pos h

theorem deregister_fst (r : Roster) (a : String) : (r.deregister a).1 = r.registry.taken a := by
  cases ht : r.registry.taken a with
  | true => rw [deregister_of_taken ht]
  | false => rw [deregister_of_free ht]

theorem book_deregister (r : Roster) (a : String) :
    (r.deregister a).2.book = r.book.unbind a := by
  cases ht : r.registry.taken a with
  | true =>
    rw [deregister_of_taken ht]
    exact Book.ext rfl (funext fun b => Registry.lookup_erase _ _ b) rfl
  | false =>
    rw [deregister_of_free ht, Book.unbind_eq_self]
    rw [← Option.not_isSome_iff_eq_none, book_bound_isSome, ht]
    exact Bool.false_ne_true

theorem Sound.deregister {r : Roster} (h : r.Sound) (a : String) : (r.deregister a).2.Sound := by
  cases ht : r.registry.taken a with
  | true =>
    rw [deregister_of_taken ht]
    exact ⟨h.registry.erase a, fun m hm => h.named m (List.mem_filter.mp hm).1⟩
  | false => rw [deregister_of_free ht]; exact h

theorem book_edit (r : Roster) (c : Edit) : (r.edit c).book = r.book.edit c := by
  cases c with
  | remove a => exact book_deregister r a
  | add a => exact book_enlist r _
  | register id => exact book_register r id

theorem Sound.edit {r : Roster} (h : r.Sound) (c : Edit) : (r.edit c).Sound := by
  cases c with
  | remove a => exact h.deregister a
  | add a => exact h.enlist _
  | register id => exact h.register id

theorem book_foldl_edit (cs : List Edit) (r : Roster) :
    (cs.foldl edit r).book = cs.foldl Book.edit r.book := by
  induction cs generalizing r with
  | nil => rfl
  | cons c cs ih => rw [List.foldl_cons, ih, book_edit, List.foldl_cons]

theorem Sound.foldl_edit {r : Roster} (h : r.Sound) (cs : List Edit) :
    (cs.foldl Roster.edit r).Sound := by
  induction cs generalizing r with
  | nil => exact h
  | cons c cs ih => exact ih (h.edit c)

theorem probe_of_none {net : Network} {r : Roster} {id : Nat} (h : r.fleet[id]? = none) :
    probe net r id = (none, r) := by
  unfold probe
  rw [h]

theorem probe_of_some {net : Network} {r : Roster} {id : Nat} {e : Endpoint}
    (h : r.fleet[id]? = some e) :
    probe net r id = (some (e.probe net), (e.probe net).edits.foldl edit
      ({ r with fleet := r.fleet.setIfInBounds id (e.probe net).endpoint }.reportAll
        (e.probe net).events)) := by
  unfold probe
  rw [h]

theorem alike_probed {r : Roster} {id : Nat} {e : Endpoint} (h : r.fleet[id]? = some e)
    (net : Network) :
    Alike r ({ r with fleet := r.fleet.setIfInBounds id (e.probe net).endpoint }.reportAll
      (e.probe net).events) :=
  (alike_setIfInBounds h (Endpoint.address_probe net e)).trans ⟨rfl, rfl, rfl⟩

theorem alike_settle (r : Roster) (m : String × Nat) (result : Except ProbeFailure Unit) :
    Alike r (r.settle m result) := by
  cases result with
  | ok _ =>
    have h : Alike r (r.report (.probeSucceeded m.1)) := ⟨rfl, rfl, rfl⟩
    exact (h.trans (alike_readAlive m.2 _)).trans ⟨rfl, rfl, rfl⟩
  | error f =>
    let r' := r.report (.probeFailed m.1 f)
    have h : Alike r { r' with metrics := r'.metrics.increment (.probeFailures m.1) } :=
      ⟨rfl, rfl, rfl⟩
    exact (h.trans (alike_readAlive m.2 _)).trans ⟨rfl, rfl, rfl⟩

theorem sweepOver_of_none {net : Network} {m : String × Nat} {ms : List (String × Nat)} {s : Sweep}
    {r : Roster} (h : r.fleet[m.2]? = none) :
    sweepOver net (m :: ms) s r = sweepOver net ms s r := by
  conv_lhs => unfold sweepOver
  rw [probe_of_none h]

theorem sweepOver_of_breakdown {net : Network} {m : String × Nat} {ms : List (String × Nat)}
    {s : Sweep} {r : Roster} {e : Endpoint} {b : Breakdown} (he : r.fleet[m.2]? = some e)
    (h : (e.probe (net.later s.elapsed)).result = .error b) :
    sweepOver net (m :: ms) s r =
      ({ s.note m.2 (e.probe (net.later s.elapsed)) with breakdown? := some b },
        (probe (net.later s.elapsed) r m.2).2) := by
  unfold sweepOver
  rw [probe_of_some he]
  dsimp only
  rw [h]

theorem sweepOver_of_result {net : Network} {m : String × Nat} {ms : List (String × Nat)}
    {s : Sweep} {r : Roster} {e : Endpoint} {result : Except ProbeFailure Unit}
    (he : r.fleet[m.2]? = some e) (h : (e.probe (net.later s.elapsed)).result = .ok result) :
    sweepOver net (m :: ms) s r =
      sweepOver net ms
        { s.note m.2 (e.probe (net.later s.elapsed)) with failed := s.failed + failures result }
        (settle (probe (net.later s.elapsed) r m.2).2 m result) := by
  conv_lhs => unfold sweepOver
  rw [probe_of_some he]
  dsimp only
  rw [h]
  rfl

/-- A sweep changes the book by what its probes changed, in order. -/
theorem book_sweepOver (net : Network) (b : Book) (ms : List (String × Nat)) (s : Sweep)
    (r : Roster) (h : r.book = s.edits.foldl Book.edit b) :
    (sweepOver net ms s r).2.book = (sweepOver net ms s r).1.edits.foldl Book.edit b := by
  induction ms generalizing s r with
  | nil => exact h
  | cons m ms ih =>
    cases he : r.fleet[m.2]? with
    | none => rw [sweepOver_of_none he]; exact ih s r h
    | some e =>
      have hb (now : Network) : (probe now r m.2).2.book =
          (s.edits ++ (e.probe now).edits).foldl Book.edit b := by
        rw [probe_of_some he, book_foldl_edit, (alike_probed he now).book, h, List.foldl_append]
      cases hr : (e.probe (net.later s.elapsed)).result with
      | error d => rw [sweepOver_of_breakdown he hr]; exact hb _
      | ok result =>
        rw [sweepOver_of_result he hr]
        exact ih _ _ ((alike_settle _ m _).book.trans (hb _))

theorem Sound.probe {r : Roster} (h : r.Sound) (net : Network) (id : Nat) :
    (probe net r id).2.Sound := by
  cases he : r.fleet[id]? with
  | none => rw [probe_of_none he]; exact h
  | some e =>
    rw [probe_of_some he]
    exact ((alike_probed he net).sound h).foldl_edit _

theorem Sound.sweepOver {net : Network} {ms : List (String × Nat)} {s : Sweep} {r : Roster}
    (h : r.Sound) : (sweepOver net ms s r).2.Sound := by
  induction ms generalizing s r with
  | nil => exact h
  | cons m ms ih =>
    cases he : r.fleet[m.2]? with
    | none => rw [sweepOver_of_none he]; exact ih h
    | some e =>
      have hp := h.probe (net.later s.elapsed) m.2
      cases hr : (e.probe (net.later s.elapsed)).result with
      | error d => rw [sweepOver_of_breakdown he hr]; exact hp
      | ok result => rw [sweepOver_of_result he hr]; exact ih ((alike_settle _ m _).sound hp)

theorem book_sweep (net : Network) (r : Roster) :
    (r.sweep net).2.book = (r.sweep net).1.edits.foldl Book.edit r.book :=
  book_sweepOver net r.book _ {} r rfl

theorem Sound.sweep {r : Roster} (h : r.Sound) (net : Network) : (r.sweep net).2.Sound :=
  h.sweepOver

end Roster
end RelayRoster
