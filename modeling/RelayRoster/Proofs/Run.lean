import RelayRoster.Proofs.Alignment
import RelayRoster.Proofs.Selection

namespace RelayRoster

/-- What is asked of a roster. Besides, its surroundings make endpoints, and an endpoint may change
on its own as long as it keeps its address. -/
inductive Call where
  | make (e : Endpoint)
  | change (id : Nat) (e : Endpoint)
  | register (id : Nat)
  | deregister (address : String)
  | select
  | members
  | aliveMembers
  | get (address : String)
  | contains (address : String)
  | addresses
  | size
  | isEmpty
  | align (s : Settings)

inductive Step where
  | call (c : Call)
  | sweep (net : Network)

/-- What a step answers. A registration that is refused names the address that is taken. -/
inductive Answer where
  | nothing
  | registered
  | taken (address : String)
  | deregistered (gone : Bool)
  | selected (member : Option (String × Nat))
  | members (ms : List (String × Nat))
  | found (id : Option Nat)
  | truth (b : Bool)
  | addresses (as : List String)
  | count (n : Nat)
  | aligned (changes : Changes)
  | swept (w : Sweep)

def Answer.isRefusal : Answer → Bool
  | .taken _ | .deregistered false => true
  | _ => false

namespace Roster

def call (r : Roster) : Call → Answer × Roster
  | .make e => (.nothing, (r.make e).2)
  | .change id e =>
    if r.names[id]? = some e.address then
      (.nothing, { r with fleet := r.fleet.setIfInBounds id e })
    else (.nothing, r)
  | .register id =>
    match r.fleet[id]? with
    | none => (.nothing, r)
    | some e => (if (r.register id).1 then .registered else .taken e.address, (r.register id).2)
  | .deregister address => (.deregistered (r.deregister address).1, (r.deregister address).2)
  | .select => (.selected r.select.1, r.select.2)
  | .members => (.members r.registry.published, r)
  | .aliveMembers => (.members r.aliveMembers.1, r.aliveMembers.2)
  | .get address => (.found (r.registry.get? address), r)
  | .contains address => (.truth (r.registry.contains address), r)
  | .addresses => (.addresses r.registry.addresses, r)
  | .size => (.count r.registry.size, r)
  | .isEmpty => (.truth (r.registry.size = 0), r)
  | .align s => (.aligned (r.align s).1, (r.align s).2)

def step (r : Roster) : Step → Answer × Roster
  | .call c => r.call c
  | .sweep net => (.swept (r.sweep net).1, (r.sweep net).2)

def shuffle (r : Roster) (es : List (String × Nat)) : Roster :=
  { r with registry := { r.registry with entries := es } }

/-- A sweep up to some of its endpoints. -/
def sweepFirst (net : Network) (k : Nat) (r : Roster) : Sweep × Roster :=
  sweepOver net (r.registry.published.take k) {} r

theorem sweepOver_append {net : Network} (ms ms' : List (String × Nat)) {s : Sweep} {r : Roster}
    (hs : s.breakdown? = none) :
    sweepOver net (ms ++ ms') s r =
      let part := sweepOver net ms s r
      if part.1.breakdown? = none then sweepOver net ms' part.1 part.2 else part := by
  induction ms generalizing s r with
  | nil => exact (if_pos hs).symm
  | cons m ms ih =>
    rw [List.cons_append]
    cases he : r.fleet[m.2]? with
    | none => rw [sweepOver_of_none he, sweepOver_of_none he]; exact ih hs
    | some e =>
      cases hr : (e.probe (net.later s.elapsed)).result with
      | error b =>
        rw [sweepOver_of_breakdown he hr, sweepOver_of_breakdown he hr]
        exact (if_neg nofun).symm
      | ok result => rw [sweepOver_of_result he hr, sweepOver_of_result he hr]; exact ih hs

/-- The rest of a sweep goes on from what its first part leaves, unless that one broke off. -/
theorem sweep_eq_sweepFirst (net : Network) (k : Nat) (r : Roster) :
    r.sweep net =
      let part := r.sweepFirst net k
      if part.1.breakdown? = none then
        sweepOver net (r.registry.published.drop k) part.1 part.2
      else part := by
  have h : sweepOver net (r.registry.published.take k ++ r.registry.published.drop k) {} r = _ :=
    sweepOver_append _ _ rfl
  rwa [List.take_append_drop] at h

end Roster

/-- The steps taken from a roster with their answers, and where they lead. The entries may change
their order at any time. -/
inductive Run (start : Roster) : List (Step × Answer) → Roster → Prop
  | start : Run start [] start
  | shuffle {t : List (Step × Answer)} {r : Roster} {es : List (String × Nat)} (h : Run start t r)
      (hp : es.Perm r.registry.entries) : Run start t (r.shuffle es)
  | step {t : List (Step × Answer)} {r : Roster} (h : Run start t r) (q : Step) :
      Run start (t ++ [(q, (r.step q).1)]) (r.step q).2

/-- A point of a run: between two steps, or within a sweep once some of the endpoints are probed. -/
inductive Reaches (start : Roster) : List (Step × Answer) → Roster → Prop
  | between {t : List (Step × Answer)} {r : Roster} (h : Run start t r) : Reaches start t r
  | within {t : List (Step × Answer)} {r : Roster} (h : Run start t r) (net : Network) (k : Nat) :
      Reaches start (t ++ [(.sweep net, .swept (r.sweepFirst net k).1)]) (r.sweepFirst net k).2

namespace Roster

theorem Sound.shuffle {r : Roster} (h : r.Sound) {es : List (String × Nat)}
    (hp : es.Perm r.registry.entries) : (r.shuffle es).Sound where
  registry := h.registry.reorder hp
  named := fun m hm => h.named m (hp.mem_iff.mp hm)

theorem book_shuffle {r : Roster} (h : r.Sound) {es : List (String × Nat)}
    (hp : es.Perm r.registry.entries) : (r.shuffle es).book = r.book :=
  Book.ext rfl (funext fun a => Registry.lookup_eq_of_perm h.registry.keys hp a) rfl

theorem alike_change (r : Roster) (id : Nat) (e : Endpoint) :
    Alike r (r.call (.change id e)).2 := by
  unfold call
  dsimp only
  split
  next hn =>
    rw [getElem?_names, Option.map_eq_some_iff] at hn
    obtain ⟨e', he', ha⟩ := hn
    exact alike_setIfInBounds he' ha.symm
  next => exact Alike.refl r

theorem call_change_fst (r : Roster) (id : Nat) (e : Endpoint) :
    (r.call (.change id e)).1 = .nothing := by
  unfold call
  dsimp only
  split <;> rfl

theorem call_register_of_none {r : Roster} {id : Nat} (h : r.fleet[id]? = none) :
    r.call (.register id) = (.nothing, r) := by
  unfold call
  dsimp only
  rw [h]

theorem call_register_of_taken {r : Roster} {id : Nat} {e : Endpoint} (he : r.fleet[id]? = some e)
    (h : r.registry.taken e.address = true) : r.call (.register id) = (.taken e.address, r) := by
  unfold call
  dsimp only
  rw [he, register_of_taken he h]
  rfl

theorem call_register_of_free {r : Roster} {id : Nat} {e : Endpoint} (he : r.fleet[id]? = some e)
    (h : r.registry.taken e.address = false) :
    r.call (.register id) = (.registered, (r.register id).2) := by
  unfold call
  dsimp only
  rw [he, register_of_free he h]
  rfl

theorem call_register_snd (r : Roster) (id : Nat) :
    (r.call (.register id)).2 = (r.register id).2 := by
  cases he : r.fleet[id]? with
  | none => rw [call_register_of_none he, register_of_none he]
  | some e =>
    unfold call
    dsimp only
    rw [he]

theorem Sound.call {r : Roster} (h : r.Sound) (c : Call) : (r.call c).2.Sound := by
  cases c with
  | make e => exact h.make e
  | change id e => exact (alike_change r id e).sound h
  | register id => rw [call_register_snd]; exact h.register id
  | deregister a => exact h.deregister a
  | select =>
    have hr : Sound { r with rotation := r.select.2.rotation } := ⟨h.registry, h.named⟩
    exact (alike_select r).sound hr
  | aliveMembers => exact (alike_aliveMembers r).sound h
  | align s => exact h.align s
  | members | get _ | contains _ | addresses | size | isEmpty => exact h

theorem Sound.step {r : Roster} (h : r.Sound) (q : Step) : (r.step q).2.Sound := by
  cases q with
  | call c => exact h.call c
  | sweep net => exact h.sweep net

end Roster

theorem Run.sound {start : Roster} (hs : start.Sound) {t : List (Step × Answer)} {r : Roster}
    (h : Run start t r) : r.Sound := by
  induction h with
  | start => exact hs
  | shuffle _ hp ih => exact ih.shuffle hp
  | step _ q ih => exact ih.step q

theorem Reaches.sound {start : Roster} (hs : start.Sound) {t : List (Step × Answer)} {r : Roster}
    (h : Reaches start t r) : r.Sound := by
  cases h with
  | between h => exact h.sound hs
  | within h net k => exact (h.sound hs).sweepOver

end RelayRoster
