import Mathlib
import RelayRoster.Proofs.Gauges

namespace RelayRoster

/-- What a write brings about that can be counted afterwards: an address comes or goes, a counter
moves on, a gauge is set, or an alignment is summed up. -/
inductive Stroke where
  | added (address : String)
  | removed (address : String)
  | counted (s : Series)
  | measured (address : String)
  | summedUp (added removed endpoints : Nat)
  deriving DecidableEq, Repr

def Series.isCounter : Series → Bool
  | .endpoints | .healthy _ => false
  | .probeFailures _ | .selections _ | .unavailable => true

namespace Stroke

def isChange : Stroke → Bool
  | .added _ | .removed _ => true
  | _ => false

def isTold : Stroke → Bool
  -- The journal tells of these.
  | .added _ | .removed _ | .summedUp _ _ _ => true
  | .counted _ | .measured _ => false

def counted? : Stroke → Option Series
  | .counted s => some s
  | _ => none

theorem filterMap_counted?_of_changes {ks : List Stroke} (h : ∀ k ∈ ks, k.isChange = true) :
    ks.filterMap counted? = [] := by
  rw [List.filterMap_eq_nil_iff]
  intro k hk
  have hc := h k hk
  cases k with
  | added a | removed a => rfl
  | counted s | measured a | summedUp a b n => cases hc

end Stroke

def Event.stroke? : Event → Option Stroke
  | .endpointAdded a _ => some (.added a)
  | .endpointRemoved a _ => some (.removed a)
  | .aligned added removed endpoints => some (.summedUp added removed endpoints)
  | _ => none

namespace Roster

/-- One write, with the stroke that it makes, if any. The endpoints may change on their own as long
as everyone keeps their number and address. -/
inductive Write : Roster → List Stroke → Roster → Prop
  | fleet {r : Roster} {fleet : Array Endpoint}
      (h : r.names <+: fleet.toList.map Endpoint.address) : Write r [] { r with fleet }
  | rotation (r : Roster) (rotation : Rotation) : Write r [] { r with rotation }
  | shuffle {r : Roster} {es : List (String × Nat)} (hp : es.Perm r.registry.entries) :
      Write r [] (r.shuffle es)
  | remark (r : Roster) {e : Event} (h : e.stroke? = none) : Write r [] (r.report e)
  | register {r : Roster} {id : Nat} {e : Endpoint} (he : r.fleet[id]? = some e)
      (h : r.registry.taken e.address = false) : Write r [.added e.address] (r.register id).2
  | deregister {r : Roster} {a : String} (h : r.registry.taken a = true) :
      Write r [.removed a] (r.deregister a).2
  | count (r : Roster) {s : Series} (h : s.isCounter = true) :
      Write r [.counted s] { r with metrics := r.metrics.increment s }
  | measure (r : Roster) (a : String) (alive : Bool) :
      Write r [.measured a] { r with metrics := r.metrics.setAlive a alive }
  | sumUp (r : Roster) (added removed endpoints : Nat) :
      Write r [.summedUp added removed endpoints] (r.report (.aligned added removed endpoints))

inductive Writes : Roster → List Stroke → Roster → Prop
  | nothing (r : Roster) : Writes r [] r
  | more {r r' r'' : Roster} {ks ks' : List Stroke} (h : Writes r ks r') (hw : Write r' ks' r'') :
      Writes r (ks ++ ks') r''

theorem Write.writes {r r' : Roster} {ks : List Stroke} (h : Write r ks r') : Writes r ks r' :=
  (Writes.nothing r).more h

namespace Writes

variable {r r' r'' : Roster} {ks ks' : List Stroke}

theorem trans (h : Writes r ks r') (h' : Writes r' ks' r'') : Writes r (ks ++ ks') r'' := by
  induction h' with
  | nothing => rwa [List.append_nil]
  | more _ hw ih => rw [← List.append_assoc]; exact ih.more hw

/-- Writes without strokes. -/
theorem idle (h : Writes r ks r') (h' : Writes r' [] r'') : Writes r ks r'' := by
  simpa using h.trans h'

theorem remarks {es : List Event} (h : ∀ e ∈ es, e.stroke? = none) (r : Roster) :
    Writes r [] (r.reportAll es) := by
  induction es using List.reverseRecOn with
  | nil => exact .nothing r
  | append_singleton es e ih =>
    rw [List.forall_mem_append] at h
    have hr : r.reportAll (es ++ [e]) = (r.reportAll es).report e := by
      unfold reportAll report
      rw [List.reverse_append]
      rfl
    rw [hr]
    exact (ih h.1).idle (Write.remark _ (h.2 e (List.mem_singleton_self e))).writes

end Writes

section

variable {r r' : Roster} {ks : List Stroke}

theorem Write.sound (h : Write r ks r') (hr : r.Sound) : r'.Sound := by
  cases h with
  | @fleet fleet h =>
    refine ⟨hr.registry, fun m hm => ?_⟩
    obtain ⟨ns, hns⟩ := h
    have hn := hr.named m hm
    change (fleet.toList.map Endpoint.address)[m.2]? = _
    rw [← hns, List.getElem?_append_left (List.getElem?_eq_some_iff.mp hn).1, hn]
  | shuffle hp => exact hr.shuffle hp
  | register => exact hr.register _
  | deregister => exact hr.deregister _
  | rotation | remark | count | measure | sumUp => exact ⟨hr.registry, hr.named⟩

theorem Write.names_isPrefix (h : Write r ks r') : r.names <+: r'.names := by
  cases h with
  | fleet h => exact h
  | register => unfold names; rw [register_fleet]
  | deregister => unfold names; rw [deregister_fleet]
  | rotation | shuffle | remark | count | measure | sumUp => exact List.prefix_rfl

theorem Writes.names_isPrefix (h : Writes r ks r') : r.names <+: r'.names := by
  induction h with
  | nothing => exact List.prefix_rfl
  | more _ hw ih => exact ih.trans hw.names_isPrefix

theorem Writes.sound (h : Writes r ks r') (hr : r.Sound) : r'.Sound := by
  induction h with
  | nothing => exact hr
  | more _ hw ih => exact hw.sound ih

end

theorem names_isPrefix_of_alike {r r' : Roster} (h : Alike r r') :
    r.names <+: r'.fleet.toList.map Endpoint.address := by
  change r.names <+: r'.names
  rw [h.names]

theorem writes_readAlive (id : Nat) (r : Roster) : Writes r [] (readAlive id r).2 := by
  have h := names_isPrefix_of_alike (alike_readAlive id r)
  cases he : r.fleet[id]? with
  | none =>
    unfold readAlive
    rw [he]
    exact .nothing r
  | some e =>
    unfold readAlive at h ⊢
    rw [he] at h ⊢
    exact (Write.fleet h).writes

theorem writes_aliveAmong (ms : List (String × Nat)) (r : Roster) :
    Writes r [] (aliveAmong ms r).2 := by
  induction ms generalizing r with
  | nil => exact .nothing r
  | cons m ms ih => exact (writes_readAlive m.2 r).idle (ih _)

theorem writes_make (e : Endpoint) (r : Roster) : Writes r [] (r.make e).2 := by
  refine (Write.fleet ?_).writes
  rw [Array.toList_push, List.map_append]
  exact List.prefix_append _ _

theorem writes_change (r : Roster) (id : Nat) (e : Endpoint) :
    Writes r [] (r.call (.change id e)).2 := by
  have h := names_isPrefix_of_alike (alike_change r id e)
  unfold call at h ⊢
  dsimp only at h ⊢
  split
  next hn =>
    rw [if_pos hn] at h
    exact (Write.fleet h).writes
  next => exact .nothing r

def registration (r : Roster) (id : Nat) : List Stroke :=
  match r.fleet[id]? with
  | some e => if r.registry.taken e.address then [] else [.added e.address]
  | none => []

/-- A registration makes a stroke exactly if it is answered as done. -/
theorem call_register_strokes (r : Roster) (id : Nat) :
    (r.registration id = [] ∧
      ((r.call (.register id)).1 = .nothing ∨ ∃ a, (r.call (.register id)).1 = .taken a)) ∨
    ∃ a, r.registration id = [.added a] ∧ (r.call (.register id)).1 = .registered := by
  unfold registration
  cases he : r.fleet[id]? with
  | none => exact .inl ⟨rfl, .inl (by rw [call_register_of_none he])⟩
  | some e =>
    dsimp only
    cases ht : r.registry.taken e.address with
    | true => exact .inl ⟨rfl, .inr ⟨_, by rw [call_register_of_taken he ht]⟩⟩
    | false => exact .inr ⟨_, rfl, by rw [call_register_of_free he ht]⟩

theorem writes_register (r : Roster) (id : Nat) :
    Writes r (r.registration id) (r.register id).2 := by
  unfold registration
  cases he : r.fleet[id]? with
  | none => rw [register_of_none he]; exact .nothing r
  | some e =>
    dsimp only
    cases ht : r.registry.taken e.address with
    | true => rw [register_of_taken he ht]; exact .nothing r
    | false => exact (Write.register he ht).writes

theorem writes_enlist (r : Roster) (e : Endpoint) :
    Writes r (if (r.enlist e).1 then [.added e.address] else []) (r.enlist e).2 := by
  have hid : (r.make e).2.fleet[r.fleet.size]? = some e := by simp [make]
  have h := (writes_make e r).trans (writes_register (r.make e).2 r.fleet.size)
  unfold registration at h
  rw [hid] at h
  rw [enlist_fst]
  change Writes r (if (!(r.make e).2.registry.taken e.address) = true then _ else _) _
  dsimp only at h
  cases ht : (r.make e).2.registry.taken e.address with
  | true => rwa [ht] at h
  | false => rwa [ht] at h

theorem writes_deregister (r : Roster) (a : String) :
    Writes r (if (r.deregister a).1 then [.removed a] else []) (r.deregister a).2 := by
  cases ht : r.registry.taken a with
  | true =>
    rw [deregister_fst, ht]
    exact (Write.deregister ht).writes
  | false => rw [deregister_of_free ht]; exact .nothing r

theorem writes_removeUnwanted (wanted as : List String) (r : Roster) :
    Writes r ((removeUnwanted wanted as r).1.map .removed) (removeUnwanted wanted as r).2 := by
  induction as generalizing r with
  | nil => exact .nothing r
  | cons a as ih =>
    by_cases ha : a ∈ wanted
    · rw [removeUnwanted_of_wanted ha]
      exact ih r
    · rw [removeUnwanted_of_unwanted ha, ← deregister_fst]
      have h := (writes_deregister r a).trans (ih (r.deregister a).2)
      dsimp only
      split
      next hgone => rwa [if_pos hgone] at h
      next hgone => rwa [if_neg hgone] at h

theorem writes_addMissing (health : HealthSettings) (as : List String) (r : Roster) :
    Writes r ((addMissing health as r).1.map .added) (addMissing health as r).2 := by
  induction as generalizing r with
  | nil => exact .nothing r
  | cons a as ih =>
    unfold addMissing
    split
    · exact ih r
    · have h := writes_enlist r (.relay (.ofSettings health a))
      dsimp only
      split
      next hdone =>
        rw [if_pos hdone] at h
        exact h.trans (ih _)
      next hdone =>
        -- An address that is taken after all is only remarked on.
        rw [if_neg hdone] at h
        exact (h.idle (Write.remark _ rfl).writes).trans (ih _)

def selection (r : Roster) : Stroke :=
  match r.select.1 with
  | some m => .counted (.selections m.1)
  | none => .counted .unavailable

theorem writes_choice (r : Roster) : Writes r [] r.choice.2.2 := by
  have hc : Writes r [] r.counted :=
    (writes_aliveAmong _ r).idle (Write.remark _ rfl).writes
  exact Rotation.pick_keeps (P := Writes r []) (fun _ s h => h.idle (writes_readAlive _ s)) hc

theorem writes_select (r : Roster) : Writes r [r.selection] r.select.2 := by
  have h := (writes_choice r).idle (Write.rotation _ r.choice.2.1).writes
  have hfst := select_fst r
  unfold selection
  rw [select_eq]
  cases hm : r.choice.1.bind (r.aliveMembers.1[·]?) with
  | some m =>
    exact h.more (.count { r.choice.2.2 with rotation := r.choice.2.1 } (s := .selections m.1) rfl)
  | none =>
    have hn := h.idle (Write.remark _ (e := .noneAvailable r.choice.2.2.registry.size) rfl).writes
    exact hn.more (.count _ (s := .unavailable) rfl)

theorem writes_align (r : Roster) (s : Settings) :
    Writes r ((r.align s).1.removed.map .removed ++ (r.align s).1.added.map .added ++
      [.summedUp (r.align s).1.added.length (r.align s).1.removed.length
        (r.align s).2.registry.size]) (r.align s).2 :=
  ((writes_removeUnwanted s.endpoints r.registry.addresses r).trans
    (writes_addMissing s.health s.endpoints _)).more (Write.sumUp _ _ _ _)

def strokes (r : Roster) : Call → List Stroke
  | .register id => r.registration id
  | .deregister a => if (r.deregister a).1 then [.removed a] else []
  | .select => [r.selection]
  | .align s => (r.align s).1.removed.map .removed ++ (r.align s).1.added.map .added ++
      [.summedUp (r.align s).1.added.length (r.align s).1.removed.length
        (r.align s).2.registry.size]
  | .make _ | .change _ _ | .members | .aliveMembers | .get _ | .contains _ | .addresses | .size
  | .isEmpty => []

theorem writes_call (r : Roster) (c : Call) : Writes r (r.strokes c) (r.call c).2 := by
  cases c with
  | make e => exact writes_make e r
  | change id e => exact writes_change r id e
  | register id => rw [call_register_snd]; exact writes_register r id
  | deregister a => exact writes_deregister r a
  | select => exact writes_select r
  | aliveMembers => exact writes_aliveAmong _ r
  | align s => exact writes_align r s
  | members | get _ | contains _ | addresses | size | isEmpty => exact .nothing r

theorem stroke?_of_mem_probe_events (net : Network) (e : Endpoint) :
    ∀ v ∈ (e.probe net).events, v.stroke? = none := by
  cases e with
  | relay b =>
    change ∀ v ∈ (b.probe net).events, v.stroke? = none
    unfold Relay.probe
    split
    · simp
    · dsimp only
      intro v hv
      rcases List.mem_append.mp hv with h | h
      · obtain ⟨x, -, rfl⟩ := List.mem_map.mp h
        rfl
      · unfold Relay.changeEvent at h
        split at h
        · rw [List.mem_singleton.mp h]
          rfl
        · cases h
  | rehearsed b =>
    change ∀ v ∈ b.probe.events, v.stroke? = none
    unfold Rehearsed.probe
    dsimp only
    split <;> simp

def editStrokes (r : Roster) : Edit → List Stroke
  | .remove a => if (r.deregister a).1 then [.removed a] else []
  | .add a => if (r.enlist (.rehearsed { address := a })).1 then [.added a] else []
  | .register id => r.registration id

theorem writes_edit (r : Roster) (c : Edit) : Writes r (r.editStrokes c) (r.edit c) := by
  cases c with
  | remove a => exact writes_deregister r a
  | add a => exact writes_enlist r _
  | register id => exact writes_register r id

theorem isChange_of_mem_editStrokes (r : Roster) (c : Edit) :
    ∀ k ∈ r.editStrokes c, k.isChange = true := by
  cases c with
  | remove a | add a =>
    unfold editStrokes
    dsimp only
    split <;> simp [Stroke.isChange]
  | register id =>
    change ∀ k ∈ r.registration id, k.isChange = true
    obtain ⟨hk, -⟩ | ⟨a, hk, -⟩ := call_register_strokes r id <;> rw [hk] <;> simp [Stroke.isChange]

theorem writes_foldl_edit (cs : List Edit) (r : Roster) :
    ∃ ks, Writes r ks (cs.foldl edit r) ∧ ∀ k ∈ ks, k.isChange = true := by
  induction cs generalizing r with
  | nil => exact ⟨[], .nothing r, by simp⟩
  | cons c cs ih =>
    obtain ⟨ks, hcs, hks⟩ := ih (r.edit c)
    exact ⟨_, (writes_edit r c).trans hcs,
      List.forall_mem_append.mpr ⟨isChange_of_mem_editStrokes r c, hks⟩⟩

/-- A probe lets addresses come and go, and does nothing else. -/
theorem writes_probe (net : Network) (r : Roster) (id : Nat) :
    ∃ ks, Writes r ks (probe net r id).2 ∧ ∀ k ∈ ks, k.isChange = true := by
  cases he : r.fleet[id]? with
  | none => rw [probe_of_none he]; exact ⟨[], .nothing r, by simp⟩
  | some e =>
    rw [probe_of_some he]
    obtain ⟨ks, hc, hks⟩ := writes_foldl_edit (e.probe net).edits
      ({ r with fleet := r.fleet.setIfInBounds id (e.probe net).endpoint }.reportAll
        (e.probe net).events)
    have hf := (Write.fleet (names_isPrefix_of_alike
      (alike_setIfInBounds he (Endpoint.address_probe net e)))).writes
    exact ⟨ks, (hf.idle (Writes.remarks (stroke?_of_mem_probe_events net e) _)).trans hc, hks⟩

def settlement (m : String × Nat) : Except ProbeFailure Unit → List Stroke
  | .ok () => [.measured m.1]
  | .error _ => [.counted (.probeFailures m.1), .measured m.1]

theorem writes_settle (r : Roster) (m : String × Nat) (result : Except ProbeFailure Unit) :
    Writes r (settlement m result) (r.settle m result) := by
  cases result with
  | ok _ =>
    have h := (Write.remark r (e := .probeSucceeded m.1) rfl).writes.idle (writes_readAlive m.2 _)
    exact h.more (.measure _ m.1 _)
  | error f =>
    have h := ((Write.remark r (e := .probeFailed m.1 f) rfl).writes.more
      (.count _ (s := .probeFailures m.1) rfl)).idle (writes_readAlive m.2 _)
    exact h.more (.measure _ m.1 _)

end Roster

def Sweep.failedProbes (w : Sweep) : List Nat :=
  w.probes.filterMap fun p => match p.2 with
    | .ok (.error _) => some p.1
    | _ => none

theorem Sweep.failedProbes_note (w : Sweep) (id : Nat) (p : Probed) :
    (w.note id p).failedProbes =
      w.failedProbes ++ match p.result with
        | .ok (.error _) => [id]
        | _ => [] := by
  unfold failedProbes note
  dsimp only
  rw [List.filterMap_append]
  congr 1
  split <;> simp_all

/-- What the strokes of a sweep from one state of it to a later one amount to, where just these
members failed. -/
structure Sweep.Accounts (w w' : Sweep) (failed : List (String × Nat)) (ks : List Stroke) :
    Prop where
  counted : ks.filterMap Stroke.counted? = failed.map fun m => .probeFailures m.1
  unsummed : ∀ a b n, Stroke.summedUp a b n ∉ ks
  probes : w'.failedProbes = w.failedProbes ++ failed.map (·.2)
  count : w'.failed = w.failed + failed.length

namespace Sweep

theorem Accounts.trans {w w' w'' : Sweep} {failed failed' : List (String × Nat)}
    {ks ks' : List Stroke} (h : w.Accounts w' failed ks) (h' : w'.Accounts w'' failed' ks') :
    w.Accounts w'' (failed ++ failed') (ks ++ ks') where
  counted := by rw [List.filterMap_append, List.map_append, h.counted, h'.counted]
  unsummed := fun a b n hk => (List.mem_append.mp hk).elim (h.unsummed a b n) (h'.unsummed a b n)
  probes := by rw [h'.probes, h.probes, List.map_append, List.append_assoc]
  count := by rw [h'.count, h.count, List.length_append, Nat.add_assoc]

theorem accounts_of_breakdown {w : Sweep} {id : Nat} {p : Probed} {b : Breakdown}
    (hp : p.result = .error b) {ks : List Stroke} (hks : ∀ k ∈ ks, k.isChange = true) :
    w.Accounts { w.note id p with breakdown? := some b } [] ks where
  counted := Stroke.filterMap_counted?_of_changes hks
  unsummed := fun _ _ _ hk => nomatch hks _ hk
  probes := by
    change (w.note id p).failedProbes = _
    rw [failedProbes_note, hp]
    rfl
  count := rfl

theorem accounts_of_result {w : Sweep} {m : String × Nat} {p : Probed}
    {result : Except ProbeFailure Unit} (hp : p.result = .ok result) {ks : List Stroke}
    (hks : ∀ k ∈ ks, k.isChange = true) :
    w.Accounts { w.note m.2 p with failed := w.failed + Roster.failures result }
      (if Roster.failures result = 0 then [] else [m]) (ks ++ Roster.settlement m result) where
  counted := by
    rw [List.filterMap_append, Stroke.filterMap_counted?_of_changes hks]
    cases result <;> rfl
  unsummed := by
    intro a b n hk
    rcases List.mem_append.mp hk with hk | hk
    · exact nomatch hks _ hk
    · cases result <;> simp [Roster.settlement] at hk
  probes := by
    change (w.note m.2 p).failedProbes = _
    rw [failedProbes_note, hp]
    cases result <;> rfl
  count := by cases result <;> rfl

end Sweep

namespace Roster

theorem writes_sweepOver (net : Network) (ms : List (String × Nat)) (w : Sweep) (r : Roster) :
    ∃ ks failed, Writes r ks (sweepOver net ms w r).2 ∧ failed.Sublist ms ∧
      w.Accounts (sweepOver net ms w r).1 failed ks := by
  induction ms generalizing w r with
  | nil => exact ⟨[], [], .nothing r, List.Sublist.refl _, rfl, by simp, by simp [sweepOver], rfl⟩
  | cons m ms ih =>
    cases he : r.fleet[m.2]? with
    | none =>
      rw [sweepOver_of_none he]
      obtain ⟨ks, failed, hw, hs, ha⟩ := ih w r
      exact ⟨ks, failed, hw, hs.cons m, ha⟩
    | some e =>
      obtain ⟨ks, hw, hks⟩ := writes_probe (net.later w.elapsed) r m.2
      -- A probe that breaks down is not counted as failed, and no member comes after it.
      cases hp : (e.probe (net.later w.elapsed)).result with
      | error b =>
        rw [sweepOver_of_breakdown he hp]
        exact ⟨ks, [], hw, List.nil_sublist _, Sweep.accounts_of_breakdown hp hks⟩
      | ok result =>
        rw [sweepOver_of_result he hp]
        obtain ⟨ks', failed, hw', hs, ha⟩ := ih
          { w.note m.2 (e.probe (net.later w.elapsed)) with failed := w.failed + failures result }
          (settle (probe (net.later w.elapsed) r m.2).2 m result)
        refine ⟨_, _, (hw.trans (writes_settle _ m result)).trans hw', ?_,
          (Sweep.accounts_of_result hp hks).trans ha⟩
        split
        · exact hs.cons m
        · exact hs.cons_cons m

end Roster

theorem Run.exists_writes {start : Roster} {t : List (Step × Answer)} {r : Roster}
    (h : Run start t r) : ∃ ks, Roster.Writes start ks r := by
  induction h with
  | start => exact ⟨[], .nothing _⟩
  | shuffle _ hp ih =>
    obtain ⟨ks, ih⟩ := ih
    exact ⟨ks, ih.idle (Roster.Write.shuffle hp).writes⟩
  | @step t r h q ih =>
    obtain ⟨ks, ih⟩ := ih
    cases q with
    | call c => exact ⟨_, ih.trans (Roster.writes_call r c)⟩
    | sweep net =>
      obtain ⟨ks', -, hw, -⟩ := Roster.writes_sweepOver net r.registry.published {} r
      exact ⟨_, ih.trans hw⟩

theorem Reaches.exists_writes {start : Roster} {t : List (Step × Answer)} {r : Roster}
    (h : Reaches start t r) : ∃ ks, Roster.Writes start ks r := by
  cases h with
  | between h => exact h.exists_writes
  | @within t r h net k =>
    obtain ⟨ks, hw⟩ := h.exists_writes
    obtain ⟨ks', -, hw', -⟩ := Roster.writes_sweepOver net (r.registry.published.take k) {} r
    exact ⟨_, hw.trans hw'⟩

end RelayRoster
