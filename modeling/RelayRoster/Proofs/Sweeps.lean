import Mathlib
import RelayRoster.Proofs.Starvation

namespace RelayRoster

namespace Probed

def isFailure (p : Probed) : Bool :=
  match p.result with
  | .ok (.error _) => true
  | _ => false

def isSuccess (p : Probed) : Bool :=
  match p.result with
  | .ok (.ok _) => true
  | _ => false

/-- The endpoint as a sweep leaves it. Unless the probe broke down, it was asked whether it is
alive. -/
def left (p : Probed) : Endpoint :=
  match p.result with
  | .ok _ => p.endpoint.readAlive.2
  | .error _ => p.endpoint

end Probed

/-- How far a sweep comes: through everything that there is to probe, or up to the first probe that
breaks down. -/
inductive Spans (all : List ((String × Nat) × Probed)) :
    List ((String × Nat) × Probed) → Option Breakdown → Prop
  | through (h : ∀ x ∈ all, ∃ o, x.2.result = .ok o) : Spans all all none
  | broken (before : List ((String × Nat) × Probed)) {x : (String × Nat) × Probed} {b : Breakdown}
      {after : List ((String × Nat) × Probed)} (he : all = before ++ x :: after)
      (hbefore : ∀ y ∈ before, ∃ o, y.2.result = .ok o) (hx : x.2.result = .error b) :
      Spans all (before ++ [x]) (some b)

namespace Spans

variable {all heard : List ((String × Nat) × Probed)} {x : (String × Nat) × Probed}
  {b? : Option Breakdown}

theorem cons {o : Except ProbeFailure Unit} (h : Spans all heard b?) (hx : x.2.result = .ok o) :
    Spans (x :: all) (x :: heard) b? := by
  cases h with
  | through h => exact .through (List.forall_mem_cons.mpr ⟨⟨o, hx⟩, h⟩)
  | broken before he hbefore hy =>
    exact .broken (x :: before) (congrArg (x :: ·) he)
      (List.forall_mem_cons.mpr ⟨⟨o, hx⟩, hbefore⟩) hy

theorem subset (h : Spans all heard b?) : heard ⊆ all := by
  cases h with
  | through _ => exact List.Subset.refl _
  | broken before he _ _ => simp [he]

theorem heard_eq (h : Spans all heard none) : heard = all := by
  cases h
  rfl

/-- Where nothing broke down, every probe failed or succeeded. -/
theorem length_eq (h : Spans all heard none) :
    heard.length = heard.countP (·.2.isFailure) + heard.countP (·.2.isSuccess) := by
  cases h with
  | through h =>
    rw [List.length_eq_countP_add_countP (·.2.isFailure)]
    congr 1
    -- None of these broke down, so that whatever did not fail succeeded.
    apply List.countP_congr
    intro x hx
    obtain ⟨o, ho⟩ := h x hx
    unfold Probed.isFailure Probed.isSuccess
    rw [ho]
    cases o <;> simp

end Spans

namespace Roster

section

variable {r : Roster} {id : Nat} {e : Endpoint}

theorem getElem?_fleet_edit (h : r.fleet[id]? = some e) (c : Edit) :
    (r.edit c).fleet[id]? = some e := by
  cases c with
  | remove a =>
    change (r.deregister a).2.fleet[id]? = some e
    rw [deregister_fleet, h]
  | add a =>
    change (r.enlist _).2.fleet[id]? = some e
    -- A new endpoint goes behind all others.
    rw [enlist_fleet, Array.getElem?_push_lt (Array.getElem?_eq_some_iff.mp h).1]
    exact (Array.getElem?_eq_getElem _).symm.trans h
  | register i =>
    change (r.register i).2.fleet[id]? = some e
    rw [register_fleet, h]

theorem getElem?_fleet_foldl_edit (h : r.fleet[id]? = some e) (cs : List Edit) :
    (cs.foldl edit r).fleet[id]? = some e := by
  induction cs generalizing r with
  | nil => exact h
  | cons c cs ih => exact ih (getElem?_fleet_edit h c)

theorem readAlive_fleet_congr {r r' : Roster} (h : r'.fleet = r.fleet) (id : Nat) :
    (readAlive id r').2.fleet = (readAlive id r).2.fleet := by
  unfold readAlive
  rw [h]
  split
  · rfl
  · exact h

theorem settle_fleet (r : Roster) (m : String × Nat) (result : Except ProbeFailure Unit) :
    (settle r m result).fleet = (readAlive m.2 r).2.fleet := by
  have h (r' : Roster) (hf : r'.fleet = r.fleet) := readAlive_fleet_congr hf m.2
  cases result <;> exact h _ rfl

theorem probe_fleet_self {net : Network} (h : r.fleet[id]? = some e) :
    (probe net r id).2.fleet[id]? = some (e.probe net).endpoint := by
  rw [probe_of_some h]
  exact getElem?_fleet_foldl_edit
    (Array.getElem?_setIfInBounds_self_of_lt (Array.getElem?_eq_some_iff.mp h).1) _

theorem probe_fleet_of_ne {net : Network} {i : Nat} {e' : Endpoint} (hi : i ≠ id)
    (h : r.fleet[i]? = some e') : (probe net r id).2.fleet[i]? = some e' := by
  cases he : r.fleet[id]? with
  | none => rw [probe_of_none he, h]
  | some e =>
    rw [probe_of_some he]
    exact getElem?_fleet_foldl_edit ((Array.getElem?_setIfInBounds_ne hi.symm).trans h) _

end

/-- What a sweep has done since a point: the probes that it added, and the endpoints that they left.
An endpoint that was not probed is as it was. -/
structure Progress (heard : List ((String × Nat) × Probed)) (s s' : Sweep) (r r' : Roster) :
    Prop where
  probed : s'.probed = s.probed + heard.length
  failed : s'.failed = s.failed + heard.countP (·.2.isFailure)
  probes : s'.probes = s.probes ++ heard.map fun x => (x.1.2, x.2.result)
  edits : s'.edits = s.edits ++ heard.flatMap (·.2.edits)
  left : ∀ x ∈ heard, r'.fleet[x.1.2]? = some x.2.left
  others : ∀ id e, r.fleet[id]? = some e → id ∉ heard.map (·.1.2) → r'.fleet[id]? = some e

namespace Progress

variable {net : Network} {r r' r'' : Roster} {s s' s'' : Sweep} {m : String × Nat} {e : Endpoint}

theorem refl (s : Sweep) (r : Roster) : Progress [] s s r r where
  probed := rfl
  failed := rfl
  probes := (List.append_nil _).symm
  edits := (List.append_nil _).symm
  left := List.forall_mem_nil _
  others := fun _ _ h _ => h

/-- A turn that is followed by turns of other endpoints. -/
theorem cons {p : Probed} {heard : List ((String × Nat) × Probed)}
    (h : Progress [(m, p)] s s' r r') (h' : Progress heard s' s'' r' r'')
    (hm : m.2 ∉ heard.map (·.1.2)) : Progress ((m, p) :: heard) s s'' r r'' where
  probed := by
    rw [h'.probed, h.probed, List.length_singleton, List.length_cons]
    omega
  failed := by
    rw [h'.failed, h.failed, List.countP_cons, List.countP_cons, List.countP_nil]
    omega
  probes := by
    rw [h'.probes, h.probes, List.append_assoc]
    rfl
  edits := by
    rw [h'.edits, h.edits, List.append_assoc, List.flatMap_singleton]
    rfl
  left := by
    rw [List.forall_mem_cons]
    -- No later turn comes back to this endpoint.
    exact ⟨h'.others _ _ (h.left _ (List.mem_singleton_self _)) hm, h'.left⟩
  others := by
    intro id e he hid
    rw [List.map_cons, List.mem_cons, not_or] at hid
    exact h'.others _ _ (h.others _ _ he (by simpa using hid.1)) hid.2

theorem of_breakdown {b : Breakdown} (he : r.fleet[m.2]? = some e)
    (h : (e.probe net).result = .error b) :
    Progress [(m, e.probe net)] s { s.note m.2 (e.probe net) with breakdown? := some b } r
      (probe net r m.2).2 where
  probed := rfl
  failed := by simp [Sweep.note, Probed.isFailure, h]
  probes := rfl
  edits := by rw [List.flatMap_singleton]; rfl
  left := by
    rw [List.forall_mem_singleton, probe_fleet_self he]
    unfold Probed.left
    rw [h]
  others := fun _ _ hi hid => probe_fleet_of_ne (by simpa using hid) hi

/-- A turn that is not broken off. -/
theorem of_result {result : Except ProbeFailure Unit} (he : r.fleet[m.2]? = some e) (s : Sweep)
    (h : (e.probe (net.later s.elapsed)).result = .ok result) (ms : List (String × Nat)) :
    ∃ s' r', s'.breakdown? = s.breakdown? ∧
      net.later s'.elapsed =
        (net.later s.elapsed).later (e.probe (net.later s.elapsed)).elapsed ∧
      Progress [(m, e.probe (net.later s.elapsed))] s s' r r' ∧
      sweepOver net (m :: ms) s r = sweepOver net ms s' r' := by
  refine ⟨{ s.note m.2 (e.probe (net.later s.elapsed)) with failed := s.failed + failures result },
    settle (probe (net.later s.elapsed) r m.2).2 m result, rfl, (net.later_later _ _).symm,
    ⟨rfl, ?_, rfl, ?_, ?_, fun id e' hi hid => ?_⟩, sweepOver_of_result he h⟩
  · cases result <;> simp [failures, Probed.isFailure, h]
  · rw [List.flatMap_singleton]
    rfl
  · rw [List.forall_mem_singleton, settle_fleet, readAlive_fleet_self, probe_fleet_self he]
    unfold Probed.left
    rw [h]
    rfl
  · have hne : id ≠ m.2 := by simpa using hid
    rw [settle_fleet, readAlive_fleet_of_ne hne, probe_fleet_of_ne hne hi]

end Progress

/-- What the probes of members bring about, one begun when the one before it is over, if the endpoints
stay as they are now until they are probed. -/
def outlook (net : Network) (r : Roster) : List (String × Nat) → List ((String × Nat) × Probed)
  | [] => []
  | m :: ms =>
    match r.fleet[m.2]? with
    | none => outlook net r ms
    | some e => (m, e.probe net) :: outlook (net.later (e.probe net).elapsed) r ms

theorem outlook_cons {net : Network} {r : Roster} {m : String × Nat} {e : Endpoint}
    (h : r.fleet[m.2]? = some e) (ms : List (String × Nat)) :
    r.outlook net (m :: ms) =
      (m, e.probe net) :: r.outlook (net.later (e.probe net).elapsed) ms := by
  rw [outlook, h]

theorem map_fst_outlook {net : Network} {r : Roster} {ms : List (String × Nat)}
    (h : ∀ m ∈ ms, ∃ e, r.fleet[m.2]? = some e) : (r.outlook net ms).map (·.1) = ms := by
  induction ms generalizing net with
  | nil => rfl
  | cons m ms ih =>
    rw [List.forall_mem_cons] at h
    obtain ⟨⟨e, he⟩, h⟩ := h
    rw [outlook_cons he, List.map_cons, ih h]

theorem outlook_congr {net : Network} {r r' : Roster} {ms : List (String × Nat)}
    (h : ∀ m ∈ ms, r'.fleet[m.2]? = r.fleet[m.2]?) : r'.outlook net ms = r.outlook net ms := by
  induction ms generalizing net with
  | nil => rfl
  | cons m ms ih =>
    rw [List.forall_mem_cons] at h
    unfold outlook
    simp only [h.1, ih h.2]

/-- The sweep probes the members in order, up to one that breaks down, and each probe finds the
endpoint as it was at the beginning, whatever the probes before it did to the registry. -/
theorem sweepOver_spans (net : Network) {ms : List (String × Nat)} {s : Sweep} {r : Roster}
    (hs : s.breakdown? = none) (hn : (ms.map (·.2)).Nodup)
    (hr : ∀ m ∈ ms, ∃ e, r.fleet[m.2]? = some e) :
    ∃ heard, Spans (r.outlook (net.later s.elapsed) ms) heard
        (sweepOver net ms s r).1.breakdown? ∧
      Progress heard s (sweepOver net ms s r).1 r (sweepOver net ms s r).2 := by
  induction ms generalizing s r with
  | nil => exact ⟨[], hs ▸ .through (List.forall_mem_nil _), .refl s r⟩
  | cons m ms ih =>
    rw [List.map_cons, List.nodup_cons] at hn
    rw [List.forall_mem_cons] at hr
    obtain ⟨⟨e, he⟩, hr⟩ := hr
    rw [outlook_cons he]
    cases hres : (e.probe (net.later s.elapsed)).result with
    | error b =>
      rw [sweepOver_of_breakdown he hres]
      exact ⟨_, .broken [] rfl (List.forall_mem_nil _) hres, .of_breakdown he hres⟩
    | ok result =>
      obtain ⟨s', r', hb, hlater, ht, hsweep⟩ := Progress.of_result he s hres ms
      rw [hsweep, ← hlater]
      -- The members to come are other endpoints, which this turn left alone.
      have hrest : ∀ m' ∈ ms, r'.fleet[m'.2]? = r.fleet[m'.2]? := by
        intro m' hm'
        obtain ⟨e', he'⟩ := hr m' hm'
        rw [he']
        refine ht.others _ _ he' ?_
        rw [List.map_singleton, List.mem_singleton]
        exact fun hid => hn.1 (hid ▸ List.mem_map_of_mem hm')
      obtain ⟨heard, hspan, hp⟩ := ih (hb.trans hs) hn.2 fun m' hm' => hrest m' hm' ▸ hr m' hm'
      rw [outlook_congr hrest] at hspan
      refine ⟨_, hspan.cons hres, ht.cons hp fun hm => hn.1 ?_⟩
      obtain ⟨x, hx, hid⟩ := List.mem_map.mp hm
      have hx := List.mem_map_of_mem (f := (·.1)) (hspan.subset hx)
      rw [map_fst_outlook hr] at hx
      exact hid ▸ List.mem_map_of_mem hx

theorem Sound.exists_fleet {r : Roster} (h : r.Sound) {m : String × Nat}
    (hm : m ∈ r.registry.published) : ∃ e, r.fleet[m.2]? = some e := by
  have hn := h.named m (h.registry.mem_published.mp hm)
  rw [getElem?_names, Option.map_eq_some_iff] at hn
  obtain ⟨e, he, -⟩ := hn
  exact ⟨e, he⟩

end Roster

/-- A sweep probes those who are registered when it begins, by the bytes of their addresses, each
once, up to the first whose probe breaks down. Each probe finds its endpoint as it was then, so that
neither who is taken off during the sweep is passed over nor who is added is probed. The registry
changes by what the probes changed, in order, the rotation not at all, and whatever comes after the
sweep goes on from a sound roster. -/
theorem sweep_probes_registered {r : Roster} (h : r.Sound) (net : Network) :
    let w := (r.sweep net).1
    let r' := (r.sweep net).2
    let all := r.outlook net r.registry.published
    r.book.Lists r.registry.published ∧ (r.registry.published.map (·.2)).Nodup ∧
      all.map (·.1) = r.registry.published ∧
      ∃ heard, Spans all heard w.breakdown? ∧
        w.probes = heard.map (fun x => (x.1.2, x.2.result)) ∧
        w.probed = heard.length ∧ w.failed = heard.countP (·.2.isFailure) ∧ w.failed ≤ w.probed ∧
        (w.breakdown? = none →
          w.probed = r.registry.size ∧ w.succeeded = heard.countP (·.2.isSuccess)) ∧
        (∀ x ∈ heard, r'.fleet[x.1.2]? = some x.2.left) ∧
        (∀ id e, r.fleet[id]? = some e → id ∉ heard.map (·.1.2) → r'.fleet[id]? = some e) ∧
        r'.book = (heard.flatMap (·.2.edits)).foldl Book.edit r.book ∧
        r'.rotation = r.rotation ∧
        ∀ t r'', Reaches r' t r'' → r''.Sound ∧ r''.book.Lists r''.registry.published ∧
          ∀ q, r''.book.Allows q (r''.step q).1 (r''.step q).2.book := by
  intro w r' all
  have hfleet : ∀ m ∈ r.registry.published, ∃ e, r.fleet[m.2]? = some e :=
    fun _ => h.exists_fleet
  have hall : all.map (·.1) = r.registry.published := Roster.map_fst_outlook hfleet
  obtain ⟨heard, hspan, hp⟩ : ∃ heard, Spans all heard w.breakdown? ∧
      Roster.Progress heard {} w r r' :=
    Roster.sweepOver_spans net (s := {}) rfl h.published_ids_nodup hfleet
  have hprobed : w.probed = heard.length := hp.probed.trans (Nat.zero_add _)
  have hfailed : w.failed = heard.countP (·.2.isFailure) := hp.failed.trans (Nat.zero_add _)
  have hedits : w.edits = heard.flatMap (·.2.edits) := hp.edits.trans (List.nil_append _)
  have hbook : r'.book = (heard.flatMap (·.2.edits)).foldl Book.edit r.book := by
    rw [← hedits]
    exact Roster.book_sweep net r
  have hrotation : r'.rotation = r.rotation := by
    rcases Roster.step_rotation h (.sweep net) with hr | ⟨hq, -⟩
    · exact hr
    · cases hq
  refine ⟨h.lists, h.published_ids_nodup, hall, heard, hspan,
    hp.probes.trans (List.nil_append _), hprobed, hfailed, ?_, fun hb => ?_, hp.left, hp.others,
    hbook, hrotation, fun t r'' hr => ?_⟩
  · rw [hprobed, hfailed]
    exact List.countP_le_length
  · rw [hb] at hspan
    have hlen := hspan.length_eq
    constructor
    · rw [hprobed, hspan.heard_eq, ← List.length_map (·.1), hall]
      rfl
    · unfold Sweep.succeeded
      omega
  · have hs := hr.sound (h.sweep net)
    exact ⟨hs, hs.lists, Roster.step_allowed hs⟩

/-- The first of four takes the second off and adds a fifth, the third takes itself off and
collapses. -/
theorem sweep_probes_registered_of_collapse :
    ∃ r : Roster, r.Sound ∧ r.registry.addresses = ["a:1", "b:1", "c:1", "d:1"] ∧
      (r.sweep {}).1.breakdown? = some .rehearsed ∧
      (r.sweep {}).1.probes.map (·.1) = [0, 1, 2] ∧
      (r.sweep {}).1.failed = 1 ∧ (r.sweep {}).1.failed ≤ (r.sweep {}).1.probed ∧
      (r.sweep {}).2.registry.addresses = ["a:1", "d:1", "e:1"] ∧
      (r.sweep {}).2.rotation = r.rotation ∧
      ∀ q, (r.sweep {}).2.book.Allows q ((r.sweep {}).2.step q).1
        ((r.sweep {}).2.step q).2.book := by
  let a : Rehearsed :=
    { address := "a:1", probeScript := [⟨.unreachable, none, [.remove "b:1", .add "e:1"]⟩] }
  let c : Rehearsed := { address := "c:1", probeScript := [⟨.collapse, none, [.remove "c:1"]⟩] }
  let r : Roster :=
    { fleet := #[.rehearsed a, .rehearsed { address := "b:1" }, .rehearsed c,
        .rehearsed { address := "d:1" }]
      registry := .ofEntries [("d:1", 3), ("b:1", 1), ("a:1", 0), ("c:1", 2)] }
  have hs : r.Sound := ⟨⟨by decide, rfl⟩, by decide⟩
  have hrun : ((r.sweep {}).1.breakdown?, (r.sweep {}).1.probes.map (·.1), (r.sweep {}).1.failed,
      (r.sweep {}).2.registry.addresses) =
        (some .rehearsed, [0, 1, 2], 1, ["a:1", "d:1", "e:1"]) := by cbv
  simp only [Prod.mk.injEq] at hrun
  obtain ⟨hbreakdown, hprobes, hfailed, haddresses⟩ := hrun
  obtain ⟨-, -, -, heard, -, -, -, -, hle, -, -, -, -, hrotation, hlater⟩ :=
    sweep_probes_registered hs {}
  exact ⟨r, hs, by cbv, hbreakdown, hprobes, hfailed, hle, haddresses, hrotation,
    (hlater [] _ (.between .start)).2.2⟩

end RelayRoster
