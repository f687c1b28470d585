import Mathlib
import RelayRoster.Proofs.Run
import RelayRoster.Proofs.Strokes

namespace RelayRoster

namespace Metrics

/-- The value of a series, zero as long as it was never written. -/
def value (m : Metrics) (s : Series) : Nat := (m.get? s).getD 0

def total (m : Metrics) (p : Series → Bool) : Nat :=
  (m.values.map fun x => if p x.1 then x.2 else 0).sum

def Keyed (m : Metrics) : Prop := (m.values.map (·.1)).Nodup

theorem Keyed.set {m : Metrics} (h : m.Keyed) (s : Series) (n : Nat) : (m.set s n).Keyed := by
  refine List.nodup_cons.mpr ⟨fun hs => ?_, h.sublist (List.filter_sublist.map _)⟩
  obtain ⟨x, hx, he⟩ := List.mem_map.mp hs
  exact of_decide_eq_true (List.mem_filter.mp hx).2 he

/-- The values of a kind are the value of one series and those of all others. -/
theorem total_eq_add {m : Metrics} (h : m.Keyed) (p : Series → Bool) (s : Series) :
    m.total p = (if p s then m.value s else 0) +
      ((m.values.filter (·.1 ≠ s)).map fun x => if p x.1 then x.2 else 0).sum := by
  obtain ⟨vs⟩ := m
  change (vs.map _).sum = (if p s then (vs.lookup s).getD 0 else 0) + _
  induction vs with
  | nil => simp
  | cons x vs ih =>
    have h' : x.1 ∉ vs.map (·.1) ∧ (vs.map (·.1)).Nodup := List.nodup_cons.mp h
    have ih := ih h'.2
    rw [List.map_cons, List.sum_cons, ih, List.lookup_cons]
    by_cases hx : x.1 = s
    · -- No later value is one of the same series.
      have hn : vs.lookup s = none := by
        rw [List.lookup_eq_none_iff]
        intro y hy
        simpa using fun he : s = y.1 => h'.1 (hx ▸ he ▸ List.mem_map_of_mem hy)
      simp [hx, hn]
    · rw [List.filter_cons_of_pos (by simpa using hx), beq_false_of_ne (Ne.symm hx), List.map_cons,
        List.sum_cons]
      dsimp only
      rw [Nat.add_left_comm]

theorem value_eq_total {m : Metrics} (h : m.Keyed) (s : Series) : m.value s = m.total (· = s) := by
  have hz : ((m.values.filter (·.1 ≠ s)).map
      fun x => if decide (x.1 = s) then x.2 else 0).sum = 0 := by
    apply List.sum_eq_zero
    intro n hn
    obtain ⟨x, hx, rfl⟩ := List.mem_map.mp hn
    have hs : x.1 ≠ s := of_decide_eq_true (List.mem_filter.mp hx).2
    simp [hs]
  rw [total_eq_add h _ s, hz]
  simp

theorem total_set {m : Metrics} (h : m.Keyed) (p : Series → Bool) (s : Series) (n : Nat) :
    (m.set s n).total p + (if p s then m.value s else 0) = m.total p + if p s then n else 0 := by
  rw [total_eq_add h p s]
  unfold total set
  rw [List.map_cons, List.sum_cons]
  dsimp only
  omega

theorem total_set_of_neg {m : Metrics} (h : m.Keyed) {p : Series → Bool} {s : Series}
    (hs : p s = false) (n : Nat) : (m.set s n).total p = m.total p := by
  simpa [hs] using total_set h p s n

theorem total_increment {m : Metrics} (h : m.Keyed) (p : Series → Bool) (s : Series) :
    (m.increment s).total p = m.total p + if p s then 1 else 0 := by
  have hset := total_set h p s (m.value s + 1)
  change (m.set s (m.value s + 1)).total p = _
  by_cases hs : p s = true
  · rw [if_pos hs, if_pos hs] at hset
    rw [if_pos hs]
    omega
  · rw [if_neg hs, if_neg hs] at hset
    rw [if_neg hs]
    exact hset

end Metrics

namespace Roster

variable {r r' : Roster} {ks : List Stroke}

theorem Write.keyed (h : Write r ks r') (hr : r.metrics.Keyed) : r'.metrics.Keyed := by
  cases h with
  | register he ht => rw [register_of_free he ht]; exact hr.set _ _
  | deregister ht => rw [deregister_of_taken ht]; exact (hr.set _ _).set _ _
  | count | measure => exact hr.set _ _
  | fleet | rotation | shuffle | remark | sumUp => exact hr

/-- A write moves on the counter that it counts, if any, and no other. -/
theorem Write.total (h : Write r ks r') (hr : r.metrics.Keyed) {p : Series → Bool}
    (hp : ∀ s, p s = true → s.isCounter = true) :
    r'.metrics.total p = r.metrics.total p + (ks.filterMap Stroke.counted?).countP p := by
  have hgauge {s : Series} (hs : s.isCounter = false) : p s = false := by
    by_contra hn
    rw [hp s (by simpa using hn)] at hs
    cases hs
  cases h with
  | register he ht =>
    rw [register_of_free he ht]
    exact Metrics.total_set_of_neg hr (hgauge rfl) _
  | deregister ht =>
    rw [deregister_of_taken ht]
    exact (Metrics.total_set_of_neg (hr.set _ _) (hgauge rfl) _).trans
      (Metrics.total_set_of_neg hr (hgauge rfl) _)
  | @count s _ => exact (Metrics.total_increment hr p s).trans (by simp [Stroke.counted?])
  | measure => exact Metrics.total_set_of_neg hr (hgauge rfl) _
  | fleet | rotation | shuffle | remark | sumUp => rfl

theorem Writes.keyed (h : Writes r ks r') (hr : r.metrics.Keyed) : r'.metrics.Keyed := by
  induction h with
  | nothing => exact hr
  | more _ hw ih => exact hw.keyed ih

theorem Writes.total (h : Writes r ks r') (hr : r.metrics.Keyed) {p : Series → Bool}
    (hp : ∀ s, p s = true → s.isCounter = true) :
    r'.metrics.total p = r.metrics.total p + (ks.filterMap Stroke.counted?).countP p := by
  induction h with
  | nothing => rfl
  | more h hw ih =>
    rw [hw.total (h.keyed hr) hp, ih, List.filterMap_append, List.countP_append, Nat.add_assoc]

/-- A counter moves on as often as it is counted. -/
theorem Writes.value (h : Writes r ks r') (hr : r.metrics.Keyed) {s : Series}
    (hs : s.isCounter = true) :
    r'.metrics.value s = r.metrics.value s + (ks.filterMap Stroke.counted?).count s := by
  have ht := h.total hr (p := (· = s)) fun s' hs' => of_decide_eq_true hs' ▸ hs
  rw [Metrics.value_eq_total (h.keyed hr), Metrics.value_eq_total hr, ht]
  congr 1

/-- Readers see another list only if an address comes or goes. -/
theorem Write.published (h : Write r ks r') (hk : ks.any Stroke.isChange = false) :
    r'.registry.published = r.registry.published := by
  cases h with
  | register | deregister => cases hk
  | fleet | rotation | shuffle | remark | count | measure | sumUp => rfl

theorem Writes.published (h : Writes r ks r') (hk : ks.any Stroke.isChange = false) :
    r'.registry.published = r.registry.published := by
  induction h with
  | nothing => rfl
  | more _ hw ih =>
    rw [List.any_append, Bool.or_eq_false_iff] at hk
    rw [hw.published hk.2, ih hk.1]

theorem Write.size (h : Write r ks r') :
    r'.metrics.get? .endpoints =
      if ks.any Stroke.isChange then some r'.registry.size else r.metrics.get? .endpoints := by
  cases h with
  | register he ht =>
    rw [register_of_free he ht]
    exact (Metrics.get?_set _ _ _ _).trans (congrArg some (Registry.size_ofEntries _).symm)
  | deregister ht =>
    rw [deregister_of_taken ht]
    exact (Metrics.get?_set_of_ne (by simp) _ _).trans
      ((Metrics.get?_set _ _ _ _).trans (congrArg some (Registry.size_ofEntries _).symm))
  | count hs =>
    apply Metrics.get?_set_of_ne
    rintro rfl
    cases hs
  | measure => exact Metrics.get?_set_of_ne (by simp) _ _
  | fleet | rotation | shuffle | remark | sumUp => rfl

/-- Once an address has come or gone, the gauge of the endpoints is their number. -/
theorem Writes.size (h : Writes r ks r') :
    r'.metrics.get? .endpoints =
      if ks.any Stroke.isChange then some r'.registry.size else r.metrics.get? .endpoints := by
  induction h with
  | nothing => rfl
  | @more r₁ r₂ ks ks' h hw ih =>
    rw [hw.size, List.any_append]
    cases hk' : ks'.any Stroke.isChange with
    | true => rw [Bool.or_true]; rfl
    | false =>
      have hp : r₂.registry.size = r₁.registry.size := congrArg List.length (hw.published hk')
      rw [if_neg Bool.false_ne_true, ih, Bool.or_false, hp]

end Roster

namespace Series

def isSelection : Series → Bool
  | .selections _ => true
  | _ => false

def isProbeFailure : Series → Bool
  | .probeFailures _ => true
  | _ => false

end Series

def Step.isSelection : Step → Bool
  | .call .select => true
  | _ => false

namespace Answer

def isSelection : Answer → Bool
  | .selected _ => true
  | _ => false

def selects (a : String) : Answer → Bool
  | .selected (some m) => m.1 = a
  | _ => false

def selectsNobody : Answer → Bool
  | .selected none => true
  | _ => false

/-- Whether it tells of an address that came or went. A sweep does not tell what its probes changed,
but there is nobody to probe before an address has come. -/
def hasChanged : Answer → Bool
  | .registered => true
  | .deregistered gone => gone
  | .aligned c => !c.isEmpty
  | _ => false

def failedProbes : Answer → List Nat
  | .swept w => w.failedProbes
  | _ => []

/-- How many probes failed by the sweep's own account. -/
def failed : Answer → Nat
  | .swept w => w.failed
  | _ => 0

def counts (names : List String) : Answer → List Series
  | .selected (some m) => [.selections m.1]
  | .selected none => [.unavailable]
  | .swept w => w.failedProbes.filterMap fun id => names[id]?.map .probeFailures
  | _ => []

end Answer

namespace Roster

/-- A call counts what it answers. -/
theorem strokes_counted (r : Roster) (c : Call) (names : List String) :
    (r.strokes c).filterMap Stroke.counted? = (r.call c).1.counts names := by
  cases c with
  | change id e => rw [call_change_fst]; rfl
  | register id =>
    change (r.registration id).filterMap Stroke.counted? = _
    obtain ⟨hk, ha | ⟨a, ha⟩⟩ | ⟨a, hk, ha⟩ := call_register_strokes r id <;> rw [hk, ha] <;> rfl
  | deregister a =>
    unfold strokes
    dsimp only
    split <;> rfl
  | select =>
    change [r.selection].filterMap Stroke.counted? = Answer.counts names (.selected r.select.1)
    unfold selection
    cases r.select.1 <;> rfl
  | align s =>
    change (_ ++ _ ++ [_]).filterMap Stroke.counted? = []
    rw [List.filterMap_append, List.filterMap_append, List.filterMap_map, List.filterMap_map]
    simp [Stroke.counted?, Function.comp_def]
  | make | members | aliveMembers | get _ | contains _ | addresses | size | isEmpty => rfl

theorem call_failed (r : Roster) (c : Call) :
    (r.call c).1.failedProbes = [] ∧ (r.call c).1.failed = 0 := by
  cases c with
  | change id e => rw [call_change_fst]; exact ⟨rfl, rfl⟩
  | register id =>
    obtain ⟨-, ha | ⟨a, ha⟩⟩ | ⟨a, -, ha⟩ := call_register_strokes r id <;> rw [ha] <;>
      exact ⟨rfl, rfl⟩
  | _ => exact ⟨rfl, rfl⟩

theorem call_isSelection (r : Roster) (c : Call) :
    (Step.call c).isSelection = (r.call c).1.isSelection := by
  cases c with
  | change id e => rw [call_change_fst]; rfl
  | register id =>
    obtain ⟨-, ha | ⟨a, ha⟩⟩ | ⟨a, -, ha⟩ := call_register_strokes r id <;> rw [ha] <;> rfl
  | _ => rfl

theorem strokes_any (r : Roster) (c : Call) :
    (r.strokes c).any Stroke.isChange = (r.call c).1.hasChanged := by
  cases c with
  | change id e => rw [call_change_fst]; rfl
  | register id =>
    change (r.registration id).any Stroke.isChange = _
    obtain ⟨hk, ha | ⟨a, ha⟩⟩ | ⟨a, hk, ha⟩ := call_register_strokes r id <;> rw [hk, ha] <;> rfl
  | deregister a =>
    change (if (r.deregister a).1 then [Stroke.removed a] else []).any Stroke.isChange =
      (r.deregister a).1
    cases (r.deregister a).1 <;> rfl
  | select =>
    change [r.selection].any Stroke.isChange = false
    unfold selection
    cases r.select.1 <;> rfl
  | align s =>
    change (_ ++ _ ++ [_]).any Stroke.isChange = !(r.align s).1.isEmpty
    unfold Changes.isEmpty
    cases (r.align s).1.removed <;> cases (r.align s).1.added <;> simp [Stroke.isChange]
  | make | members | aliveMembers | get _ | contains _ | addresses | size | isEmpty => rfl

end Roster

/-- The strokes of a run from the empty roster: they count what the answers tell, and an address has
come or gone if an answer tells of it. -/
structure Tallied (t : List (Step × Answer)) (r : Roster) (ks : List Stroke) : Prop where
  writes : Roster.Writes {} ks r
  counted : ks.filterMap Stroke.counted? = t.flatMap fun x => x.2.counts r.names
  changed : ks.any Stroke.isChange = t.any fun x => x.2.hasChanged
  named : ∀ x ∈ t, ∀ id ∈ x.2.failedProbes, id < r.names.length
  failed : ∀ x ∈ t, x.2.failed = x.2.failedProbes.length
  asked : ∀ x ∈ t, x.1.isSelection = x.2.isSelection

/-- Endpoints that are made later change nothing about what was counted before. -/
theorem Answer.counts_of_prefix {names names' : List String} (h : names <+: names') {x : Answer}
    (hx : ∀ id ∈ x.failedProbes, id < names.length) : x.counts names' = x.counts names := by
  cases x with
  | swept w =>
    apply List.filterMap_congr
    intro id hid
    obtain ⟨ns, rfl⟩ := h
    rw [List.getElem?_append_left (hx id hid)]
  | selected m => cases m <;> rfl
  | _ => rfl

namespace Tallied

variable {t : List (Step × Answer)} {r r' : Roster} {ks ks' : List Stroke}

theorem concat (h : Tallied t r ks) {x : Step × Answer} (hw : r.Writes ks' r')
    (hc : ks'.filterMap Stroke.counted? = x.2.counts r'.names)
    (hk : (ks ++ ks').any Stroke.isChange = (ks.any Stroke.isChange || x.2.hasChanged))
    (hn : ∀ id ∈ x.2.failedProbes, id < r'.names.length)
    (hf : x.2.failed = x.2.failedProbes.length) (ha : x.1.isSelection = x.2.isSelection) :
    Tallied (t ++ [x]) r' (ks ++ ks') where
  writes := h.writes.trans hw
  counted := by
    have ht : (t.flatMap fun x => x.2.counts r'.names) = t.flatMap fun x => x.2.counts r.names := by
      rw [List.flatMap_def, List.flatMap_def]
      congr 1
      apply List.map_congr_left
      intro x hx
      exact Answer.counts_of_prefix hw.names_isPrefix (h.named x hx)
    rw [List.filterMap_append, List.flatMap_append, ht, h.counted, hc]
    simp
  changed := by simp [hk, h.changed]
  named := by
    refine List.forall_mem_append.mpr ⟨fun x hx id hid => ?_, List.forall_mem_singleton.mpr hn⟩
    exact Nat.lt_of_lt_of_le (h.named x hx id hid) hw.names_isPrefix.length_le
  failed := List.forall_mem_append.mpr ⟨h.failed, List.forall_mem_singleton.mpr hf⟩
  asked := List.forall_mem_append.mpr ⟨h.asked, List.forall_mem_singleton.mpr ha⟩

theorem call (h : Tallied t r ks) (c : Call) :
    ∃ ks', Tallied (t ++ [(.call c, (r.call c).1)]) (r.call c).2 ks' := by
  have hf := Roster.call_failed r c
  refine ⟨_, h.concat (x := (.call c, (r.call c).1)) (Roster.writes_call r c)
    (Roster.strokes_counted r c _) ?_ ?_ ?_ (Roster.call_isSelection r c)⟩
  · rw [List.any_append, Roster.strokes_any]
  · rw [hf.1]
    simp
  · rw [hf.1, hf.2]
    rfl

/-- A sweep, or the first part of one, counts its failed probes. -/
theorem sweepOver (h : Tallied t r ks) (net : Network) {ms : List (String × Nat)}
    (hms : ms.Sublist r.registry.published) :
    ∃ ks', Tallied (t ++ [(.sweep net, .swept (Roster.sweepOver net ms {} r).1)])
      (Roster.sweepOver net ms {} r).2 ks' := by
  cases hc : ks.any Stroke.isChange with
  | false =>
    -- Nobody has ever been registered, so there is nobody to probe.
    have hp : ms = [] := by
      have hp := h.writes.published hc
      rw [hp] at hms
      exact List.sublist_nil.mp hms
    subst hp
    exact ⟨_, h.concat (Roster.Writes.nothing r) rfl (by simp [Answer.hasChanged])
      (fun id hid => (List.not_mem_nil hid).elim) rfl rfl⟩
  | true =>
    obtain ⟨ks', failed, hw, hs, ha⟩ := Roster.writes_sweepOver net ms {} r
    have hsound := h.writes.sound Roster.sound_empty
    have hname : ∀ m ∈ failed, (Roster.sweepOver net ms {} r).2.names[m.2]? = some m.1 := by
      intro m hm
      have hn := hsound.named m (hsound.registry.mem_published.mp (hms.subset (hs.subset hm)))
      obtain ⟨ns, hns⟩ := hw.names_isPrefix
      rw [← hns, List.getElem?_append_left (List.getElem?_eq_some_iff.mp hn).1, hn]
    have hids : (Roster.sweepOver net ms {} r).1.failedProbes = failed.map (·.2) := ha.probes
    refine ⟨_, h.concat hw ?_ ?_ ?_ ?_ rfl⟩
    · change _ = List.filterMap _ (Sweep.failedProbes _)
      rw [ha.counted, hids, List.filterMap_map, ← List.filterMap_eq_map]
      apply List.filterMap_congr
      intro m hm
      exact (congrArg (Option.map Series.probeFailures) (hname m hm)).symm
    · rw [List.any_append, hc]
      rfl
    · change ∀ id ∈ Sweep.failedProbes _, _
      rw [hids]
      intro id hid
      obtain ⟨m, hm, rfl⟩ := List.mem_map.mp hid
      exact (List.getElem?_eq_some_iff.mp (hname m hm)).1
    · change Sweep.failed _ = (Sweep.failedProbes _).length
      rw [hids, ha.count, List.length_map]
      exact Nat.zero_add _

end Tallied

theorem Run.tallied {t : List (Step × Answer)} {r : Roster} (h : Run {} t r) :
    ∃ ks, Tallied t r ks := by
  induction h with
  | start => exact ⟨[], .nothing _, rfl, rfl, by simp, by simp, by simp⟩
  | shuffle _ hp ih =>
    obtain ⟨ks, ih⟩ := ih
    exact ⟨ks, ih.writes.idle (Roster.Write.shuffle hp).writes, ih.counted, ih.changed, ih.named,
      ih.failed, ih.asked⟩
  | step _ q ih =>
    obtain ⟨ks, ih⟩ := ih
    cases q with
    | call c => exact ih.call c
    | sweep net => exact ih.sweepOver net (List.Sublist.refl _)

theorem Reaches.tallied {t : List (Step × Answer)} {r : Roster} (h : Reaches {} t r) :
    ∃ ks, Tallied t r ks := by
  cases h with
  | between h => exact h.tallied
  | within h net k =>
    obtain ⟨ks, ih⟩ := h.tallied
    exact ih.sweepOver net (List.take_sublist k _)

end RelayRoster
