import Mathlib
import RelayRoster.Proofs.Completion
import RelayRoster.Proofs.Counters

namespace RelayRoster

theorem sum_map_eq_countP {α : Type} {l : List α} {f : α → Nat} {p : α → Bool}
    (h : ∀ x ∈ l, f x = if p x then 1 else 0) : (l.map f).sum = l.countP p := by
  induction l with
  | nil => rfl
  | cons x l ih =>
    rw [List.forall_mem_cons] at h
    rw [List.map_cons, List.sum_cons, List.countP_cons, h.1, ih h.2, Nat.add_comm]

namespace Answer

theorem countP_counts_swept {p : Series → Bool} (hp : ∀ a, p (.probeFailures a) = false)
    (names : List String) (w : Sweep) : ((Answer.swept w).counts names).countP p = 0 := by
  rw [List.countP_eq_zero]
  intro s hs
  obtain ⟨id, -, hid⟩ := List.mem_filterMap.mp hs
  obtain ⟨a, -, rfl⟩ := Option.map_eq_some_iff.mp hid
  simp [hp]

/-- What an answer counts besides failures of probes. -/
theorem countP_counts {p : Series → Bool} (hp : ∀ a, p (.probeFailures a) = false)
    (names : List String) (x : Answer) :
    (x.counts names).countP p =
      match x with
      | .selected (some m) => if p (.selections m.1) then 1 else 0
      | .selected none => if p .unavailable then 1 else 0
      | _ => 0 := by
  cases x with
  | selected m => cases m <;> exact List.countP_singleton
  | swept w => exact countP_counts_swept hp names w
  | _ => rfl

theorem count_probeFailures (names : List String) (x : Answer) (a : String) :
    (x.counts names).count (.probeFailures a) =
      x.failedProbes.countP fun id => names[id]? = some a := by
  cases x with
  | selected m => cases m <;> rfl
  | swept w =>
    change List.countP _ (List.filterMap _ _) = _
    rw [List.countP_filterMap]
    apply List.countP_congr
    intro id _
    cases names[id]? <;> simp
  | _ => rfl

/-- Every failed probe of a known endpoint is counted. -/
theorem countP_isProbeFailure {names : List String} {x : Answer}
    (hx : ∀ id ∈ x.failedProbes, id < names.length) :
    (x.counts names).countP Series.isProbeFailure = x.failedProbes.length := by
  cases x with
  | selected m => cases m <;> rfl
  | swept w =>
    change List.countP _ (List.filterMap _ _) = w.failedProbes.length
    rw [List.countP_filterMap, List.countP_eq_length]
    intro id hid
    rw [List.getElem?_eq_getElem (hx id hid)]
    rfl
  | _ => rfl

end Answer

namespace Tallied

variable {t : List (Step × Answer)} {r : Roster} {ks : List Stroke} (h : Tallied t r ks)
include h

theorem total {p : Series → Bool} (hp : ∀ s, p s = true → s.isCounter = true) :
    r.metrics.total p = (t.map fun x => (x.2.counts r.names).countP p).sum := by
  have hz : ({} : Roster).metrics.total p = 0 := rfl
  rw [h.writes.total List.nodup_nil hp, h.counted, List.countP_flatMap, hz, Nat.zero_add]
  rfl

theorem value {s : Series} (hs : s.isCounter = true) :
    r.metrics.value s = (t.map fun x => (x.2.counts r.names).count s).sum := by
  have hz : ({} : Roster).metrics.value s = 0 := rfl
  rw [h.writes.value List.nodup_nil hs, h.counted, List.count_flatMap, hz, Nat.zero_add]
  rfl

theorem selections (a : String) :
    r.metrics.value (.selections a) = t.countP fun x => x.2.selects a := by
  rw [h.value rfl]
  apply sum_map_eq_countP
  intro x _
  rw [List.count_eq_countP, Answer.countP_counts fun _ => rfl]
  cases x.2 with
  | selected m => cases m <;> simp [Answer.selects]
  | _ => rfl

theorem unavailable : r.metrics.value .unavailable = t.countP fun x => x.2.selectsNobody := by
  rw [h.value rfl]
  apply sum_map_eq_countP
  intro x _
  rw [List.count_eq_countP, Answer.countP_counts fun _ => rfl]
  cases x.2 with
  | selected m => cases m <;> rfl
  | _ => rfl

/-- Every selection is counted once, as one that found somebody or as one that did not. -/
theorem allSelections :
    r.metrics.total Series.isSelection + r.metrics.value .unavailable =
      t.countP fun x => x.1.isSelection := by
  have hp (s : Series) (hs : s.isSelection = true) : s.isCounter = true := by
    cases s with
    | selections => rfl
    | _ => cases hs
  rw [h.total hp, h.value rfl, ← List.sum_map_add]
  apply sum_map_eq_countP
  intro x hx
  rw [h.asked x hx, List.count_eq_countP, Answer.countP_counts fun _ => rfl,
    Answer.countP_counts fun _ => rfl]
  cases x.2 with
  | selected m => cases m <;> rfl
  | _ => rfl

theorem probeFailures (a : String) :
    r.metrics.value (.probeFailures a) =
      (t.flatMap fun x => x.2.failedProbes).countP fun id => r.names[id]? = some a := by
  rw [h.value rfl, List.countP_flatMap]
  congr 1
  apply List.map_congr_left
  intro x _
  exact Answer.count_probeFailures r.names x.2 a

theorem allProbeFailures :
    r.metrics.total Series.isProbeFailure = (t.map fun x => x.2.failed).sum := by
  have hp (s : Series) (hs : s.isProbeFailure = true) : s.isCounter = true := by
    cases s with
    | probeFailures => rfl
    | _ => cases hs
  rw [h.total hp]
  congr 1
  apply List.map_congr_left
  intro x hx
  rw [Answer.countP_isProbeFailure (h.named x hx), h.failed x hx]

theorem size :
    r.metrics.get? .endpoints =
      if t.any fun x => x.2.hasChanged then some r.registry.size else none := by
  rw [h.writes.size, h.changed]
  rfl

end Tallied

/-- Whether a step takes this address off the registry; a sweep over relays takes nothing off. -/
def Step.removes (a : String) : Step → Answer → Bool
  | .call (.deregister b), .deregistered gone => gone && b = a
  | .call (.align _), .aligned c => c.removed.contains a
  | _, _ => false

/-- A probe of the member has completed in a sweep, and its address has not been taken off since. -/
def ProbedSince (t : List (Step × Answer)) (m : String × Nat) : Prop :=
  ∃ before net w after result, t = before ++ (.sweep net, .swept w) :: after ∧
    (m.2, .ok result) ∈ w.probes ∧ ∀ x ∈ after, x.1.removes m.1 x.2 = false

theorem ProbedSince.of_concat {t : List (Step × Answer)} {x : Step × Answer} {m : String × Nat}
    (h : ProbedSince (t ++ [x]) m) :
    (ProbedSince t m ∧ x.1.removes m.1 x.2 = false) ∨
      ∃ net w result, x = (.sweep net, .swept w) ∧ (m.2, .ok result) ∈ w.probes := by
  obtain ⟨before, net, w, after, result, ht, hp, ha⟩ := h
  cases after using List.reverseRecOn with
  | nil =>
    obtain ⟨-, hx⟩ := List.append_singleton_inj.mp ht
    exact .inr ⟨net, w, result, hx, hp⟩
  | append_singleton after y =>
    rw [← List.cons_append, ← List.append_assoc] at ht
    obtain ⟨hb, rfl⟩ := List.append_singleton_inj.mp ht
    rw [List.forall_mem_append] at ha
    exact .inl ⟨⟨before, net, w, after, result, hb, hp, ha.1⟩, ha.2 x (List.mem_singleton_self x)⟩

namespace Roster

variable {r r' : Roster} {ks : List Stroke} {m : String × Nat}

theorem Write.gauge {a : String} (h : Write r ks r') (hr : .removed a ∉ ks)
    (hm : .measured a ∉ ks) : r'.metrics.get? (.healthy a) = r.metrics.get? (.healthy a) := by
  cases h with
  | register he ht =>
    rw [register_of_free he ht]
    exact Metrics.get?_set_of_ne (by simp) _ _
  | @deregister b ht =>
    have hb : a ≠ b := by simpa using hr
    rw [deregister_of_taken ht]
    dsimp only
    rw [Metrics.get?_setAlive, if_neg hb]
    exact Metrics.get?_set_of_ne (by simp) _ _
  | count hs =>
    apply Metrics.get?_set_of_ne
    rintro rfl
    cases hs
  | measure b alive =>
    have hb : a ≠ b := by simpa using hm
    dsimp only
    rw [Metrics.get?_setAlive, if_neg hb]
  | fleet | rotation | shuffle | remark | sumUp => rfl

/-- A gauge stays unless its address goes or is measured. -/
theorem Writes.gauge {a : String} (h : Writes r ks r') (hr : .removed a ∉ ks)
    (hm : .measured a ∉ ks) : r'.metrics.get? (.healthy a) = r.metrics.get? (.healthy a) := by
  induction h with
  | nothing => rfl
  | more _ hw ih =>
    rw [List.mem_append, not_or] at hr hm
    rw [hw.gauge hr.2 hm.2, ih hr.1 hm.1]

theorem Write.registered (h : Write r ks r') (hr : .removed m.1 ∉ ks)
    (hm : m ∈ r.registry.entries) : m ∈ r'.registry.entries := by
  cases h with
  | register he ht =>
    rw [register_of_free he ht]
    exact List.mem_cons_of_mem _ hm
  | @deregister b ht =>
    have hb : m.1 ≠ b := by simpa using hr
    rw [deregister_of_taken ht]
    exact List.mem_filter.mpr ⟨hm, decide_eq_true hb⟩
  | shuffle hp => exact hp.mem_iff.mpr hm
  | fleet | rotation | remark | count | measure | sumUp => exact hm

/-- Whoever is registered stays so unless the address goes. -/
theorem Writes.registered (h : Writes r ks r') (hr : .removed m.1 ∉ ks)
    (hm : m ∈ r.registry.entries) : m ∈ r'.registry.entries := by
  induction h with
  | nothing => exact hm
  | more _ hw ih =>
    rw [List.mem_append, not_or] at hr
    exact hw.registered hr.2 (ih hr.1)

/-- Calls measure nobody, and an address goes only where the answer tells of it. -/
theorem strokes_keep {c : Call} {a : String} (h : (Step.call c).removes a (r.call c).1 = false) :
    .removed a ∉ r.strokes c ∧ .measured a ∉ r.strokes c := by
  cases c with
  | register id =>
    change .removed a ∉ r.registration id ∧ .measured a ∉ r.registration id
    obtain ⟨hk, -⟩ | ⟨b, hk, -⟩ := call_register_strokes r id <;> rw [hk] <;> simp
  | deregister b =>
    change ((r.deregister b).1 && decide (b = a)) = false at h
    change .removed a ∉ (if (r.deregister b).1 then [Stroke.removed b] else []) ∧
      .measured a ∉ (if (r.deregister b).1 then [Stroke.removed b] else [])
    cases hg : (r.deregister b).1 with
    | false => simp
    | true =>
      have hb : b ≠ a := by simpa [hg] using h
      simp [hb.symm]
  | select =>
    change .removed a ∉ [r.selection] ∧ .measured a ∉ [r.selection]
    unfold selection
    cases r.select.1 <;> simp
  | align s =>
    change (r.align s).1.removed.contains a = false at h
    have ha : a ∉ (r.align s).1.removed := by simpa using h
    simp [strokes, ha]
  | make | change | members | aliveMembers | get | contains | addresses | size | isEmpty =>
    simp [strokes]

def Gauged (r : Roster) (m : String × Nat) : Prop :=
  r.metrics.get? (.healthy m.1) = some (if (readAlive m.2 r).1 then 1 else 0)

theorem Gauged.of_same (h : r.Gauged m)
    (hm : r'.metrics.get? (.healthy m.1) = r.metrics.get? (.healthy m.1))
    (hf : r'.fleet[m.2]? = r.fleet[m.2]?) : r'.Gauged m := by
  unfold Gauged
  rw [hm, readAlive_fst_of_fleet hf]
  exact h

namespace Remembers

variable {bs : List Relay} {past : Nat → List Outcome}

/-- No call changes a relay that is there. -/
theorem call_getElem? (h : r.Remembers bs past) {c : Call} (hc : (Step.call c).KeepsToRelays)
    {id : Nat} (hid : id < bs.length) : (r.call c).2.fleet[id]? = r.fleet[id]? := by
  rw [(h.call hc).fleet, h.fleet, List.getElem?_append_left hid]

theorem lt_length (h : r.Remembers bs past) (hm : m ∈ r.registry.entries) : m.2 < bs.length := by
  have hn := (List.getElem?_eq_some_iff.mp (h.sound.named m hm)).1
  rwa [names_length, h.length_eq] at hn

theorem call_gauged (h : r.Remembers bs past) {c : Call} (hc : (Step.call c).KeepsToRelays)
    (hm : m ∈ r.registry.entries) (hr : (Step.call c).removes m.1 (r.call c).1 = false)
    (hg : r.Gauged m) : m ∈ (r.call c).2.registry.entries ∧ (r.call c).2.Gauged m := by
  obtain ⟨hk, hk'⟩ := strokes_keep hr
  have hw := writes_call r c
  exact ⟨hw.registered hk hm, hg.of_same (hw.gauge hk hk') (h.call_getElem? hc (h.lt_length hm))⟩

theorem probe_metrics (h : r.Remembers bs past) (net : Network) (id : Nat) :
    (Roster.probe net r id).2.metrics = r.metrics := by
  cases he : r.fleet[id]? with
  | none => rw [probe_of_none he]
  | some e =>
    obtain ⟨b, -, rfl⟩ := h.exists_relay he
    have hn : (Endpoint.probe net (.relay (b.after (past id)))).edits = [] := Relay.probe_edits net _
    rw [probe_of_some he, hn]
    rfl

/-- A turn of a sweep over relays brings the gauge of its member up to date, and leaves the others
as they are. -/
theorem turn_gauged (h : r.Remembers bs past) (net : Network) {b : Relay}
    (hb : r.fleet[m.2]? = some (.relay b)) (hm : m ∈ r.registry.entries)
    (result : Except ProbeFailure Unit) {m' : String × Nat} (hm' : m' ∈ r.registry.entries)
    (hg : m' = m ∨ r.Gauged m') :
    (Roster.settle (Roster.probe net r m.2).2 m result).Gauged m' := by
  have hlt : m.2 < r.fleet.size := (Array.getElem?_eq_some_iff.mp hb).1
  have hp : (Roster.probe net r m.2).2.fleet[m.2]? =
      some (.relay (b.after (outcomeOf? (b.probe net).result).toList)) := by
    rw [probe_fleet_of_relay hb, Array.getElem?_setIfInBounds_self_of_lt hlt]
  have hf := settle_fleet_of_relay hp result
  by_cases ha : m'.1 = m.1
  · -- The members are the same, since nobody else is registered under this address.
    have hl := (Registry.lookup_eq_some_iff_mem h.sound.registry.keys).mpr hm'
    rw [ha, (Registry.lookup_eq_some_iff_mem h.sound.registry.keys).mpr hm, Option.some.injEq] at hl
    have he : m' = m := Prod.ext ha hl.symm
    subst he
    unfold Gauged
    rw [settle_gauge, if_pos rfl, readAlive_fst_congr hf]
  · have hne : m'.2 ≠ m.2 := by
      intro he
      have hn := h.sound.named m' hm'
      rw [he, h.sound.named m hm, Option.some.injEq] at hn
      exact ha hn.symm
    obtain rfl | hg := hg
    · exact (ha rfl).elim
    · apply hg.of_same
      · rw [settle_gauge, if_neg ha, h.probe_metrics]
      · rw [turn_getElem? hb, if_neg hne]

/-- A sweep over relays keeps every gauge right that is, and makes those right whose probes it
completes. -/
theorem sweepOver_gauged (h : r.Remembers bs past) (net : Network) {ms : List (String × Nat)}
    {s : Sweep} (hms : ∀ m ∈ ms, m ∈ r.registry.entries) :
    (∀ m ∈ r.registry.entries, r.Gauged m → (Roster.sweepOver net ms s r).2.Gauged m) ∧
      ∀ id result, (id, .ok result) ∈ (Roster.sweepOver net ms s r).1.probes →
        (id, .ok result) ∈ s.probes ∨
          ∃ m ∈ r.registry.entries, m.2 = id ∧ (Roster.sweepOver net ms s r).2.Gauged m := by
  induction ms generalizing r s past with
  | nil => exact ⟨fun _ _ hg => hg, fun _ _ hp => .inl hp⟩
  | cons m ms ih =>
    rw [List.forall_mem_cons] at hms
    cases he : r.fleet[m.2]? with
    | none =>
      rw [sweepOver_of_none he]
      exact ih h hms.2
    | some e =>
      obtain ⟨b, -, rfl⟩ := h.exists_relay he
      have hprobed := h.probed he (net.later s.elapsed)
      cases hp : (Endpoint.probe (net.later s.elapsed) (.relay (b.after (past m.2)))).result with
      | error d =>
        rw [sweepOver_of_breakdown he hp]
        refine ⟨fun m' _ hg => hg.of_same
            (congrArg (Metrics.get? · _) (h.probe_metrics (net.later s.elapsed) m.2)) ?_,
          fun id result hr => ?_⟩
        · -- A probe that breaks down records nothing.
          rw [hp] at hprobed
          rw [hprobed.fleet, h.fleet]
          simp [outcomeOf?]
        · exact .inl (by simpa [Sweep.note, hp] using hr)
      | ok result =>
        rw [sweepOver_of_result he hp]
        have hreg : (Roster.settle (Roster.probe (net.later s.elapsed) r m.2).2 m result).registry =
            r.registry :=
          (alike_settle _ m result).registry.trans (h.alike_probe _ m.2).registry
        have hturn {m' : String × Nat} (hm' : m' ∈ r.registry.entries) (hg : m' = m ∨ r.Gauged m') :=
          h.turn_gauged (net.later s.elapsed) he hms.1 result hm' hg
        obtain ⟨hkeep, hprobes⟩ := ih (hprobed.settle m result)
          (s := { s.note m.2
              (Endpoint.probe (net.later s.elapsed) (.relay (b.after (past m.2)))) with
            failed := s.failed + failures result }) (hreg ▸ hms.2)
        rw [hreg] at hkeep hprobes
        refine ⟨fun m' hm' hg => hkeep m' hm' (hturn hm' (.inr hg)), fun id result' hr => ?_⟩
        obtain hr | hr := hprobes id result' hr
        · change _ ∈ s.probes ++ [_] at hr
          obtain hr | hr := List.mem_append.mp hr
          · exact .inl hr
          · have hid : id = m.2 := congrArg Prod.fst (List.mem_singleton.mp hr)
            exact .inr ⟨m, hms.1, hid.symm, hkeep m hms.1 (hturn hms.1 (.inl rfl))⟩
        · exact .inr hr

end Remembers

/-- Whoever's probe has completed since it was registered has the right gauge. -/
def KeepsGauges (t : List (Step × Answer)) (r : Roster) : Prop :=
  ∀ m, ProbedSince t m → m.2 < r.names.length ∧
    (r.names[m.2]? = some m.1 → m ∈ r.registry.entries ∧ r.Gauged m)

namespace KeepsGauges

variable {t : List (Step × Answer)} {bs : List Relay} {past : Nat → List Outcome}

theorem call (h : r.KeepsGauges t) (hr : r.Remembers bs past) {c : Call}
    (hc : (Step.call c).KeepsToRelays) :
    (r.call c).2.KeepsGauges (t ++ [(.call c, (r.call c).1)]) := by
  intro m hm
  obtain ⟨hm, hn⟩ | ⟨net, w, result, hx, -⟩ := hm.of_concat
  · obtain ⟨hlt, hg⟩ := h m hm
    obtain ⟨ns, hns⟩ := (writes_call r c).names_isPrefix
    rw [← hns, List.getElem?_append_left hlt, List.length_append]
    refine ⟨by omega, fun ha => ?_⟩
    obtain ⟨hm, hg⟩ := hg ha
    exact hr.call_gauged hc hm hn hg
  · cases hx

theorem sweepOver (h : r.KeepsGauges t) (hr : r.Remembers bs past) (net : Network)
    {ms : List (String × Nat)} (hms : ∀ m ∈ ms, m ∈ r.registry.published) :
    (Roster.sweepOver net ms {} r).2.KeepsGauges
      (t ++ [(.sweep net, .swept (Roster.sweepOver net ms {} r).1)]) := by
  have ha : Alike r (Roster.sweepOver net ms {} r).2 := hr.alike_sweepOver
  obtain ⟨hkeep, hprobes⟩ := hr.sweepOver_gauged net (s := {})
    fun m hm => hr.sound.registry.mem_published.mp (hms m hm)
  intro m hm
  rw [ha.names, ha.registry]
  obtain ⟨hm, -⟩ | ⟨net, w, result, hx, hp⟩ := hm.of_concat
  · obtain ⟨hlt, hg⟩ := h m hm
    refine ⟨hlt, fun hn => ?_⟩
    obtain ⟨hm, hg⟩ := hg hn
    exact ⟨hm, hkeep m hm hg⟩
  · cases hx
    obtain hp | ⟨m', hm', hid, hg⟩ := hprobes m.2 result hp
    · exact (List.not_mem_nil hp).elim
    · have hn' := hr.sound.named m' hm'
      rw [hid] at hn'
      refine ⟨(List.getElem?_eq_some_iff.mp hn').1, fun hn => ?_⟩
      have he : m' = m := Prod.ext (Option.some.inj (hn'.symm.trans hn)) hid
      subst he
      exact ⟨hm', hg⟩

end KeepsGauges

end Roster

theorem Run.keepsGauges {t : List (Step × Answer)} {r : Roster} (h : Run {} t r)
    (ht : ∀ x ∈ t, x.1.KeepsToRelays) : r.KeepsGauges t := by
  induction h with
  | start =>
    rintro m ⟨before, _, _, _, _, hn, -⟩
    simp at hn
  | @shuffle t r es h hp ih =>
    intro m hm
    obtain ⟨hlt, hg⟩ := ih ht m hm
    refine ⟨hlt, fun hn => ?_⟩
    obtain ⟨hm, hg⟩ := hg hn
    exact ⟨hp.mem_iff.mpr hm, hg.of_same rfl rfl⟩
  | step h q ih =>
    rw [List.forall_mem_append, List.forall_mem_singleton] at ht
    have hr := h.remembers .empty ht.1
    cases q with
    | call c => exact (ih ht.1).call hr ht.2
    | sweep net => exact (ih ht.1).sweepOver hr net fun _ hm => hm

theorem Reaches.keepsGauges {t : List (Step × Answer)} {r : Roster} (h : Reaches {} t r)
    (ht : ∀ x ∈ t, x.1.KeepsToRelays) : r.KeepsGauges t := by
  cases h with
  | between h => exact h.keepsGauges ht
  | within h net k =>
    rw [List.forall_mem_append] at ht
    exact (h.keepsGauges ht.1).sweepOver (h.remembers .empty ht.1) net fun _ hm =>
      List.mem_of_mem_take hm

/-- Along a run, a counter never goes back. -/
theorem Roster.Writes.value_le {r r' : Roster} {ks : List Stroke} (h : Roster.Writes r ks r')
    (hr : r.metrics.Keyed) {s : Series} (hs : s.isCounter = true) :
    r.metrics.value s ≤ r'.metrics.value s := by
  rw [h.value hr hs]
  exact Nat.le_add_right _ _

/-- At every point of a run from the empty roster the counters have counted the selections that found
an address or nobody, and the failed probes of an address, and they add up to the selections made and
the failures that sweeps report. They never go back, whatever happens next. The number of endpoints
is measured from the first change on. In a run over relays, the gauge of whoever has been probed
since its registration says whether it is alive. -/
theorem metrics_tally {t : List (Step × Answer)} {r : Roster} (h : Reaches {} t r) :
    (∀ a, r.metrics.value (.selections a) = t.countP fun x => x.2.selects a) ∧
      r.metrics.value .unavailable = (t.countP fun x => x.2.selectsNobody) ∧
      r.metrics.total Series.isSelection + r.metrics.value .unavailable =
        (t.countP fun x => x.1.isSelection) ∧
      (∀ a, r.metrics.value (.probeFailures a) =
        (t.flatMap fun x => x.2.failedProbes).countP fun id => r.names[id]? = some a) ∧
      r.metrics.total Series.isProbeFailure = (t.map fun x => x.2.failed).sum ∧
      (∀ s, s.isCounter = true →
        (∀ t' r', Reaches r t' r' → r.metrics.value s ≤ r'.metrics.value s) ∧
        ∀ net ms w, r.metrics.value s ≤ (Roster.sweepOver net ms w r).2.metrics.value s) ∧
      (r.metrics.get? .endpoints =
        if t.any fun x => x.2.hasChanged then some r.registry.size else none) ∧
      ((∀ x ∈ t, x.1.KeepsToRelays) → ∀ m ∈ r.registry.entries, ProbedSince t m →
        r.metrics.get? (.healthy m.1) = some (if (Roster.readAlive m.2 r).1 then 1 else 0)) := by
  obtain ⟨ks, hk⟩ := h.tallied
  have hm := hk.writes.keyed List.nodup_nil
  refine ⟨hk.selections, hk.unavailable, hk.allSelections, hk.probeFailures, hk.allProbeFailures,
    fun s hs => ⟨fun t' r' h' => ?_, fun net ms w => ?_⟩, hk.size, fun ht m hr hp => ?_⟩
  · obtain ⟨ks', hw⟩ := h'.exists_writes
    exact hw.value_le hm hs
  · obtain ⟨ks', -, hw, -⟩ := Roster.writes_sweepOver net ms w r
    exact hw.value_le hm hs
  · have hn := (hk.writes.sound Roster.sound_empty).named m hr
    exact ((h.keepsGauges ht m hp).2 hn).2

/-- A relay whose only probe is refused has one failure and is measured as not alive, and the one
selection finds nobody. -/
theorem metrics_tally_of_refused :
    ∃ t r, Reaches {} t r ∧ (∀ x ∈ t, x.1.KeepsToRelays) ∧ ProbedSince t ("127.0.0.1:1", 0) ∧
      r.registry.entries = [("127.0.0.1:1", 0)] ∧
      r.metrics.value (.probeFailures "127.0.0.1:1") = 1 ∧ r.metrics.value .unavailable = 1 ∧
      r.metrics.get? .endpoints = some 1 ∧ r.metrics.get? (.healthy "127.0.0.1:1") = some 0 := by
  let b : Relay := ⟨"127.0.0.1:1", .ofSeconds 1, .create 1 1⟩
  have h₀ : Run {} [] {} := .start
  have h := Reaches.between ((((h₀.step (.call (.make (.relay b)))).step (.call (.register 0))).step
    (.sweep {})).step (.call .select))
  generalize ht : [] ++ [_] ++ [_] ++ [_] ++ [_] = t at h
  generalize hr : Prod.snd (Roster.step _ (Step.call .select)) = r at h
  have hk : ∀ x ∈ t, x.1.KeepsToRelays := by
    subst ht
    simp [Step.KeepsToRelays, Relay.Fresh, b]
  have he : r.registry.entries = [("127.0.0.1:1", 0)] := by
    subst hr
    cbv
  have hp : ProbedSince t ("127.0.0.1:1", 0) := by
    subst ht
    refine ⟨[_, _], _, _, [_],
      .error ⟨"127.0.0.1:1", .unreachable (.system .connectionRefused)⟩, rfl, ?_,
      List.forall_mem_singleton.mpr rfl⟩
    apply List.mem_of_getElem? (i := 0)
    cbv
  obtain ⟨-, hnobody, -, hfailures, -, -, hsize, hgauge⟩ := metrics_tally h
  refine ⟨t, r, h, hk, hp, he, ?_, ?_, ?_, ?_⟩
  · rw [hfailures]
    subst ht hr
    cbv
  · rw [hnobody]
    subst ht
    cbv
  · rw [hsize]
    subst ht hr
    cbv
  · rw [hgauge hk _ (he ▸ List.mem_singleton_self _) hp]
    subst hr
    cbv

end RelayRoster
