import RelayRoster.Proofs.Dialling
import RelayRoster.Proofs.RelayRun
import RelayRoster.Settings.Load

namespace RelayRoster

namespace Dial

/-- A limit counts from the beginning, whenever that is. -/
theorem connectEach_later (net : Network) (d limit : Duration) (last : Option SystemError)
    (now : Nat) (targets : List SocketAddress) :
    connectEach (net.later d) limit last now targets = connectEach net limit last now targets := by
  induction targets generalizing last now with
  | nil => rfl
  | cons p targets ih =>
    rw [connectEach, connectEach]
    simp only [ih]
    rfl

theorem run_later (net : Network) (d : Duration) (address : String) (limit : Duration) :
    run (net.later d) address limit = run net address limit := by
  unfold run
  simp only [connectEach_later]
  rfl

end Dial

theorem Network.clockOverflows_eq_false_of_later {net : Network} {d limit : Duration}
    (h : (net.later d).clockOverflows limit = false) : net.clockOverflows limit = false := by
  rw [clockOverflows_eq_false_iff] at h ⊢
  change net.clock.nanos + d.nanos + limit.nanos < _ at h
  omega

namespace Relay

variable {net : Network} {b : Relay}

theorem probe_result_of_overflow (h : net.clockOverflows b.timeout = true) :
    (b.probe net).result = .error .clockOverflow := by
  unfold probe
  rw [if_pos h]

/-- A probe within the clock's range fails or succeeds, and is recorded as just that. -/
theorem probe_result_of_fits (h : net.clockOverflows b.timeout = false) :
    ∃ result o, (b.probe net).result = .ok result ∧ outcomeOf? (b.probe net).result = some o := by
  rw [probe_result h]
  cases (Dial.run net b.address b.timeout).result with
  | ok _ => exact ⟨_, .success, rfl, rfl⟩
  | error cause => exact ⟨_, .failure, rfl, rfl⟩

theorem probe_later {d : Duration} (h : (net.later d).clockOverflows b.timeout = false) :
    b.probe (net.later d) = b.probe net := by
  have hnow := Network.clockOverflows_eq_false_of_later h
  unfold probe
  rw [if_neg (by simp [h]), if_neg (by simp [hnow]), Dial.run_later]

end Relay

namespace Roster

section

variable {net : Network} {r : Roster} {m : String × Nat} {b : Relay}

/-- The probe of a relay changes that relay only. -/
theorem probe_fleet_of_relay (h : r.fleet[m.2]? = some (.relay b)) :
    (probe net r m.2).2.fleet = r.fleet.setIfInBounds m.2
      (.relay (b.after (outcomeOf? (b.probe net).result).toList)) := by
  rw [probe_of_some h]
  change (List.foldl edit _ (b.probe net).edits).fleet = _
  rw [Relay.probe_edits]
  change r.fleet.setIfInBounds m.2 (b.probe net).endpoint = _
  rw [Relay.probe_endpoint]

theorem readAlive_fleet_of_relay {id : Nat} (h : r.fleet[id]? = some (.relay b)) :
    (readAlive id r).2.fleet = r.fleet := by
  rw [readAlive_of_relay h]

theorem settle_fleet_of_relay (h : r.fleet[m.2]? = some (.relay b))
    (result : Except ProbeFailure Unit) : (settle r m result).fleet = r.fleet := by
  cases result with
  | ok _ => exact readAlive_fleet_of_relay (r := r.report (.probeSucceeded m.1)) h
  | error f =>
    exact readAlive_fleet_of_relay (r := { r.report (.probeFailed m.1 f) with
      metrics := r.metrics.increment (.probeFailures m.1) }) h

/-- One turn of a sweep over relays: the relay whose turn it is records its outcome. -/
theorem turn_getElem? (h : r.fleet[m.2]? = some (.relay b)) (result : Except ProbeFailure Unit)
    (id : Nat) :
    (settle (probe net r m.2).2 m result).fleet[id]? =
      if id = m.2 then some (.relay (b.after (outcomeOf? (b.probe net).result).toList))
      else r.fleet[id]? := by
  have hlt : m.2 < r.fleet.size := (Array.getElem?_eq_some_iff.mp h).1
  have hp : (probe net r m.2).2.fleet[m.2]? =
      some (.relay (b.after (outcomeOf? (b.probe net).result).toList)) := by
    rw [probe_fleet_of_relay h, Array.getElem?_setIfInBounds_self_of_lt hlt]
  rw [settle_fleet_of_relay hp, probe_fleet_of_relay h, Array.getElem?_setIfInBounds]
  by_cases hi : id = m.2
  · subst hi
    rw [if_pos rfl, if_pos rfl, if_pos hlt]
  · rw [if_neg (Ne.symm hi), if_neg hi]

end

/-- How long it takes to dial a member. What acts by script takes no time. -/
def dialTime (net : Network) (r : Roster) (m : String × Nat) : Nat :=
  match r.fleet[m.2]? with
  | some (.relay b) => (Dial.run net b.address b.timeout).elapsed.nanos
  | _ => 0

/-- Whether the limits of members that are dialled one after the other, the first of them after some
time, all end while the clock can count. -/
def InTime (net : Network) (r : Roster) (spent : Nat) (ms : List (String × Nat)) : Prop :=
  ∀ before m after b, ms = before ++ m :: after → r.fleet[m.2]? = some (.relay b) →
    net.clock.nanos + (spent + (before.map (r.dialTime net)).sum) + b.timeout.nanos <
      9223372036854775808000000000

section

variable {net : Network} {r r' : Roster} {m : String × Nat} {ms : List (String × Nat)} {b : Relay}
  {spent : Nat}

theorem dialTime_of_relay (h : r.fleet[m.2]? = some (.relay b)) :
    r.dialTime net m = (Dial.run net b.address b.timeout).elapsed.nanos := by
  unfold dialTime
  rw [h]

theorem dialTime_congr (h : r'.fleet[m.2]? = r.fleet[m.2]?) :
    r'.dialTime net m = r.dialTime net m := by
  unfold dialTime
  rw [h]

theorem inTime_nil : InTime net r spent [] := by
  intro before m after b he
  exact absurd he (by simp)

theorem inTime_cons (h : r.fleet[m.2]? = some (.relay b)) :
    InTime net r spent (m :: ms) ↔
      (net.later ⟨spent⟩).clockOverflows b.timeout = false ∧
        InTime net r (spent + r.dialTime net m) ms := by
  rw [Network.clockOverflows_eq_false_iff]
  constructor
  · intro ht
    refine ⟨ht [] m ms b rfl h, fun before m' after b' he hb' => ?_⟩
    have hcons := ht (m :: before) m' after b' (congrArg (m :: ·) he) hb'
    rw [List.map_cons, List.sum_cons] at hcons
    omega
  · rintro ⟨hm, hms⟩ before m' after b' he hb'
    rw [List.cons_eq_append_iff] at he
    rcases he with ⟨rfl, he⟩ | ⟨before, rfl, he⟩
    · cases he
      rw [h] at hb'
      cases hb'
      exact hm
    · have htail := hms before m' after b' he hb'
      rw [List.map_cons, List.sum_cons]
      omega

theorem InTime.congr (ht : InTime net r spent ms) (h : ∀ m ∈ ms, r'.fleet[m.2]? = r.fleet[m.2]?) :
    InTime net r' spent ms := by
  rintro before m after b rfl hb
  have hbefore : before.map (r'.dialTime net) = before.map (r.dialTime net) :=
    List.map_congr_left fun m' hm' => dialTime_congr (h m' (List.mem_append_left _ hm'))
  rw [hbefore]
  exact ht before m after b rfl ((h m (by simp)).symm.trans hb)

theorem inTime_congr (h : ∀ m ∈ ms, r'.fleet[m.2]? = r.fleet[m.2]?) :
    InTime net r' spent ms ↔ InTime net r spent ms :=
  ⟨fun ht => ht.congr fun m hm => (h m hm).symm, fun ht => ht.congr h⟩

end

/-- A turn that is not broken off: what it notes, and the one relay that it changes. -/
structure Turn (net : Network) (m : String × Nat) (b : Relay) (s s' : Sweep) (r r' : Roster) :
    Prop where
  breakdown? : s'.breakdown? = s.breakdown?
  probed : s'.probed = s.probed + 1
  order : s'.probes.map (·.1) = s.probes.map (·.1) ++ [m.2]
  elapsed : s'.elapsed.nanos = s.elapsed.nanos + r.dialTime net m
  recorded : ∃ o, outcomeOf? (b.probe net).result = some o ∧
    r'.fleet[m.2]? = some (.relay (b.after [o]))
  others : ∀ id, id ≠ m.2 → r'.fleet[id]? = r.fleet[id]?

/-- A turn leaves the members still to come as they are: they are other relays. -/
theorem Turn.rest {net : Network} {m : String × Nat} {b : Relay} {s s' : Sweep} {r r' : Roster}
    (h : Turn net m b s s' r r') {ms : List (String × Nat)} (hm : m.2 ∉ ms.map (·.2)) :
    ∀ m' ∈ ms, r'.fleet[m'.2]? = r.fleet[m'.2]? := by
  intro m' hm'
  apply h.others
  intro he
  exact hm (he ▸ List.mem_map_of_mem hm')

/-- A turn that is broken off leaves all relays as they are. -/
theorem sweepOver_of_overflow {net : Network} {r : Roster} {m : String × Nat} {b : Relay}
    {s : Sweep} (hb : r.fleet[m.2]? = some (.relay b))
    (ho : (net.later s.elapsed).clockOverflows b.timeout = true) (ms : List (String × Nat)) :
    (sweepOver net (m :: ms) s r).1.breakdown? = some .clockOverflow ∧
      (sweepOver net (m :: ms) s r).1.probed = s.probed + 1 ∧
      (sweepOver net (m :: ms) s r).2.fleet = r.fleet := by
  have hprobe := Relay.probe_result_of_overflow ho
  rw [sweepOver_of_breakdown hb hprobe]
  refine ⟨rfl, rfl, ?_⟩
  change (probe (net.later s.elapsed) r m.2).2.fleet = r.fleet
  rw [probe_fleet_of_relay hb, hprobe]
  apply Array.ext_getElem?
  intro i
  rw [Array.getElem?_setIfInBounds]
  split
  next h =>
    subst h
    rw [hb, if_pos (Array.getElem?_eq_some_iff.mp hb).1]
    rfl
  next => rfl

theorem sweepOver_of_fits {net : Network} {r : Roster} {m : String × Nat} {b : Relay} {s : Sweep}
    (hb : r.fleet[m.2]? = some (.relay b))
    (hf : (net.later s.elapsed).clockOverflows b.timeout = false) (ms : List (String × Nat)) :
    ∃ s' r', Turn net m b s s' r r' ∧ sweepOver net (m :: ms) s r = sweepOver net ms s' r' := by
  have hnow := Network.clockOverflows_eq_false_of_later hf
  obtain ⟨result, o, hres, hout⟩ := Relay.probe_result_of_fits hnow
  have hprobe := Relay.probe_later hf
  refine ⟨{ s.note m.2 (b.probe net) with failed := s.failed + failures result },
    settle (probe (net.later s.elapsed) r m.2).2 m result,
    ⟨rfl, rfl, ?_, ?_, ⟨o, hout, ?_⟩, fun id hi => ?_⟩, ?_⟩
  · exact List.map_append
  · rw [dialTime_of_relay hb, ← Relay.probe_elapsed hnow]
    rfl
  · rw [turn_getElem? hb, if_pos rfl, hprobe, hout]
    rfl
  · rw [turn_getElem? hb, if_neg hi]
  · rw [← hprobe] at hres ⊢
    exact sweepOver_of_result hb hres

section

variable {net : Network} {ms : List (String × Nat)} {s : Sweep} {r : Roster}

/-- A sweep over relays comes to its end exactly if all limits end while the clock can count. -/
theorem sweepOver_breakdown?_eq_none_iff (hs : s.breakdown? = none) (hn : (ms.map (·.2)).Nodup)
    (hr : ∀ m ∈ ms, ∃ b, r.fleet[m.2]? = some (.relay b)) :
    (sweepOver net ms s r).1.breakdown? = none ↔ InTime net r s.elapsed.nanos ms := by
  induction ms generalizing s r with
  | nil => simp [sweepOver, hs, inTime_nil]
  | cons m ms ih =>
    rw [List.map_cons, List.nodup_cons] at hn
    rw [List.forall_mem_cons] at hr
    obtain ⟨⟨b, hb⟩, hr⟩ := hr
    rw [inTime_cons hb]
    cases ho : (net.later s.elapsed).clockOverflows b.timeout with
    | true => simp [(sweepOver_of_overflow hb ho ms).1]
    | false =>
      obtain ⟨s', r', ht, he⟩ := sweepOver_of_fits hb ho ms
      have hrest := ht.rest hn.1
      rw [he, ih (ht.breakdown?.trans hs) hn.2 fun m' hm' => hrest m' hm' ▸ hr m' hm',
        inTime_congr hrest, ht.elapsed]
      exact (and_iff_right rfl).symm

structure Completed (net : Network) (ms : List (String × Nat)) (s s' : Sweep) (r r' : Roster) :
    Prop where
  probed : s'.probed = s.probed + ms.length
  order : s'.probes.map (·.1) = s.probes.map (·.1) ++ ms.map (·.2)
  recorded : ∀ m ∈ ms, ∀ b, r.fleet[m.2]? = some (.relay b) →
    ∃ o, outcomeOf? (b.probe net).result = some o ∧ r'.fleet[m.2]? = some (.relay (b.after [o]))
  others : ∀ id, id ∉ ms.map (·.2) → r'.fleet[id]? = r.fleet[id]?

theorem sweepOver_completed (hn : (ms.map (·.2)).Nodup)
    (hr : ∀ m ∈ ms, ∃ b, r.fleet[m.2]? = some (.relay b)) (ht : InTime net r s.elapsed.nanos ms) :
    Completed net ms s (sweepOver net ms s r).1 r (sweepOver net ms s r).2 := by
  induction ms generalizing s r with
  | nil =>
    refine ⟨rfl, (List.append_nil _).symm, fun m hm => ?_, fun _ _ => rfl⟩
    cases hm
  | cons m ms ih =>
    rw [List.map_cons, List.nodup_cons] at hn
    rw [List.forall_mem_cons] at hr
    obtain ⟨⟨b, hb⟩, hr⟩ := hr
    rw [inTime_cons hb] at ht
    obtain ⟨s', r', hturn, he⟩ := sweepOver_of_fits hb ht.1 ms
    have hrest := hturn.rest hn.1
    have hms : InTime net r' s'.elapsed.nanos ms := by
      rw [inTime_congr hrest, hturn.elapsed]
      exact ht.2
    have hc := ih (s := s') hn.2 (fun m' hm' => hrest m' hm' ▸ hr m' hm') hms
    rw [he]
    refine ⟨?_, ?_, ?_, fun id hi => ?_⟩
    · rw [hc.probed, hturn.probed, List.length_cons]
      omega
    · rw [hc.order, hturn.order, List.append_assoc, List.map_cons]
      rfl
    · rw [List.forall_mem_cons]
      constructor
      · -- The rest of the sweep does not come back to this relay.
        intro b' hb'
        obtain ⟨o, hout, hf⟩ := hturn.recorded
        rw [hb] at hb'
        cases hb'
        exact ⟨o, hout, (hc.others m.2 hn.1).trans hf⟩
      · exact fun m' hm' b' hb' => hc.recorded m' hm' b' ((hrest m' hm').trans hb')
    · rw [List.map_cons, List.mem_cons, not_or] at hi
      exact (hc.others id hi.2).trans (hturn.others id hi.1)

end

/-- No endpoint is registered under two addresses. -/
theorem Sound.published_ids_nodup {r : Roster} (h : r.Sound) :
    (r.registry.published.map (·.2)).Nodup := by
  rw [List.nodup_iff_pairwise_ne, List.pairwise_map]
  refine h.registry.published_sorted.imp_of_mem fun {m n} hm hn hlt heq => ?_
  have hnm := h.named m (h.registry.mem_published.mp hm)
  rw [heq, h.named n (h.registry.mem_published.mp hn)] at hnm
  exact hlt.ne (Option.some.inj hnm).symm

end Roster

/-- A roster to begin with, and its relays, made from settings with a property if there are any. -/
inductive Founded (P : Settings → Prop) : List Relay → Roster → Prop
  | empty : Founded P [] {}
  | built {s : Settings} {r : Roster} (hp : P s) (h : Roster.build s {} = (.ok (), r)) :
      Founded P (s.endpoints.map (.ofSettings s.health)) r

/-- Whether a step makes no endpoints but from settings with a property, and changes none. -/
def Step.DrawsOn (P : Settings → Prop) : Step → Prop
  | .call (.make _) => False
  | .call (.change _ _) => False
  | .call (.align s) => P s
  | _ => True

theorem Founded.begins {P : Settings → Prop} {first : List Relay} {start : Roster}
    (h : Founded P first start) : Begins first start := by
  cases h with
  | empty => exact .empty
  | built _ h => exact .built h

theorem Step.DrawsOn.keepsToRelays {P : Settings → Prop} {q : Step} (h : q.DrawsOn P) :
    q.KeepsToRelays := by
  cases q with
  | sweep _ => trivial
  | call c =>
    cases c with
    | make _ => exact h.elim
    | change _ _ => exact h.elim
    | _ => trivial

/-- Every relay of a run has its limit from settings with the property. -/
theorem exists_settings_of_mem_relaysMade {P : Settings → Prop} {first : List Relay}
    {start : Roster} (hf : Founded P first start) {t : List (Step × Answer)}
    (ht : ∀ x ∈ t, x.1.DrawsOn P) {b : Relay} (hb : b ∈ relaysMade first t) :
    ∃ s a, P s ∧ b = .ofSettings s.health a := by
  rcases List.mem_append.mp hb with hb | hb
  · cases hf with
    | empty => cases hb
    | built hp _ =>
      obtain ⟨a, -, rfl⟩ := List.mem_map.mp hb
      exact ⟨_, a, hp, rfl⟩
  · obtain ⟨⟨q, answer⟩, hx, hb⟩ := List.mem_flatMap.mp hb
    have hq : q.DrawsOn P := ht _ hx
    change b ∈ q.makes answer at hb
    unfold Step.makes at hb
    split at hb
    next => exact False.elim hq
    next s c =>
      obtain ⟨a, -, rfl⟩ := List.mem_map.mp hb
      exact ⟨s, a, hq, rfl⟩
    next => cases hb

/-- Whoever is registered is a relay that has its limit from settings with the property. -/
theorem Roster.Remembers.exists_settings {P : Settings → Prop} {first : List Relay}
    {start : Roster} (hf : Founded P first start) {t : List (Step × Answer)}
    (ht : ∀ x ∈ t, x.1.DrawsOn P) {r : Roster} {past : Nat → List Outcome}
    (h : r.Remembers (relaysMade first t) past) {m : String × Nat} (hm : m ∈ r.registry.entries) :
    ∃ s : Settings, ∃ b, P s ∧ r.fleet[m.2]? = some (.relay b) ∧
      b.timeout = .ofSeconds s.health.timeout.toNat := by
  have hn := h.sound.named m hm
  rw [Roster.getElem?_names, Option.map_eq_some_iff] at hn
  obtain ⟨e, he, -⟩ := hn
  obtain ⟨b, hb, rfl⟩ := h.exists_relay he
  obtain ⟨s, a, hs, rfl⟩ := exists_settings_of_mem_relaysMade hf ht (List.mem_of_getElem? hb)
  exact ⟨s, _, hs, he, rfl⟩

/-- Wherever a roster has its relays from accepted settings, a sweep comes to its end exactly if the
clock can count up to the end of every limit: what it reads now, the time that dialling the relays
before takes, and the limit come to less than two to the 63 seconds. Then everyone registered is
probed once, in order, and each relay records the outcome of its own probe. The check of the settings
does not see to that, since it bounds no limit from above. -/
theorem sweep_completes_iff {first : List Relay} {start : Roster}
    (hf : Founded (fun s => s.accepted = true) first start) {t : List (Step × Answer)} {r : Roster}
    (h : Reaches start t r) (ht : ∀ x ∈ t, x.1.DrawsOn fun s => s.accepted = true)
    (net : Network) :
    (∀ m ∈ r.registry.entries, ∃ s : Settings, ∃ b, s.accepted = true ∧
        r.fleet[m.2]? = some (.relay b) ∧ b.timeout = .ofSeconds s.health.timeout.toNat) ∧
      ((r.sweep net).1.breakdown? = none ↔
        ∀ before m after b, r.registry.published = before ++ m :: after →
          r.fleet[m.2]? = some (.relay b) →
          net.clock.nanos + (before.map (r.dialTime net)).sum + b.timeout.nanos <
            9223372036854775808000000000) ∧
      ((r.sweep net).1.breakdown? = none →
        (r.sweep net).1.probed = r.registry.size ∧
        (r.sweep net).1.probes.map (·.1) = r.registry.published.map (·.2) ∧
        ∀ m ∈ r.registry.entries, ∃ b o, r.fleet[m.2]? = some (.relay b) ∧
          outcomeOf? (b.probe net).result = some o ∧
          (r.sweep net).2.fleet[m.2]? = some (.relay (b.after [o]))) := by
  have hr := h.remembers hf.begins fun x hx => (ht x hx).keepsToRelays
  have hp (m : String × Nat) : m ∈ r.registry.published ↔ m ∈ r.registry.entries :=
    hr.sound.registry.mem_published
  have hrelay : ∀ m ∈ r.registry.published, ∃ b, r.fleet[m.2]? = some (.relay b) := by
    intro m hm
    obtain ⟨-, b, -, hb, -⟩ := hr.exists_settings hf ht ((hp m).mp hm)
    exact ⟨b, hb⟩
  have hn := hr.sound.published_ids_nodup
  have hiff : (r.sweep net).1.breakdown? = none ↔ r.InTime net 0 r.registry.published :=
    Roster.sweepOver_breakdown?_eq_none_iff rfl hn hrelay
  refine ⟨fun m hm => hr.exists_settings hf ht hm, ?_, fun hc => ?_⟩
  · rw [hiff]
    unfold Roster.InTime
    simp only [Nat.zero_add]
  · have hd : Roster.Completed net r.registry.published {} _ r _ :=
      Roster.sweepOver_completed hn hrelay (hiff.mp hc)
    refine ⟨hd.probed.trans (Nat.zero_add _), hd.order.trans (List.nil_append _), fun m hm => ?_⟩
    obtain ⟨b, hb⟩ := hrelay m ((hp m).mpr hm)
    obtain ⟨o, ho, hf⟩ := hd.recorded m ((hp m).mpr hm) b hb
    exact ⟨b, o, hb, ho, hf⟩

/-- The clock has counted a day, the lookup of the first relay takes two seconds, and the limit of the
second one ends in the last second of the clock. -/
theorem sweep_completes_iff_of_longest :
    ∃ (s : Settings) (r : Roster) (net : Network), s.accepted = true ∧
      s.health.timeout = 9223372036854689405 ∧ net.clock = .ofSeconds 86400 ∧
      Roster.build s {} = (.ok (), r) ∧ r.registry.published = [("a:1", 0), ("b:1", 1)] ∧
      r.dialTime net ("a:1", 0) = 2000000000 ∧
      (r.sweep net).1.breakdown? = none ∧ (r.sweep net).1.probed = 2 := by
  let s : Settings :=
    { endpoints := ["a:1", "b:1"], health := { timeout := 9223372036854689405 } }
  let net : Network :=
    { names := [("a", ⟨.error .tryAgain, .ofSeconds 2⟩)], clock := .ofSeconds 86400 }
  have ha : s.accepted = true := by cbv
  have hb : Roster.build s {} = (.ok (), (Roster.build s {}).2) := by
    have hf : (Roster.build s {}).1 = .ok () := by cbv
    exact Prod.ext hf rfl
  have he : (Roster.build s {}).2.registry.published = [("a:1", 0), ("b:1", 1)] := by cbv
  have hz : (Roster.build s {}).2.registry.size = 2 := by cbv
  have hfirst : (Roster.build s {}).2.fleet[0]? = some (.relay (.ofSettings s.health "a:1")) := by
    cbv
  have hsecond : (Roster.build s {}).2.fleet[1]? = some (.relay (.ofSettings s.health "b:1")) := by
    cbv
  generalize (Roster.build s {}).2 = r at hb he hz hfirst hsecond
  have htime : r.dialTime net ("a:1", 0) = 2000000000 := by
    rw [Roster.dialTime_of_relay hfirst]
    cbv
  obtain ⟨-, hiff, hdone⟩ := sweep_completes_iff (.built ha hb) (.between .start) (by simp) net
  have hc : (r.sweep net).1.breakdown? = none := by
    refine hiff.mpr ?_
    rw [he]
    have ht : r.InTime net 0 [("a:1", 0), ("b:1", 1)] := by
      rw [Roster.inTime_cons hfirst, Roster.inTime_cons hsecond, htime]
      exact ⟨by decide, by decide, Roster.inTime_nil⟩
    unfold Roster.InTime at ht
    simpa only [Nat.zero_add] using ht
  exact ⟨s, r, net, ha, rfl, rfl, hb, he, htime, hc, (hdone hc).1.trans hz⟩

/-- On every clock that has counted a second, the longest limit that a settings file can state makes
the first probe break off the sweep before it records anything. -/
theorem breakdown_of_accepted :
    ∃ (s : Settings) (r : Roster), s.accepted = true ∧
      s.health.timeout = 9223372036854775807 ∧ Roster.build s {} = (.ok (), r) ∧
      ∀ net : Network, 1000000000 ≤ net.clock.nanos →
        (r.sweep net).1.breakdown? = some .clockOverflow ∧ (r.sweep net).1.probed = 1 ∧
          (r.sweep net).2.fleet = r.fleet := by
  let s : Settings := { endpoints := ["a:1"], health := { timeout := 9223372036854775807 } }
  have ha : s.accepted = true := by cbv
  have hb : Roster.build s {} = (.ok (), (Roster.build s {}).2) := by
    have hf : (Roster.build s {}).1 = .ok () := by cbv
    exact Prod.ext hf rfl
  have he : (Roster.build s {}).2.registry.published = [("a:1", 0)] := by cbv
  have hfleet : (Roster.build s {}).2.fleet = #[.relay (.ofSettings s.health "a:1")] := by cbv
  generalize (Roster.build s {}).2 = r at hb he hfleet
  refine ⟨s, r, ha, rfl, hb, fun net hclock => ?_⟩
  have hrelay : r.fleet[0]? = some (.relay (.ofSettings s.health "a:1")) := by
    rw [hfleet]
    rfl
  have htimeout :
      (Relay.ofSettings s.health "a:1").timeout.nanos = 9223372036854775807000000000 := by
    cbv
  have ho : (net.later ⟨0⟩).clockOverflows (Relay.ofSettings s.health "a:1").timeout = true := by
    rw [← Bool.not_eq_false, Network.clockOverflows_eq_false_iff, htimeout]
    have hnow : (net.later ⟨0⟩).clock.nanos = net.clock.nanos := rfl
    omega
  unfold Roster.sweep
  rw [he]
  exact Roster.sweepOver_of_overflow hrelay ho []

end RelayRoster
