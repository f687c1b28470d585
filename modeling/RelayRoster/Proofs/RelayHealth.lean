import RelayRoster.Proofs.Alignment
import RelayRoster.Proofs.Hysteresis
import RelayRoster.Proofs.Run

namespace RelayRoster

/-- What a probe says of its endpoint. One that broke down says nothing. -/
def outcomeOf? : ProbeResult → Option Outcome
  | .ok (.ok ()) => some .success
  | .ok (.error _) => some .failure
  | .error _ => none

def Sweep.outcomes (w : Sweep) (id : Nat) : List Outcome :=
  (w.probes.filter (·.1 = id)).filterMap fun p => outcomeOf? p.2

def Answer.outcomes : Answer → Nat → List Outcome
  | .swept w, id => w.outcomes id
  | _, _ => []

/-- What the sweeps of a run found out about an endpoint, in order. -/
def history (t : List (Step × Answer)) (id : Nat) : List Outcome :=
  t.flatMap fun x => x.2.outcomes id

theorem Sweep.outcomes_note (w : Sweep) (id : Nat) (p : Probed) (i : Nat) :
    (w.note id p).outcomes i =
      w.outcomes i ++ if id = i then (outcomeOf? p.result).toList else [] := by
  unfold outcomes note
  dsimp only
  rw [List.filter_append, List.filterMap_append]
  by_cases hi : id = i
  · cases ho : outcomeOf? p.result <;> simp [hi, ho]
  · simp [hi]

theorem history_concat (t : List (Step × Answer)) (x : Step × Answer) (id : Nat) :
    history (t ++ [x]) id = history t id ++ x.2.outcomes id := by
  simp [history]

namespace Relay

def Fresh (b : Relay) : Prop :=
  ∃ healthy unhealthy, b.tracker = .create healthy unhealthy

def after (b : Relay) (os : List Outcome) : Relay := { b with tracker := b.tracker.after os }

theorem after_append (b : Relay) (os os' : List Outcome) :
    b.after (os ++ os') = (b.after os).after os' :=
  congrArg (Relay.mk b.address b.timeout) (Tracker.after_append _ os os')

theorem fresh_ofSettings (s : HealthSettings) (a : String) : (Relay.ofSettings s a).Fresh :=
  ⟨_, _, rfl⟩

/-- A probe records its own outcome and changes nothing else about a relay. -/
theorem probe_endpoint (net : Network) (b : Relay) :
    (b.probe net).endpoint = .relay (b.after (outcomeOf? (b.probe net).result).toList) := by
  unfold probe
  split
  · rfl
  · dsimp only
    cases (Dial.run net b.address b.timeout).result with
    | ok _ => rfl
    | error cause => rfl

theorem probe_edits (net : Network) (b : Relay) : (b.probe net).edits = [] := by
  unfold probe
  split <;> rfl

end Relay

def Step.makes : Step → Answer → List Relay
  | .call (.make (.relay b)), _ => [b]
  | .call (.align s), .aligned c => c.added.map (.ofSettings s.health)
  | _, _ => []

def relaysMade (first : List Relay) (t : List (Step × Answer)) : List Relay :=
  first ++ t.flatMap fun x => x.1.makes x.2

/-- Whether a step makes none but fresh relays and leaves the endpoints to themselves. -/
def Step.KeepsToRelays : Step → Prop
  | .call (.make e) => ∃ b : Relay, b.Fresh ∧ e = .relay b
  | .call (.change _ _) => False
  | _ => True

namespace Roster

def health? (r : Roster) (id : Nat) : Option Health :=
  match r.fleet[id]? with
  | some (.relay b) => some b.tracker.state
  | _ => none

/-- A roster of these relays, each as it was made but for the outcomes recorded since. -/
structure Remembers (r : Roster) (bs : List Relay) (past : Nat → List Outcome) : Prop where
  sound : r.Sound
  fleet : ∀ id, r.fleet[id]? = bs[id]?.map fun b : Relay => Endpoint.relay (b.after (past id))
  fresh : ∀ b ∈ bs, b.Fresh
  unborn : ∀ id, bs.length ≤ id → past id = []

theorem readAlive_of_relay {r : Roster} {id : Nat} {b : Relay}
    (h : r.fleet[id]? = some (.relay b)) :
    readAlive id r = (decide (r.health? id ≠ some .unhealthy), r) := by
  have hs : r.fleet.setIfInBounds id (.relay b) = r.fleet := by
    apply Array.ext_getElem?
    intro i
    rw [Array.getElem?_setIfInBounds]
    split
    next hi =>
      subst hi
      rw [if_pos (Array.getElem?_eq_some_iff.mp h).1, h]
    next => rfl
  unfold readAlive health?
  rw [h]
  change (b.tracker.isAlive, { r with fleet := r.fleet.setIfInBounds id (.relay b) }) = _
  rw [hs]
  simp [Tracker.isAlive]

namespace Remembers

variable {r r' : Roster} {bs : List Relay} {past : Nat → List Outcome}

theorem of_fleet (h : r.Remembers bs past) (hs : r'.Sound) (hf : r'.fleet = r.fleet) :
    r'.Remembers bs past where
  sound := hs
  fleet := hf ▸ h.fleet
  fresh := h.fresh
  unborn := h.unborn

theorem length_eq (h : r.Remembers bs past) : r.fleet.size = bs.length := by
  apply Nat.le_antisymm
  · by_contra hn
    have hb := h.fleet bs.length
    rw [List.getElem?_eq_none (Nat.le_refl _), Array.getElem?_eq_getElem (by omega)] at hb
    cases hb
  · by_contra hn
    have hb := h.fleet r.fleet.size
    rw [Array.getElem?_eq_none (Nat.le_refl _), List.getElem?_eq_getElem (by omega)] at hb
    cases hb

/-- Relays that are made later have no past. -/
theorem append (h : r.Remembers bs past) (hs : r'.Sound) {cs : List Relay}
    (hf : r'.fleet.toList = r.fleet.toList ++ cs.map .relay) (hc : ∀ c ∈ cs, c.Fresh) :
    r'.Remembers (bs ++ cs) past where
  sound := hs
  fleet := by
    intro id
    have hl : r.fleet.toList.length = bs.length := h.length_eq
    -- A number that is new now was nobody's before.
    rw [← Array.getElem?_toList, hf]
    by_cases hi : id < bs.length
    · rw [List.getElem?_append_left (by omega), List.getElem?_append_left hi,
        Array.getElem?_toList, h.fleet]
    · rw [List.getElem?_append_right (by omega), List.getElem?_append_right (by omega), hl,
        h.unborn id (by omega), List.getElem?_map]
      rfl
  fresh := fun b hb => (List.mem_append.mp hb).elim (h.fresh b) (hc b)
  unborn := by
    intro id hi
    rw [List.length_append] at hi
    exact h.unborn id (by omega)

theorem exists_relay (h : r.Remembers bs past) {id : Nat} {e : Endpoint}
    (he : r.fleet[id]? = some e) : ∃ b, bs[id]? = some b ∧ e = .relay (b.after (past id)) := by
  rw [h.fleet, Option.map_eq_some_iff] at he
  obtain ⟨b, hb, hr⟩ := he
  exact ⟨b, hb, hr.symm⟩

theorem readAlive_fleet (h : r.Remembers bs past) (id : Nat) :
    (readAlive id r).2.fleet = r.fleet := by
  cases he : r.fleet[id]? with
  | none =>
    unfold readAlive
    rw [he]
  | some e =>
    obtain ⟨b, -, rfl⟩ := h.exists_relay he
    rw [readAlive_of_relay he]

/-- A probe adds its outcome to the past of its endpoint. -/
theorem probed (h : r.Remembers bs past) {id : Nat} {e : Endpoint} (he : r.fleet[id]? = some e)
    (net : Network) :
    (probe net r id).2.Remembers bs fun i =>
      past i ++ if id = i then (outcomeOf? (e.probe net).result).toList else [] := by
  obtain ⟨b, hb, rfl⟩ := h.exists_relay he
  have hp := Relay.probe_endpoint net (b.after (past id))
  -- The probe of a relay changes nothing but the relay, so the roster keeps its registry.
  rw [probe_of_some he]
  have hn : (Endpoint.probe net (.relay (b.after (past id)))).edits = [] := Relay.probe_edits net _
  rw [hn]
  refine ⟨(alike_probed he net).sound h.sound, fun i => ?_, h.fresh, fun i hi => ?_⟩
  · change (r.fleet.setIfInBounds id ((b.after (past id)).probe net).endpoint)[i]? = _
    rw [Array.getElem?_setIfInBounds]
    split
    next hi =>
      subst hi
      rw [if_pos (Array.getElem?_eq_some_iff.mp he).1, hb, hp, ← Relay.after_append]
      rfl
    next hi => rw [h.fleet, List.append_nil]
  · have hl := (List.getElem?_eq_some_iff.mp hb).1
    rw [h.unborn i hi, if_neg (by omega)]
    rfl

theorem readAlive (h : r.Remembers bs past) (id : Nat) :
    (Roster.readAlive id r).2.Remembers bs past :=
  h.of_fleet ((alike_readAlive id r).sound h.sound) (h.readAlive_fleet id)

theorem aliveAmong (h : r.Remembers bs past) (ms : List (String × Nat)) :
    (Roster.aliveAmong ms r).2.Remembers bs past := by
  induction ms generalizing r with
  | nil => exact h
  | cons m ms ih => exact ih (h.readAlive m.2)

theorem settle (h : r.Remembers bs past) (m : String × Nat) (result : Except ProbeFailure Unit) :
    (r.settle m result).Remembers bs past := by
  apply h.of_fleet ((alike_settle r m result).sound h.sound)
  cases result with
  | ok _ =>
    have hr : (r.report (.probeSucceeded m.1)).Remembers bs past :=
      h.of_fleet ⟨h.sound.registry, h.sound.named⟩ rfl
    exact hr.readAlive_fleet m.2
  | error f =>
    let r' := r.report (.probeFailed m.1 f)
    have hr : Remembers { r' with metrics := r'.metrics.increment (.probeFailures m.1) } bs past :=
      h.of_fleet ⟨h.sound.registry, h.sound.named⟩ rfl
    exact hr.readAlive_fleet m.2

theorem sweepOver {net : Network} {ms : List (String × Nat)} {s : Sweep}
    (h : r.Remembers bs fun i => past i ++ s.outcomes i) :
    (Roster.sweepOver net ms s r).2.Remembers bs fun i =>
      past i ++ (Roster.sweepOver net ms s r).1.outcomes i := by
  induction ms generalizing s r with
  | nil => exact h
  | cons m ms ih =>
    cases he : r.fleet[m.2]? with
    | none => rw [sweepOver_of_none he]; exact ih h
    | some e =>
      have hp (now : Network) : (probe now r m.2).2.Remembers bs fun i =>
          past i ++ (s.note m.2 (e.probe now)).outcomes i := by
        simp only [Sweep.outcomes_note, ← List.append_assoc]
        exact h.probed he now
      cases hr : (e.probe (net.later s.elapsed)).result with
      | error d => rw [sweepOver_of_breakdown he hr]; exact hp _
      | ok result => rw [sweepOver_of_result he hr]; exact ih ((hp _).settle m result)

/-- No probe of a relay changes the registry. -/
theorem alike_probe (h : r.Remembers bs past) (net : Network) (id : Nat) :
    Alike r (Roster.probe net r id).2 := by
  cases he : r.fleet[id]? with
  | none => rw [probe_of_none he]; exact Alike.refl r
  | some e =>
    obtain ⟨b, -, rfl⟩ := h.exists_relay he
    have hn : (Endpoint.probe net (.relay (b.after (past id)))).edits = [] := Relay.probe_edits net _
    rw [probe_of_some he, hn]
    exact alike_probed he net

theorem alike_sweepOver {net : Network} {ms : List (String × Nat)} {s : Sweep}
    (h : r.Remembers bs past) : Alike r (Roster.sweepOver net ms s r).2 := by
  induction ms generalizing s r past with
  | nil => exact Alike.refl r
  | cons m ms ih =>
    cases he : r.fleet[m.2]? with
    | none => rw [sweepOver_of_none he]; exact ih h
    | some e =>
      have ha := h.alike_probe (net.later s.elapsed) m.2
      cases hr : (e.probe (net.later s.elapsed)).result with
      | error d => rw [sweepOver_of_breakdown he hr]; exact ha
      | ok result =>
        rw [sweepOver_of_result he hr]
        exact (ha.trans (alike_settle _ m result)).trans (ih ((h.probed he _).settle m result))

theorem alike_sweep (h : r.Remembers bs past) (net : Network) : Alike r (r.sweep net).2 :=
  h.alike_sweepOver

theorem sweep (h : r.Remembers bs past) (net : Network) :
    (r.sweep net).2.Remembers bs fun i => past i ++ (r.sweep net).1.outcomes i :=
  sweepOver (by simpa [Sweep.outcomes] using h)

theorem select (h : r.Remembers bs past) : r.select.2.Remembers bs past := by
  -- A selection asks relays only, and asking leaves them as they are.
  have hc : r.choice.2.2.Remembers bs past :=
    Rotation.pick_keeps (P := (Remembers · bs past)) (fun _ _ hs => hs.readAlive _)
      ((h.aliveAmong _).of_fleet ((alike_counted r).sound h.sound) rfl)
  apply hc.of_fleet ((alike_select r).sound ⟨h.sound.registry, h.sound.named⟩)
  rw [select_eq]
  split <;> rfl

theorem call (h : r.Remembers bs past) {c : Call} (hc : (Step.call c).KeepsToRelays) :
    (r.call c).2.Remembers (bs ++ (Step.call c).makes (r.call c).1) past := by
  have hs := h.sound.call c
  have hn {r' : Roster} (h' : r'.Remembers bs past) : r'.Remembers (bs ++ []) past := by
    rwa [List.append_nil]
  cases c with
  | make e =>
    obtain ⟨b, hb, rfl⟩ := hc
    refine h.append hs ?_ fun c hc => List.mem_singleton.mp hc ▸ hb
    exact Array.toList_push
  | change id e => exact hc.elim
  | register id =>
    apply hn (h.of_fleet hs _)
    rw [call_register_snd, register_fleet]
  | deregister a => exact hn (h.of_fleet hs (deregister_fleet r a))
  | select => exact hn h.select
  | aliveMembers => exact hn (h.aliveAmong _)
  | align s =>
    refine h.append hs ((align_fleet h.sound s).trans ?_) ?_
    · exact congrArg _ List.map_map.symm
    · intro c hc
      obtain ⟨a, -, rfl⟩ := List.mem_map.mp hc
      exact Relay.fresh_ofSettings s.health a
  | members | get _ | contains _ | addresses | size | isEmpty => exact hn h

end Remembers

theorem call_outcomes (r : Roster) (c : Call) (id : Nat) : (r.call c).1.outcomes id = [] := by
  cases c with
  | change i e => rw [call_change_fst]; rfl
  | register i =>
    cases he : r.fleet[i]? with
    | none => rw [call_register_of_none he]; rfl
    | some e =>
      cases ht : r.registry.taken e.address with
      | true => rw [call_register_of_taken he ht]; rfl
      | false => rw [call_register_of_free he ht]; rfl
  | _ => rfl

theorem Remembers.step {r : Roster} {bs : List Relay} {t : List (Step × Answer)}
    (h : r.Remembers bs (history t)) {q : Step} (hq : q.KeepsToRelays) :
    (r.step q).2.Remembers (bs ++ q.makes (r.step q).1) (history (t ++ [(q, (r.step q).1)])) := by
  have ht : history (t ++ [(q, (r.step q).1)]) = fun i => history t i ++ (r.step q).1.outcomes i :=
    funext (history_concat t _)
  rw [ht]
  cases q with
  | call c =>
    change (r.call c).2.Remembers _ fun i => history t i ++ (r.call c).1.outcomes i
    simp only [call_outcomes, List.append_nil]
    exact h.call hq
  | sweep net =>
    change (r.sweep net).2.Remembers (bs ++ []) _
    rw [List.append_nil]
    exact h.sweep net

end Roster
end RelayRoster
