import Mathlib
import RelayRoster.Proofs.RelayHealth

namespace RelayRoster

namespace Rotation

variable {σ : Type} {readAlive : Nat → σ → Bool × σ}

/-- Where the first position asked is alive, it is chosen. -/
theorem pick_fst_of_alive {n : Nat} {r : Rotation} {s : σ} (hn : 0 < n)
    (h : (readAlive (r.cursor.toNat % n) s).1 = true) :
    (pick readAlive n r s).1 = some (r.cursor.toNat % n) := by
  have hc : ∃ is, cycle n (r.cursor.toNat % n) = r.cursor.toNat % n :: is := by
    obtain ⟨k, rfl⟩ := Nat.exists_eq_add_one_of_ne_zero (Nat.pos_iff_ne_zero.mp hn)
    unfold cycle
    rw [List.range_succ_eq_map, List.map_cons, Nat.add_zero, Nat.mod_mod]
    exact ⟨_, rfl⟩
  obtain ⟨is, his⟩ := hc
  unfold pick
  rw [if_neg (Nat.pos_iff_ne_zero.mp hn)]
  dsimp only
  rw [his]
  unfold seek
  generalize readAlive (r.cursor.toNat % n) s = a at h
  obtain ⟨a, s'⟩ := a
  dsimp only at h
  subst h
  rfl

end Rotation

namespace Roster

def awake (r : Roster) (m : String × Nat) : Bool := r.health? m.2 ≠ some .unhealthy

theorem aliveAmong_of_relays {r : Roster} {ms : List (String × Nat)}
    (h : ∀ m ∈ ms, ∃ b, r.fleet[m.2]? = some (.relay b)) :
    aliveAmong ms r = (ms.filter r.awake, r) := by
  induction ms with
  | nil => rfl
  | cons m ms ih =>
    rw [List.forall_mem_cons] at h
    obtain ⟨b, hb⟩ := h.1
    unfold aliveAmong
    rw [readAlive_of_relay hb]
    dsimp only
    rw [ih h.2, List.filter_cons]
    rfl

section

variable {r : Roster} (h : ∀ m ∈ r.registry.published, ∃ b, r.fleet[m.2]? = some (.relay b))
include h

theorem aliveMembers_of_relays : r.aliveMembers = (r.registry.published.filter r.awake, r) :=
  aliveAmong_of_relays h

/-- The choice falls on the position of the cursor, if there is one. -/
theorem choice_of_relays (ha : 0 < r.aliveMembers.1.length) :
    r.choice.1 = some (r.rotation.cursor.toNat % r.aliveMembers.1.length) := by
  have hr : r.counted.rotation = r.rotation := (alike_counted r).rotation
  have hf : r.counted.fleet = r.fleet := congrArg (fun x => x.2.fleet) (aliveMembers_of_relays h)
  unfold choice
  rw [hr]
  apply Rotation.pick_fst_of_alive ha
  have hlt := Nat.mod_lt r.rotation.cursor.toNat ha
  have hm := List.getElem_mem hlt
  unfold ask
  rw [List.getElem?_eq_getElem hlt, Option.map_some, Option.getD_some]
  generalize r.aliveMembers.1[r.rotation.cursor.toNat % r.aliveMembers.1.length] = m at hm
  rw [aliveMembers_of_relays h] at hm
  obtain ⟨hp, hw⟩ := List.mem_filter.mp hm
  obtain ⟨b, hb⟩ := h m hp
  rw [readAlive_of_relay (hf ▸ hb)]
  unfold awake at hw
  unfold health? at hw ⊢
  rw [hf]
  exact hw

theorem select_eq_none_iff :
    r.select.1 = none ↔ ∀ m ∈ r.registry.published, r.health? m.2 = some .unhealthy := by
  have ha : r.aliveMembers.1 = [] ↔
      ∀ m ∈ r.registry.published, r.health? m.2 = some .unhealthy := by
    rw [aliveMembers_of_relays h, List.filter_eq_nil_iff]
    simp [awake]
  rw [← ha]
  constructor
  · intro hs
    by_contra hn
    have hl := List.length_pos_iff.mpr hn
    rw [select_fst, choice_of_relays h hl, Option.bind_some,
      List.getElem?_eq_getElem (Nat.mod_lt _ hl)] at hs
    cases hs
  · intro hn
    cases hs : r.select.1 with
    | none => rfl
    | some m =>
      have hm := mem_of_select hs
      rw [hn] at hm
      cases hm

theorem awake_of_select {m : String × Nat} (hs : r.select.1 = some m) :
    m ∈ r.registry.published ∧ r.health? m.2 ≠ some .unhealthy := by
  have hm := mem_of_select hs
  rw [aliveMembers_of_relays h] at hm
  obtain ⟨hp, hw⟩ := List.mem_filter.mp hm
  exact ⟨hp, of_decide_eq_true hw⟩

end

theorem enlistAll_of_none {health : HealthSettings} {as : List String} {r r' : Roster}
    (hs : r.Sound) (h : enlistAll health as r = (none, r')) :
    r'.Sound ∧ r'.fleet.toList = r.fleet.toList ++ as.map fun a => .relay (.ofSettings health a) := by
  induction as generalizing r with
  | nil =>
    cases h
    exact ⟨hs, (List.append_nil _).symm⟩
  | cons a as ih =>
    unfold enlistAll at h
    split at h
    next r₁ he =>
      have hr : (r.enlist (.relay (.ofSettings health a))).2 = r₁ := by rw [he]
      obtain ⟨hs', hf⟩ := ih (hr ▸ hs.enlist _) h
      refine ⟨hs', hf.trans ?_⟩
      rw [← hr, enlist_fleet]
      simp
    next => cases h

theorem build_of_ok {s : Settings} {r r' : Roster} (h : build s r = (.ok (), r')) :
    r'.Sound ∧ r'.fleet.toList =
      r.fleet.toList ++ s.endpoints.map fun a => .relay (.ofSettings s.health a) := by
  have hs : Sound { r with registry := {}, rotation := {} } :=
    ⟨Registry.sound_empty, fun m hm => (List.not_mem_nil hm).elim⟩
  unfold build at h
  split at h
  next built he =>
    obtain ⟨hb, hf⟩ := enlistAll_of_none hs he
    cases h
    exact ⟨⟨hb.registry, hb.named⟩, hf⟩
  next => cases h

/-- Where no endpoint was made before, a roster that is built has the relays made for it. -/
theorem remembers_of_build {s : Settings} {r r' : Roster} (hf : r.fleet = #[])
    (h : build s r = (.ok (), r')) :
    r'.Remembers (s.endpoints.map (.ofSettings s.health)) fun _ => [] := by
  obtain ⟨hs, hfleet⟩ := build_of_ok h
  refine ⟨hs, fun id => ?_, fun b hb => ?_, fun _ _ => rfl⟩
  · change r'.fleet[id]? = (s.endpoints.map (Relay.ofSettings s.health))[id]?.map Endpoint.relay
    rw [← Array.getElem?_toList, hfleet, hf, List.getElem?_map, Option.map_map]
    exact List.getElem?_map
  · obtain ⟨a, -, rfl⟩ := List.mem_map.mp hb
    exact Relay.fresh_ofSettings s.health a

theorem Remembers.sweepFirst {r : Roster} {bs : List Relay} {past : Nat → List Outcome}
    (h : r.Remembers bs past) (net : Network) (k : Nat) :
    (r.sweepFirst net k).2.Remembers bs fun i => past i ++ (r.sweepFirst net k).1.outcomes i :=
  Remembers.sweepOver (by simpa [Sweep.outcomes] using h)

end Roster

/-- A roster to begin with, and the relays made for it: an empty one, or one built from settings. -/
inductive Begins : List Relay → Roster → Prop
  | empty : Begins [] {}
  | built {s : Settings} {r : Roster} (h : Roster.build s {} = (.ok (), r)) :
      Begins (s.endpoints.map (.ofSettings s.health)) r

theorem Begins.remembers {first : List Relay} {start : Roster} (h : Begins first start) :
    start.Remembers first fun _ => [] := by
  cases h with
  | empty =>
    refine ⟨Roster.sound_empty, fun id => rfl, fun b hb => ?_, fun _ _ => rfl⟩
    cases hb
  | built h => exact Roster.remembers_of_build rfl h

theorem relaysMade_concat (first : List Relay) (t : List (Step × Answer)) (x : Step × Answer) :
    relaysMade first (t ++ [x]) = relaysMade first t ++ x.1.makes x.2 := by
  simp [relaysMade]

theorem Run.remembers {first : List Relay} {start : Roster} (hb : Begins first start)
    {t : List (Step × Answer)} {r : Roster} (h : Run start t r)
    (ht : ∀ x ∈ t, x.1.KeepsToRelays) : r.Remembers (relaysMade first t) (history t) := by
  induction h with
  | start =>
    unfold relaysMade
    rw [List.flatMap_nil, List.append_nil]
    exact hb.remembers
  | shuffle _ hp ih =>
    have hr := ih ht
    exact hr.of_fleet (hr.sound.shuffle hp) rfl
  | step _ q ih =>
    rw [List.forall_mem_append] at ht
    rw [relaysMade_concat]
    exact (ih ht.1).step (ht.2 _ (List.mem_singleton_self _))

theorem Reaches.remembers {first : List Relay} {start : Roster} (hb : Begins first start)
    {t : List (Step × Answer)} {r : Roster} (h : Reaches start t r)
    (ht : ∀ x ∈ t, x.1.KeepsToRelays) : r.Remembers (relaysMade first t) (history t) := by
  cases h with
  | between h => exact h.remembers hb ht
  | @within t r h net k =>
    rw [List.forall_mem_append] at ht
    rw [relaysMade_concat]
    have hh : history (t ++ [(.sweep net, .swept (r.sweepFirst net k).1)]) =
        fun i => history t i ++ (r.sweepFirst net k).1.outcomes i := funext (history_concat t _)
    rw [hh]
    change Roster.Remembers _ (relaysMade first t ++ []) _
    rw [List.append_nil]
    exact (h.remembers hb ht.1).sweepFirst net k

/-- At every point of a run with relays, the health of whoever is registered is the verdict on the
probes of that very relay. A selection finds somebody registered who is not unhealthy, unless all of
them are. -/
theorem health_of_registered {first : List Relay} {start : Roster} (hb : Begins first start)
    {t : List (Step × Answer)} {r : Roster} (h : Reaches start t r)
    (ht : ∀ x ∈ t, x.1.KeepsToRelays) :
    (∀ m ∈ r.registry.entries, ∃ timeout healthy unhealthy,
      (relaysMade first t)[m.2]? =
          some ⟨m.1, timeout, ⟨.unknown, 0, 0, max healthy 1, max unhealthy 1⟩⟩ ∧
        r.health? m.2 = some (.verdict (max healthy.toNat 1) (max unhealthy.toNat 1)
          (history t m.2).reverse)) ∧
      (∀ m, r.select.1 = some m → m ∈ r.registry.entries ∧ r.health? m.2 ≠ some .unhealthy) ∧
      (r.select.1 = none ↔ ∀ m ∈ r.registry.entries, r.health? m.2 = some .unhealthy) := by
  have hr := h.remembers hb ht
  -- Who is registered is a relay of the run, under its own address.
  have hm (m : String × Nat) (h : m ∈ r.registry.entries) : ∃ b : Relay, b.address = m.1 ∧
      (relaysMade first t)[m.2]? = some b ∧
      r.fleet[m.2]? = some (.relay (b.after (history t m.2))) := by
    have hn := hr.sound.named m h
    rw [Roster.getElem?_names, Option.map_eq_some_iff] at hn
    obtain ⟨e, he, ha⟩ := hn
    obtain ⟨b, hb, rfl⟩ := hr.exists_relay he
    exact ⟨b, ha, hb, he⟩
  have hp (m : String × Nat) : m ∈ r.registry.published ↔ m ∈ r.registry.entries :=
    hr.sound.registry.mem_published
  have hf : ∀ m ∈ r.registry.published, ∃ b, r.fleet[m.2]? = some (.relay b) := by
    intro m h
    obtain ⟨b, -, -, he⟩ := hm m ((hp m).mp h)
    exact ⟨_, he⟩
  refine ⟨fun m h => ?_, fun m hs => ?_, ?_⟩
  · obtain ⟨b, ha, hb, he⟩ := hm m h
    obtain ⟨healthy, unhealthy, hc⟩ := hr.fresh b (List.mem_of_getElem? hb)
    refine ⟨b.timeout, healthy, unhealthy, ?_, ?_⟩
    · rw [hb, ← ha]
      exact congrArg (fun tracker => some (Relay.mk b.address b.timeout tracker)) hc
    · unfold Roster.health?
      rw [he, ← Tracker.state_after_create, ← hc]
      rfl
  · obtain ⟨h, hw⟩ := Roster.awake_of_select hf hs
    exact ⟨(hp m).mp h, hw⟩
  · simp only [Roster.select_eq_none_iff hf, hp]

/-- A relay whose only probe is refused is unhealthy, and then nobody is selected. -/
theorem health_of_registered_of_refused :
    ∃ t r, Begins [] {} ∧ Reaches {} t r ∧ (∀ x ∈ t, x.1.KeepsToRelays) ∧
      r.registry.entries = [("127.0.0.1:1", 0)] ∧ history t 0 = [.failure] ∧
      r.health? 0 = some .unhealthy ∧ r.select.1 = none := by
  let b : Relay := ⟨"127.0.0.1:1", .ofSeconds 1, .create 1 1⟩
  have h₀ : Run {} [] {} := .start
  have h := Reaches.between (((h₀.step (.call (.make (.relay b)))).step (.call (.register 0))).step
    (.sweep {}))
  generalize ht : [] ++ [_] ++ [_] ++ [_] = t at h
  generalize hr : Prod.snd (Roster.step _ (Step.sweep _)) = r at h
  have hk : ∀ x ∈ t, x.1.KeepsToRelays := by
    subst ht
    simp [Step.KeepsToRelays, Relay.Fresh, b]
  have he : r.registry.entries = [("127.0.0.1:1", 0)] := by
    subst hr
    cbv
  have hu : r.health? 0 = some .unhealthy := by
    subst hr
    cbv
  have hn := (health_of_registered .empty h hk).2.2
  refine ⟨t, r, .empty, h, hk, he, ?_, hu, hn.mpr ?_⟩
  · subst ht
    cbv
  · rw [he]
    exact List.forall_mem_singleton.mpr hu

end RelayRoster
