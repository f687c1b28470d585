import RelayRoster.Daemon
import RelayRoster.Proofs.HalfWritten
import RelayRoster.Proofs.Monitoring
import RelayRoster.Proofs.RelayRun

namespace RelayRoster

namespace Book

/-- Who is bound to the address at a place of a list is the one made for that place. -/
theorem bound_fill_getElem {b : Book} {as : List String} (hn : as.Nodup)
    (hf : ∀ a ∈ as, b.bound a = none) {i : Nat} {a : String} (hi : as[i]? = some a) :
    (b.fill as).bound a = some (b.made.length + i) := by
  induction as generalizing b i with
  | nil => cases hi
  | cons x as ih =>
    rw [List.nodup_cons] at hn
    rw [List.forall_mem_cons] at hf
    have hx : (b.bound x).isSome = false := by rw [hf.1]; rfl
    rw [fill_cons_of_free hx]
    cases i with
    | zero =>
      cases hi
      apply bound_fill_of_bound
      rw [bound_enlist_of_free hx, if_pos rfl]
      rfl
    | succ i =>
      -- The others are as free as before, and one more endpoint is made.
      have hfree : ∀ y ∈ as, (b.enlist x).bound y = none := by
        intro y hy
        have hyx : y ≠ x := fun he => hn.1 (he ▸ hy)
        rw [bound_enlist_of_free hx, if_neg hyx, hf.2 y hy]
      have hmade : (b.enlist x).made.length = b.made.length + 1 := by
        rw [enlist_of_free hf.1]
        exact List.length_append
      rw [ih hn.2 hfree hi, hmade]
      congr 1
      omega

end Book

namespace Roster

section

variable {health : HealthSettings} {a : String} {as : List String} {r : Roster}

theorem enlistAll_of_free (h : r.registry.taken a = false) :
    enlistAll health (a :: as) r =
      enlistAll health as (r.enlist (.relay (.ofSettings health a))).2 := by
  have hd : (r.enlist (.relay (.ofSettings health a))).1 = true := by
    rw [enlist_fst]
    change (!r.registry.taken a) = true
    rw [h]
    rfl
  conv_lhs => unfold enlistAll
  generalize r.enlist (.relay (.ofSettings health a)) = d at hd ⊢
  obtain ⟨done, r'⟩ := d
  dsimp only at hd
  subst hd
  rfl

theorem enlistAll_of_taken (h : r.registry.taken a = true) :
    (enlistAll health (a :: as) r).1 = some a := by
  have hd : (r.enlist (.relay (.ofSettings health a))).1 = false := by
    rw [enlist_fst]
    change (!r.registry.taken a) = false
    rw [h]
    rfl
  unfold enlistAll
  generalize r.enlist (.relay (.ofSettings health a)) = d at hd ⊢
  obtain ⟨done, r'⟩ := d
  dsimp only at hd
  subst hd
  rfl

/-- Once a relay is enlisted, its address is taken too. -/
theorem free_enlist_iff (h : r.registry.taken a = false) (x : String) :
    (r.enlist (.relay (.ofSettings health a))).2.registry.taken x = false ↔
      x ≠ a ∧ r.registry.taken x = false := by
  have hb : (r.book.bound a).isSome = false := by rw [book_bound_isSome, h]
  have hx : (r.enlist (.relay (.ofSettings health a))).2.registry.taken x =
      ((r.book.enlist a).bound x).isSome := by
    rw [← book_bound_isSome, book_enlist]
    rfl
  rw [hx, Book.bound_enlist_of_free hb, ← book_bound_isSome]
  by_cases hxa : x = a <;> simp [hxa]

/-- All are enlisted exactly if no address is taken or listed twice. -/
theorem enlistAll_fst_eq_none_iff :
    (enlistAll health as r).1 = none ↔ as.Nodup ∧ ∀ a ∈ as, r.registry.taken a = false := by
  induction as generalizing r with
  | nil => simp [enlistAll]
  | cons a as ih =>
    rw [List.forall_mem_cons, List.nodup_cons]
    cases ht : r.registry.taken a with
    | true => simp [enlistAll_of_taken ht]
    | false =>
      rw [enlistAll_of_free ht, ih]
      simp only [free_enlist_iff ht]
      constructor
      · rintro ⟨hn, hf⟩
        exact ⟨⟨fun ha => (hf a ha).1 rfl, hn⟩, trivial, fun x hx => (hf x hx).2⟩
      · rintro ⟨⟨ha, hn⟩, -, hf⟩
        exact ⟨hn, fun x hx => ⟨fun he => ha (he ▸ hx), hf x hx⟩⟩

/-- The enlisting stops at the first address that is taken or was listed before. -/
theorem enlistAll_fst_eq_some_iff {x : String} :
    (enlistAll health as r).1 = some x ↔
      ∃ before after, as = before ++ x :: after ∧ (enlistAll health before r).1 = none ∧
        (x ∈ before ∨ r.registry.taken x = true) := by
  induction as generalizing r with
  | nil => simp [enlistAll]
  | cons a as ih =>
    cases ht : r.registry.taken a with
    -- The first address is taken and stops the walk.
    | true =>
      rw [enlistAll_of_taken ht]
      constructor
      · rintro ⟨⟩
        exact ⟨[], as, rfl, rfl, .inr ht⟩
      · rintro ⟨before, after, heq, hnone, -⟩
        cases before with
        | nil => cases heq; rfl
        | cons b before =>
          cases heq
          rw [enlistAll_of_taken ht] at hnone
          cases hnone
    | false =>
      -- From here on the first address is taken as well.
      have htaken (y : String) :
          (r.enlist (.relay (.ofSettings health a))).2.registry.taken y = true ↔
            y = a ∨ r.registry.taken y = true := by
        rw [← not_iff_not, Bool.not_eq_true, free_enlist_iff ht, not_or, Bool.not_eq_true]
      rw [enlistAll_of_free ht, ih]
      simp only [htaken]
      constructor
      · rintro ⟨before, after, rfl, hnone, hx⟩
        refine ⟨a :: before, after, rfl, (enlistAll_of_free ht) ▸ hnone, ?_⟩
        rw [List.mem_cons]
        tauto
      · rintro ⟨before, after, heq, hnone, hx⟩
        cases before with
        | nil =>
          cases heq
          rw [ht] at hx
          exact absurd hx (by simp)
        | cons b before =>
          cases heq
          rw [enlistAll_of_free ht] at hnone
          rw [List.mem_cons] at hx
          exact ⟨before, after, rfl, hnone, by tauto⟩

theorem book_enlistAll (h : (enlistAll health as r).1 = none) :
    (enlistAll health as r).2.book = r.book.fill as := by
  induction as generalizing r with
  | nil => rfl
  | cons a as ih =>
    cases ht : r.registry.taken a with
    | true => rw [enlistAll_of_taken ht] at h; cases h
    | false =>
      rw [enlistAll_of_free ht] at h ⊢
      rw [ih h, book_enlist, Book.fill_cons_of_free (by rw [book_bound_isSome, ht])]
      rfl

end

/-- A roster that has one relay for each address listed, made for it in that order from the settings
once `born` other endpoints were made, and nobody else. -/
structure Built (s : Settings) (born : Nat) (r : Roster) : Prop where
  sound : r.Sound
  relay : ∀ i a, s.endpoints[i]? = some a →
    r.registry.get? a = some (born + i) ∧
      r.fleet[born + i]? = some (.relay (.ofSettings s.health a))
  addresses : r.registry.addresses.Perm s.endpoints

namespace Built

variable {s : Settings} {born : Nat} {r : Roster} (h : r.Built s born)
include h

theorem size : r.registry.size = s.endpoints.length := by
  rw [← h.addresses.length_eq]
  exact (List.length_map _).symm

theorem exists_relay {m : String × Nat} (hm : m ∈ r.registry.published) :
    ∃ a, r.fleet[m.2]? = some (.relay (.ofSettings s.health a)) := by
  obtain ⟨i, hi⟩ := List.mem_iff_getElem?.mp
    (h.addresses.mem_iff.mp (List.mem_map_of_mem (f := (·.1)) hm))
  obtain ⟨hget, hfleet⟩ := h.relay i m.1 hi
  -- The one published under the address is the one found under it.
  have hid : r.registry.get? m.1 = some m.2 := by
    rw [h.sound.registry.get?_eq_lookup, Registry.lookup_eq_some_iff_mem h.sound.registry.keys]
    exact h.sound.registry.mem_published.mp hm
  rw [hid, Option.some.injEq] at hget
  exact ⟨m.1, hget ▸ hfleet⟩

theorem unknown {m : String × Nat} (hm : m ∈ r.registry.published) :
    r.health? m.2 = some .unknown := by
  obtain ⟨a, ha⟩ := h.exists_relay hm
  unfold health?
  rw [ha]
  rfl

theorem aliveMembers_fst : r.aliveMembers.1 = r.registry.published := by
  rw [aliveMembers_of_relays fun m hm => (h.exists_relay hm).imp' _ fun _ => id]
  refine List.filter_eq_self.mpr fun m hm => ?_
  unfold awake
  rw [h.unknown hm]
  rfl

end Built

section

variable {s : Settings} {r : Roster}

def cleared (r : Roster) : Roster := { r with registry := {}, rotation := {} }

theorem build_fst (s : Settings) (r : Roster) :
    (build s r).1 = match (enlistAll s.health s.endpoints r.cleared).1 with
      | none => .ok ()
      | some a => .error a := by
  unfold build cleared
  split
  next he => rw [he]
  next he => rw [he]

theorem build_fst_eq_ok_iff : (build s r).1 = .ok () ↔ s.endpoints.Nodup := by
  have hnone : (enlistAll s.health s.endpoints r.cleared).1 = none ↔ s.endpoints.Nodup := by
    rw [enlistAll_fst_eq_none_iff]
    exact and_iff_left fun a _ => rfl
  rw [build_fst, ← hnone]
  cases (enlistAll s.health s.endpoints r.cleared).1 <;> simp

theorem build_fst_eq_error_iff {a : String} :
    (build s r).1 = .error a ↔
      ∃ before after, s.endpoints = before ++ a :: after ∧ before.Nodup ∧ a ∈ before := by
  have hsome : (enlistAll s.health s.endpoints r.cleared).1 = some a ↔
      ∃ before after, s.endpoints = before ++ a :: after ∧ before.Nodup ∧ a ∈ before := by
    have ht (x : String) : r.cleared.registry.taken x = false := rfl
    simp only [enlistAll_fst_eq_some_iff, enlistAll_fst_eq_none_iff, ht]
    simp
  rw [build_fst, ← hsome]
  cases (enlistAll s.health s.endpoints r.cleared).1 <;> simp

example : (build { endpoints := ["a:1", "b:1", "b:1", "a:1"] } {}).1 = .error "b:1" := by cbv

theorem book_build (h : (build s r).1 = .ok ()) :
    (build s r).2.book = r.cleared.book.fill s.endpoints := by
  have hnone : (enlistAll s.health s.endpoints r.cleared).1 = none :=
    enlistAll_fst_eq_none_iff.mpr ⟨build_fst_eq_ok_iff.mp h, fun _ _ => rfl⟩
  rw [← book_enlistAll hnone]
  unfold build
  split
  next he =>
    unfold cleared
    rw [he]
    rfl
  next he =>
    unfold cleared at hnone
    rw [he] at hnone
    cases hnone

theorem built_of_ok (h : (build s r).1 = .ok ()) : (build s r).2.Built s r.fleet.size := by
  have hn := build_fst_eq_ok_iff.mp h
  obtain ⟨hs, hfleet⟩ := build_of_ok (Prod.ext h rfl : build s r = (.ok (), (build s r).2))
  have hbook := book_build h
  have hmade : r.cleared.book.made.length = r.fleet.size := names_length r.cleared
  generalize (build s r).2 = built at hs hfleet hbook
  refine ⟨hs, fun i a hi => ⟨?_, ?_⟩, ?_⟩
  · have hb := Book.bound_fill_getElem (b := r.cleared.book) hn (fun _ _ => rfl) hi
    rw [← hbook, hmade] at hb
    rw [hs.registry.get?_eq_lookup]
    exact hb
  · rw [← Array.getElem?_toList, hfleet, List.getElem?_append_right (by simp), List.getElem?_map]
    simp [hi]
  · refine (List.perm_ext_iff_of_nodup hs.registry.addresses_nodup hn).mpr fun a => ?_
    rw [hs.registry.mem_addresses, ← book_bound_isSome, hbook, Book.bound_fill_isSome]
    exact or_iff_right Bool.false_ne_true

end

end Roster

theorem FileTree.valid_of_load {t : FileTree} {p : Path} {s : Settings} (h : t.load p = .ok s) :
    s.Valid := by
  unfold load at h
  split at h
  next => exact (Settings.exists_of_ofText h).choose_spec.2.2
  next => cases h

namespace Daemon

/-- Where the metrics have a place to be asked for at, no other is complained of. -/
theorem exporterMisaddressed_notMem {report : ReportSettings}
    (h : Settings.ReachableMetrics report) (network : Network) (a : String) :
    .exporterMisaddressed a ∉ metricsEvents network report := by
  unfold metricsEvents
  split
  next he =>
    obtain ⟨on, hon⟩ := Option.isSome_iff_exists.mp (h he)
    rw [hon]
    dsimp only
    split <;> simp
  next => exact List.not_mem_nil

theorem tick_settings (d : Daemon) : d.tick.settings = d.settings := by
  unfold tick
  split <;> rfl

theorem tick_registry {d : Daemon} {bs : List Relay} {past : Nat → List Outcome}
    (h : d.roster.Remembers bs past) : d.tick.roster.registry = d.roster.registry := by
  unfold tick
  split
  · exact (Roster.alike_reportedSweep _ _ _).registry.trans (h.alike_sweep _).registry
  · rfl

/-- Settings that list no address twice start the program. -/
theorem exists_launch {s : Settings} (hn : s.endpoints.Nodup) (o : Options) (around : Surroundings)
    (watch? : Option Watch) :
    ∃ d, launch o around watch? s = .ok d ∧ d.settings = s ∧
      d.roster.registry.addresses.Perm s.endpoints := by
  let r : Roster := Roster.reportAll {}
    ([.programStarted,
      .settingsLoaded o.config s.endpoints.length s.health.enabled s.health.interval.toNat] ++
      metricsEvents around.network s.report)
  have hok : (r.build s).1 = .ok () := Roster.build_fst_eq_ok_iff.mpr hn
  have hb : r.build s = (.ok (), (r.build s).2) := Prod.ext hok rfl
  have hrem := Roster.remembers_of_build rfl hb
  have haddr := (Roster.built_of_ok hok).addresses
  generalize (r.build s).2 = built at hb hrem haddr
  have htick (d : Daemon) (hd : d.roster = built.report (monitorStart s.health)) :
      d.tick.roster.registry.addresses.Perm s.endpoints := by
    have hfleet : d.roster.fleet = built.fleet := by
      rw [hd]
      rfl
    have hsound : d.roster.Sound := hd ▸ ⟨hrem.sound.registry, hrem.sound.named⟩
    rw [tick_registry (hrem.of_fleet hsound hfleet), hd]
    exact haddr
  unfold launch
  dsimp only
  rw [hb]
  cases watch? with
  | none => exact ⟨_, rfl, tick_settings _, htick _ rfl⟩
  | some w => exact ⟨_, rfl, tick_settings _, htick _ rfl⟩

end Daemon

/-- A roster is built from settings exactly if they list no address twice; otherwise the one refused is
the first that was listed before. Then it has one relay for each place of the list, under the address
there, and no others; nothing is known of them yet and all can be selected. Settings that were loaded
start the program with all their endpoints, and their metrics address is one. -/
theorem build_ok_iff_nodup (s : Settings) (r : Roster) :
    ((r.build s).1 = .ok () ↔ s.endpoints.Nodup) ∧
    (∀ a, (r.build s).1 = .error a ↔
      ∃ before after, s.endpoints = before ++ a :: after ∧ before.Nodup ∧ a ∈ before) ∧
    ((r.build s).1 = .ok () →
      (r.build s).2.registry.size = s.endpoints.length ∧
      (∀ i a, s.endpoints[i]? = some a →
        (r.build s).2.registry.get? a = some (r.fleet.size + i) ∧
        (r.build s).2.fleet[r.fleet.size + i]? = some (.relay (.ofSettings s.health a))) ∧
      (r.build s).2.registry.addresses.Perm s.endpoints ∧
      (r.build s).2.registry.addresses.Pairwise (fun a b => Text.bytes a < Text.bytes b) ∧
      (∀ m ∈ (r.build s).2.registry.published, (r.build s).2.health? m.2 = some .unknown) ∧
      (r.build s).2.aliveMembers.1 = (r.build s).2.registry.published) ∧
    ∀ (files : FileTree) (path : Path), files.load path = .ok s →
      (r.build s).1 = .ok () ∧ (r.build s).2.registry.size = s.endpoints.length ∧
      (∀ o around watch?, ∃ d, Daemon.launch o around watch? s = .ok d ∧ d.settings = s ∧
        d.roster.registry.addresses.Perm s.endpoints) ∧
      ∀ network a, .exporterMisaddressed a ∉ Daemon.metricsEvents network s.report := by
  refine ⟨Roster.build_fst_eq_ok_iff, fun a => Roster.build_fst_eq_error_iff, fun hok => ?_,
    fun files path hload => ?_⟩
  · have hb := Roster.built_of_ok hok
    refine ⟨hb.size, hb.relay, hb.addresses, ?_, fun m hm => hb.unknown hm, hb.aliveMembers_fst⟩
    exact hb.sound.registry.addresses_sorted.imp fun hl => (Text.lt_iff_bytes_lt _ _).mp hl
  · have hv := FileTree.valid_of_load hload
    have hok := (Roster.build_fst_eq_ok_iff (r := r)).mpr hv.distinct
    exact ⟨hok, (Roster.built_of_ok hok).size, Daemon.exists_launch hv.distinct,
      Daemon.exporterMisaddressed_notMem hv.metrics⟩

/-- A file of two endpoints starts the program with both. -/
theorem build_ok_iff_nodup_of_two :
    ∃ (t : FileTree) (s : Settings), t.load ⟨"relay.toml"⟩ = .ok s ∧
      s.endpoints = ["a:1", "b:1"] ∧ (Roster.build s {}).1 = .ok () ∧
      (Roster.build s {}).2.registry.size = 2 ∧
      (Roster.build s {}).2.aliveMembers.1 = (Roster.build s {}).2.registry.published ∧
      ∃ d, Daemon.launch {} { arguments := [] } none s = .ok d := by
  let s : Settings := { endpoints := ["a:1", "b:1"] }
  have hread : (FileTree.addFile {} ⟨"relay.toml"⟩ twoEndpoints).read ⟨"relay.toml"⟩ =
      .ok twoEndpoints := by cbv
  have hload : (FileTree.addFile {} ⟨"relay.toml"⟩ twoEndpoints).load ⟨"relay.toml"⟩ = .ok s := by
    unfold FileTree.load
    rw [hread]
    exact ofText_twoEndpoints
  obtain ⟨-, -, hbuilt, hloaded⟩ := build_ok_iff_nodup s {}
  obtain ⟨hok, hsize, hlaunch, -⟩ := hloaded _ _ hload
  obtain ⟨d, hd, -⟩ := hlaunch {} { arguments := [] } none
  exact ⟨_, s, hload, rfl, hok, hsize, (hbuilt hok).2.2.2.2.2, d, hd⟩

end RelayRoster
