import Mathlib
import RelayRoster.Proofs.Completion
import RelayRoster.Proofs.Refinement

namespace RelayRoster

namespace Roster

section

variable {r r' : Roster} {m : String × Nat} {ms : List (String × Nat)}

theorem readAlive_fleet_self (id : Nat) (r : Roster) :
    (readAlive id r).2.fleet[id]? = r.fleet[id]?.map fun e => e.readAlive.2 := by
  unfold readAlive
  split
  next e he =>
    rw [he]
    exact Array.getElem?_setIfInBounds_self_of_lt (Array.getElem?_eq_some_iff.mp he).1
  next he => rw [he]; rfl

theorem readAlive_fleet_of_ne {id i : Nat} (h : i ≠ id) (r : Roster) :
    (readAlive id r).2.fleet[i]? = r.fleet[i]? := by
  unfold readAlive
  split
  · exact Array.getElem?_setIfInBounds_ne h.symm
  · rfl

def isAlive (r : Roster) (m : String × Nat) : Bool := (readAlive m.2 r).1

def alive (r : Roster) : List (String × Nat) := r.registry.published.filter r.isAlive

/-- Whether everyone who is alive says so again at once: nobody dies in the middle of a call. -/
def StandsBy (r : Roster) : Prop :=
  ∀ m ∈ r.registry.published, r.isAlive m = true → (readAlive m.2 r).2.isAlive m = true

theorem aliveAmong_fst (hn : (ms.map (·.2)).Nodup) (r : Roster) :
    (aliveAmong ms r).1 = ms.filter r.isAlive := by
  induction ms generalizing r with
  | nil => rfl
  | cons m ms ih =>
    rw [List.map_cons, List.nodup_cons] at hn
    have hrest : ms.filter (readAlive m.2 r).2.isAlive = ms.filter r.isAlive := by
      refine List.filter_congr fun n hm => readAlive_fst_of_fleet (readAlive_fleet_of_ne ?_ r)
      exact fun he => hn.1 (he ▸ List.mem_map_of_mem hm)
    rw [List.filter_cons, ← hrest, ← ih hn.2]
    rfl

theorem aliveAmong_fleet_of_notMem {id : Nat} (h : id ∉ ms.map (·.2)) (r : Roster) :
    (aliveAmong ms r).2.fleet[id]? = r.fleet[id]? := by
  induction ms generalizing r with
  | nil => rfl
  | cons m ms ih =>
    rw [List.map_cons, List.mem_cons, not_or] at h
    exact (ih h.2 _).trans (readAlive_fleet_of_ne h.1 r)

/-- Everyone is asked once. -/
theorem aliveAmong_fleet_of_mem (hn : (ms.map (·.2)).Nodup) (hm : m ∈ ms) (r : Roster) :
    (aliveAmong ms r).2.fleet[m.2]? = (readAlive m.2 r).2.fleet[m.2]? := by
  induction ms generalizing r with
  | nil => cases hm
  | cons n ms ih =>
    rw [List.map_cons, List.nodup_cons] at hn
    change (aliveAmong ms (readAlive n.2 r).2).2.fleet[m.2]? = _
    rcases List.mem_cons.mp hm with rfl | hm
    · exact aliveAmong_fleet_of_notMem hn.1 _
    · have hne : m.2 ≠ n.2 := fun he => hn.1 (he ▸ List.mem_map_of_mem hm)
      rw [ih hn.2 hm, readAlive_fleet_self, readAlive_fleet_self, readAlive_fleet_of_ne hne]

theorem Sound.aliveMembers_fst (h : r.Sound) : r.aliveMembers.1 = r.alive :=
  aliveAmong_fst h.published_ids_nodup r

theorem Sound.isAlive_counted (h : r.Sound) (hs : r.StandsBy) (hm : m ∈ r.alive) :
    r.counted.isAlive m = true := by
  obtain ⟨hp, ha⟩ := List.mem_filter.mp hm
  rw [← hs m hp ha]
  exact readAlive_fst_of_fleet (aliveAmong_fleet_of_mem h.published_ids_nodup hp r)

/-- With everyone standing by, the choice falls on the position of the cursor among the living. -/
theorem Sound.choice_fst (h : r.Sound) (hs : r.StandsBy) (ha : 0 < r.alive.length) :
    r.choice.1 = some (r.rotation.cursor.toNat % r.alive.length) := by
  have hr : r.counted.rotation = r.rotation := (alike_counted r).rotation
  have hlt := Nat.mod_lt r.rotation.cursor.toNat ha
  unfold choice
  rw [hr, h.aliveMembers_fst]
  apply Rotation.pick_fst_of_alive ha
  unfold ask
  rw [List.getElem?_eq_getElem hlt, Option.map_some, Option.getD_some]
  exact h.isAlive_counted hs (List.getElem_mem hlt)

theorem Sound.select_fst (h : r.Sound) (hs : r.StandsBy) (ha : 0 < r.alive.length) :
    r.select.1 = r.alive[r.rotation.cursor.toNat % r.alive.length]? := by
  rw [Roster.select_fst, h.choice_fst hs ha, h.aliveMembers_fst]
  rfl

theorem Sound.select_cursor (h : r.Sound) (hs : r.StandsBy) (ha : 0 < r.alive.length) :
    r.select.2.rotation.cursor = r.rotation.cursor + 1 := by
  have hc := h.choice_fst hs ha
  unfold choice at hc
  rw [h.aliveMembers_fst, (alike_counted r).rotation] at hc
  rw [select_rotation]
  unfold choice
  rw [h.aliveMembers_fst, (alike_counted r).rotation, Rotation.pick_rotation ha, hc]
  unfold Rotation.advance
  dsimp only
  rw [if_pos rfl]

/-- Relays stand by what they say. -/
theorem standsBy_of_relays
    (h : ∀ m ∈ r.registry.published, ∃ b, r.fleet[m.2]? = some (.relay b)) : r.StandsBy := by
  intro m hm ha
  obtain ⟨b, hb⟩ := h m hm
  rw [readAlive_of_relay hb]
  exact ha

end

end Roster

/-- What is selected one after the other, each time from a roster with a property, while the registry
stays the same. Anything else may happen between two selections. -/
inductive Spell (P : Roster → Prop) (start : Roster) : List (Option (String × Nat)) → Roster → Prop
  | start : Spell P start [] start
  | shuffle {as : List (Option (String × Nat))} {r : Roster} {es : List (String × Nat)}
      (h : Spell P start as r) (hp : es.Perm r.registry.entries) : Spell P start as (r.shuffle es)
  | step {as : List (Option (String × Nat))} {r : Roster} (h : Spell P start as r) {q : Step}
      (hq : q ≠ .call .select) (hr : (r.step q).2.registry = r.registry) :
      Spell P start as (r.step q).2
  | select {as : List (Option (String × Nat))} {r : Roster} (h : Spell P start as r) (hp : P r) :
      Spell P start (as ++ [r.select.1]) r.select.2

namespace Spell

variable {P : Roster → Prop} {start r : Roster} {as : List (Option (String × Nat))}

/-- A spell is a stretch of a run. -/
theorem exists_run (h : Spell P start as r) : ∃ t, Run start t r := by
  induction h with
  | start => exact ⟨_, .start⟩
  | shuffle _ hp ih => obtain ⟨t, ht⟩ := ih; exact ⟨t, ht.shuffle hp⟩
  | step _ _ _ ih => obtain ⟨t, ht⟩ := ih; exact ⟨_, ht.step _⟩
  | select _ _ ih => obtain ⟨t, ht⟩ := ih; exact ⟨_, ht.step (.call .select)⟩

theorem sound (hs : start.Sound) (h : Spell P start as r) : r.Sound := by
  obtain ⟨t, ht⟩ := h.exists_run
  exact ht.sound hs

theorem published (h : Spell P start as r) : r.registry.published = start.registry.published := by
  induction h with
  | start => rfl
  | shuffle _ _ ih => exact ih
  | step _ _ hr ih => rw [hr, ih]
  | @select as r _ _ ih => exact (congrArg Registry.published (Roster.alike_select r).registry).trans ih

end Spell

/-- Whether a roster stands by what it says, with a member alive and the list of the living among
those given. -/
structure Upholds (F : List (String × Nat) → Prop) (m : String × Nat) (r : Roster) : Prop where
  standsBy : r.StandsBy
  listed : F r.alive
  alive : m ∈ r.alive

/-- Whether any so many selections in a row return a member, if the member is alive at each of them
and the living are among the lists given. -/
def Served (start : Roster) (F : List (String × Nat) → Prop) (m : String × Nat) (k : Nat) : Prop :=
  ∀ as r, Spell (Upholds F m) start as r → as.length = k → some m ∈ as

/-- Whether a value of the cursor falls on a member in each of the given lists of members that has
it. -/
def FallsOn (ms : List (String × Nat)) (F : List (String × Nat) → Prop) (m : String × Nat)
    (c : UInt64) : Prop :=
  ∀ l, l.Sublist ms → F l → m ∈ l → l[c.toNat % l.length]? = some m

namespace Spell

variable {F : List (String × Nat) → Prop} {m : String × Nat} {start r : Roster}
  {as : List (Option (String × Nat))}

/-- The cursor counts the selections. -/
theorem cursor (hs : start.Sound) (h : Spell (Upholds F m) start as r) :
    r.rotation.cursor = start.rotation.cursor + UInt64.ofNat as.length := by
  induction h with
  | start => simp
  | shuffle _ _ ih => exact ih
  | step h hq _ ih =>
    rcases Roster.step_rotation (h.sound hs) _ with he | ⟨he, -⟩
    · rw [he, ih]
    · exact absurd he hq
  | select h hp ih =>
    rw [(h.sound hs).select_cursor hp.standsBy (List.length_pos_of_mem hp.alive), ih,
      List.length_append, UInt64.ofNat_add, UInt64.add_assoc]
    rfl

/-- Each selection falls on the position of its count among those alive at it. -/
theorem getElem? (hs : start.Sound) (h : Spell (Upholds F m) start as r) {k : Nat}
    (hk : k < as.length) :
    ∃ l, l.Sublist start.registry.published ∧ F l ∧ m ∈ l ∧
      as[k]? = some l[(start.rotation.cursor + UInt64.ofNat k).toNat % l.length]? := by
  induction h with
  | start => cases hk
  | shuffle _ _ ih => exact ih hk
  | step _ _ _ ih => exact ih hk
  | @select as r h hp ih =>
    rw [List.length_append, List.length_singleton] at hk
    by_cases hlast : k < as.length
    · rw [List.getElem?_append_left hlast]
      exact ih hlast
    · obtain rfl : k = as.length := by omega
      refine ⟨r.alive, ?_, hp.listed, hp.alive, ?_⟩
      · rw [← h.published]
        exact List.filter_sublist
      · rw [List.getElem?_concat_length, ← h.cursor hs,
          (h.sound hs).select_fst hp.standsBy (List.length_pos_of_mem hp.alive)]

end Spell

/-- Among twice as many successive values of a cursor as a modulus has residues, one has the residue
of a given value, even where the cursor wraps. -/
theorem exists_cursor_mod_eq (start c : UInt64) {n : Nat} (hn : 0 < n) :
    ∃ k < 2 * n, (start + UInt64.ofNat k).toNat % n = c.toNat % n := by
  have hc : c.toNat % n < n := Nat.mod_lt _ hn
  have hle : c.toNat % n ≤ c.toNat := Nat.mod_le _ _
  have hclt : c.toNat < 2 ^ 64 := c.toNat_lt
  have hlt : start.toNat < 2 ^ 64 := start.toNat_lt
  have hadd (k : Nat) : (start + UInt64.ofNat k).toNat = (start.toNat + k) % 2 ^ 64 := by
    rw [UInt64.toNat_add, UInt64.toNat_ofNat', Nat.add_mod_mod]
  by_cases hw : start.toNat + n ≤ 2 ^ 64
  · -- The first values do not wrap and take each residue once.
    have hs : start.toNat % n < n := Nat.mod_lt _ hn
    refine ⟨(c.toNat % n + n - start.toNat % n) % n, ?_, ?_⟩
    · exact (Nat.mod_lt _ hn).trans_le (by omega)
    · have hk : (c.toNat % n + n - start.toNat % n) % n < n := Nat.mod_lt _ hn
      have hnowrap : start.toNat + (c.toNat % n + n - start.toNat % n) % n < 2 ^ 64 :=
        (Nat.add_lt_add_left hk _).trans_le hw
      rw [hadd, Nat.mod_eq_of_lt hnowrap, Nat.add_mod_mod, ← Nat.mod_add_mod,
        Nat.add_sub_cancel' (by omega), Nat.add_mod_right, Nat.mod_mod]
  · -- Having wrapped, the cursor counts up from zero.
    refine ⟨2 ^ 64 - start.toNat + c.toNat % n, by omega, ?_⟩
    have hz : start.toNat + (2 ^ 64 - start.toNat + c.toNat % n) = 2 ^ 64 + c.toNat % n := by omega
    rw [hadd, hz, Nat.add_mod_left, Nat.mod_eq_of_lt (hle.trans_lt hclt), Nat.mod_mod]

section

variable {F : List (String × Nat) → Prop} {m : String × Nat} {r : Roster}

theorem served_of_fallsOn (h : r.Sound) {c : UInt64} (hc : FallsOn r.registry.published F m c) :
    Served r F m (2 * r.registry.size.factorial) := by
  intro as r' hs hl
  obtain ⟨k, hk, hmod⟩ := exists_cursor_mod_eq r.rotation.cursor c r.registry.size.factorial_pos
  obtain ⟨l, hsub, hF, hm, ha⟩ := hs.getElem? h (hl ▸ hk)
  -- The number of the living divides the factorial, so the residue by it is that of the value.
  have hd : l.length ∣ r.registry.size.factorial :=
    Nat.dvd_factorial (List.length_pos_of_mem hm) hsub.length_le
  have hres : (r.rotation.cursor + UInt64.ofNat k).toNat % l.length = c.toNat % l.length := by
    rw [← Nat.mod_mod_of_dvd _ hd, hmod, Nat.mod_mod_of_dvd _ hd]
  rw [hres, hc l hsub hF hm] at ha
  exact List.mem_of_getElem? ha

end

namespace Roster

def stage (p : String × Nat → Bool) : List (String × Nat) → Roster → Roster
  | [], r => r
  | m :: ms, r =>
    ((stage p ms r).call (.change m.2 (.rehearsed { address := m.1, alive := p m }))).2

section

variable {p : String × Nat → Bool} {ms : List (String × Nat)} {r : Roster}

theorem alike_stage (p : String × Nat → Bool) (ms : List (String × Nat)) (r : Roster) :
    Alike r (stage p ms r) := by
  induction ms with
  | nil => exact Alike.refl r
  | cons m ms ih => exact ih.trans (alike_change _ _ _)

theorem stage_getElem? (hn : ∀ m ∈ ms, r.names[m.2]? = some m.1) {m : String × Nat} (hm : m ∈ ms) :
    (stage p ms r).fleet[m.2]? = some (.rehearsed { address := m.1, alive := p m }) := by
  induction ms with
  | nil => cases hm
  | cons n ms ih =>
    rw [List.forall_mem_cons] at hn
    have hname : (stage p ms r).names[n.2]? = some n.1 := by rw [(alike_stage p ms r).names, hn.1]
    have hlt : n.2 < (stage p ms r).fleet.size := by
      rw [← names_length]
      exact (List.getElem?_eq_some_iff.mp hname).1
    unfold stage call
    dsimp only
    rw [if_pos (by exact hname), Array.getElem?_setIfInBounds, if_pos hlt]
    by_cases he : n.2 = m.2
    · have hnm : n = m := by
        refine Prod.ext (Option.some.inj ?_) he
        rw [← hn.1, he]
        rcases List.mem_cons.mp hm with rfl | hm
        · exact hn.1
        · exact hn.2 m hm
      rw [if_pos he, hnm]
    · rw [if_neg he]
      exact ih hn.2 ((List.mem_cons.mp hm).resolve_left fun h => he (h ▸ rfl))

theorem Sound.stage_getElem? (h : r.Sound) {m : String × Nat} (hm : m ∈ r.registry.published) :
    (stage p r.registry.published r).fleet[m.2]? =
      some (.rehearsed { address := m.1, alive := p m }) :=
  Roster.stage_getElem? (fun n hn => h.named n (h.registry.mem_published.mp hn)) hm

theorem Sound.standsBy_stage (h : r.Sound) : (stage p r.registry.published r).StandsBy := by
  intro m hm ha
  rw [(alike_stage p _ r).registry] at hm
  rw [← ha]
  apply readAlive_fst_of_fleet
  rw [readAlive_fleet_self, h.stage_getElem? hm]
  rfl

theorem Sound.alive_stage (h : r.Sound) :
    (stage p r.registry.published r).alive = r.registry.published.filter p := by
  unfold alive
  rw [(alike_stage p _ r).registry]
  refine List.filter_congr fun m hm => ?_
  unfold isAlive readAlive
  rw [h.stage_getElem? hm]
  rfl

end

end Roster

theorem Spell.stage {P : Roster → Prop} {start r : Roster} {as : List (Option (String × Nat))}
    (h : Spell P start as r) (p : String × Nat → Bool) (ms : List (String × Nat)) :
    Spell P start as (Roster.stage p ms r) := by
  induction ms with
  | nil => exact h
  | cons m ms ih =>
    exact ih.step (q := .call (.change _ _)) nofun (Roster.alike_change _ _ _).registry

/-- A sublist without repeats is recovered by its members. -/
theorem filter_eq_of_sublist {α : Type} {p : α → Bool} {l ms : List α} (h : l.Sublist ms)
    (hn : ms.Nodup) (hp : ∀ a, p a = true ↔ a ∈ l) : ms.filter p = l := by
  have hsub : l.Sublist (ms.filter p) := by
    have hf := h.filter p
    rwa [List.filter_eq_self.mpr fun a ha => (hp a).mpr ha] at hf
  refine (hsub.eq_of_length_le ?_).symm
  refine (List.subperm_of_subset (hn.filter _) fun a ha => ?_).length_le
  exact (hp a).mp (List.mem_filter.mp ha).2

section

variable {F : List (String × Nat) → Prop} {m : String × Nat} {r : Roster}

/-- Where no value of the cursor falls on a member each time, the living can always be chosen so that
the next selection passes it over. -/
theorem exists_spell_passing_over (h : r.Sound)
    (hc : ¬ ∃ c, FallsOn r.registry.published F m c) (k : Nat) :
    ∃ as r', Spell (Upholds F m) r as r' ∧ as.length = k ∧ some m ∉ as := by
  induction k with
  | zero => exact ⟨[], r, .start, rfl, List.not_mem_nil⟩
  | succ k ih =>
    obtain ⟨as, r', hs, hl, hm⟩ := ih
    have hr' := hs.sound h
    have hnot : ¬ FallsOn r.registry.published F m r'.rotation.cursor := fun hf => hc ⟨_, hf⟩
    unfold FallsOn at hnot
    push Not at hnot
    obtain ⟨l, hsub, hF, hml, hne⟩ := hnot
    rw [← hs.published] at hsub
    have hnd : r'.registry.published.Nodup := hr'.published_ids_nodup.of_map _
    have ha : (Roster.stage (· ∈ l) r'.registry.published r').alive = l := by
      rw [hr'.alive_stage, filter_eq_of_sublist hsub hnd fun _ => decide_eq_true_iff]
    have hu : Upholds F m (Roster.stage (· ∈ l) r'.registry.published r') :=
      ⟨hr'.standsBy_stage, by rwa [ha], by rwa [ha]⟩
    have hst := hs.stage (· ∈ l) r'.registry.published
    refine ⟨_, _, hst.select hu, by rw [List.length_append, hl]; rfl, ?_⟩
    rw [(hst.sound h).select_fst hu.standsBy (List.length_pos_of_mem hu.alive), ha,
      (Roster.alike_stage _ _ r').rotation, List.mem_append, List.mem_singleton, not_or]
    exact ⟨hm, Ne.symm hne⟩

theorem exists_fallsOn_of_served (h : r.Sound) {k : Nat} (hk : Served r F m k) :
    ∃ c, FallsOn r.registry.published F m c := by
  by_contra hc
  obtain ⟨as, r', hs, hl, hm⟩ := exists_spell_passing_over h hc k
  exact hm (hk as r' hs hl)

/-- For lists of the living that may come up, take all stretches of twice as many selections as the
factorial of the number of the registered, each with the living among these lists and a member alive
throughout. Every such stretch returns the member, exactly if one value of the cursor falls on it in
all these lists that have it. If so many selections are not enough, no number is. There is such a
value where the number of the living before the member is the same in all of them. -/
theorem served_iff_fallsOn (h : r.Sound) (F : List (String × Nat) → Prop) (m : String × Nat) :
    (Served r F m (2 * r.registry.size.factorial) ↔
        ∃ c, FallsOn r.registry.published F m c) ∧
      (∀ k, Served r F m k → Served r F m (2 * r.registry.size.factorial)) ∧
      ∀ c : UInt64, (∀ l, l.Sublist r.registry.published → F l → m ∈ l → l.idxOf m = c.toNat) →
        FallsOn r.registry.published F m c := by
  refine ⟨⟨exists_fallsOn_of_served h, fun ⟨c, hc⟩ => served_of_fallsOn h hc⟩, fun k hk => ?_,
    fun c hc l hsub hF hm => ?_⟩
  · obtain ⟨c, hc⟩ := exists_fallsOn_of_served h hk
    exact served_of_fallsOn h hc
  · have hi := List.idxOf_lt_length_of_mem hm
    rw [← hc l hsub hF hm, Nat.mod_eq_of_lt hi]
    exact List.getElem?_idxOf hm

end

/-- Three registered, under their addresses. -/
theorem exists_run_of_three :
    ∃ t r, Run {} t r ∧ r.registry.published = [("a:1", 0), ("b:1", 1), ("c:1", 2)] := by
  have h₀ : Run {} [] {} := .start
  have h₁ := (h₀.step (.call (.make (.rehearsed { address := "a:1" })))).step (.call (.register 0))
  have h₂ := (h₁.step (.call (.make (.rehearsed { address := "b:1" })))).step (.call (.register 1))
  have h₃ := (h₂.step (.call (.make (.rehearsed { address := "c:1" })))).step (.call (.register 2))
  exact ⟨_, _, h₃, by cbv⟩

/-- If the first and the last of three take turns, no value of the cursor falls on the one in the
middle each time: it would have to be odd and even. -/
theorem not_fallsOn_of_turns {F : List (String × Nat) → Prop}
    (hfirst : F [("a:1", 0), ("b:1", 1)]) (hlast : F [("b:1", 1), ("c:1", 2)]) :
    ¬ ∃ c, FallsOn [("a:1", 0), ("b:1", 1), ("c:1", 2)] F ("b:1", 1) c := by
  rintro ⟨c, hc⟩
  have h₁ := hc _ (by decide) hfirst (by decide)
  have h₂ := hc _ (by decide) hlast (by decide)
  rw [List.length_cons, List.length_singleton] at h₁ h₂
  rcases Nat.mod_two_eq_zero_or_one c.toNat with he | he
  · rw [he] at h₁
    revert h₁
    decide
  · rw [he] at h₂
    revert h₂
    decide

/-- While only the last of three comes and goes, the one in the middle is returned; if the first and
the last take turns, it starves. -/
theorem served_iff_fallsOn_of_three :
    ∃ r : Roster, r.Sound ∧ r.registry.published = [("a:1", 0), ("b:1", 1), ("c:1", 2)] ∧
      Served r (fun l => l = [("a:1", 0), ("b:1", 1)] ∨ l = [("a:1", 0), ("b:1", 1), ("c:1", 2)])
        ("b:1", 1) 12 ∧
      ∀ k, ¬ Served r (fun l => l = [("a:1", 0), ("b:1", 1)] ∨ l = [("b:1", 1), ("c:1", 2)])
        ("b:1", 1) k := by
  obtain ⟨t, r, hr, hp⟩ := exists_run_of_three
  have hs := hr.sound Roster.sound_empty
  have hsize : 2 * r.registry.size.factorial = 12 := by
    unfold Registry.size
    rw [hp]
    rfl
  refine ⟨r, hs, hp, ?_, ?_⟩
  · rw [← hsize]
    refine (served_iff_fallsOn hs _ _).1.mpr ⟨1, (served_iff_fallsOn hs _ _).2.2 1 ?_⟩
    rintro l - (rfl | rfl) -
    · decide
    · decide
  · intro k hk
    have hc := (served_iff_fallsOn hs _ _).1.mp ((served_iff_fallsOn hs _ _).2.1 k hk)
    rw [hp] at hc
    exact not_fallsOn_of_turns (.inl rfl) (.inr rfl) hc

/-- However many selections are allowed for, one of three endpoints can be alive throughout them and
be passed over. -/
theorem starvation_among_three :
    ¬ ∀ n, ∃ k, ∀ t r, Run {} t r → r.registry.size = n →
      ∀ m, Served r (fun _ => True) m k := by
  intro hall
  obtain ⟨k, hk⟩ := hall 3
  obtain ⟨t, r, hr, hp⟩ := exists_run_of_three
  have hsize : r.registry.size = 3 := congrArg List.length hp
  have hc := not_fallsOn_of_turns (F := fun _ => True) trivial trivial
  rw [← hp] at hc
  obtain ⟨as, r', hs, hl, hm⟩ := exists_spell_passing_over (hr.sound Roster.sound_empty) hc k
  exact hm (hk t r hr hsize _ as r' hs hl)

end RelayRoster
