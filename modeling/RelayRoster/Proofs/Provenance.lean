import RelayRoster.Proofs.Interleaving
import RelayRoster.Proofs.StartUp

namespace RelayRoster

/-- Whoever is bound by filling a book up was not made before. -/
theorem Book.made_le_of_fill {b : Book} {as : List String} {x : String} {id : Nat}
    (hfree : (b.bound x).isSome = false) (h : (b.fill as).bound x = some id) :
    b.made.length ≤ id := by
  induction as generalizing b with
  | nil =>
    change b.bound x = some id at h
    rw [h] at hfree
    cases hfree
  | cons a as ih =>
    cases ha : (b.bound a).isSome with
    | true => exact ih hfree (fill_cons_of_bound ha as ▸ h)
    | false =>
      rw [fill_cons_of_free ha] at h
      by_cases hx : x = a
      · have hnew : (b.enlist a).bound x = some b.made.length := by
          rw [bound_enlist_of_free ha, if_pos hx]
        exact (Option.some.inj ((bound_fill_of_bound hnew).symm.trans h)).le
      · have hstill : ((b.enlist a).bound x).isSome = false := by
          rw [bound_enlist_of_free ha, if_neg hx, hfree]
        have hmade : (b.enlist a).made.length = b.made.length + 1 := by
          rw [enlist_of_free (by simpa using ha)]
          exact List.length_append
        have := ih hstill h
        omega

/-- An address that was not registered before gets a relay made from the settings. -/
theorem Roster.align_of_new {r : Roster} (h : r.Sound) {c : Settings} {a : String} {id : Nat}
    (hnew : r.registry.contains a = false) (hget : (r.align c).2.registry.get? a = some id) :
    r.fleet.size ≤ id ∧
      (r.align c).2.fleet[id]? = some (.relay (.ofSettings c.health a)) := by
  have hs := h.align c
  have hid : r.fleet.size ≤ id := by
    have hkept : ((r.book.keep c.endpoints).bound a).isSome = false := by
      change (if a ∈ c.endpoints then r.book.bound a else none).isSome = false
      split
      · rw [book_bound_isSome, ← h.registry.contains_eq_taken, hnew]
      · rfl
    have hbound : ((r.book.keep c.endpoints).fill c.endpoints).bound a = some id := by
      change (r.book.align c.endpoints).bound a = some id
      rw [← book_align h]
      exact (hs.registry.get?_eq_lookup a).symm.trans hget
    exact (names_length r).ge.trans (Book.made_le_of_fill hkept hbound)
  refine ⟨hid, ?_⟩
  -- The relay under this number has the address that it is registered under.
  rw [hs.registry.get?_eq_lookup, Registry.lookup_eq_some_iff_mem hs.registry.keys] at hget
  have hname := hs.named _ hget
  rw [getElem?_names, Option.map_eq_some_iff] at hname
  obtain ⟨e, he, haddr⟩ := hname
  have hmade := he
  rw [← Array.getElem?_toList, align_fleet h, List.getElem?_append_right (by simpa using hid),
    List.getElem?_map, Option.map_eq_some_iff] at hmade
  obtain ⟨a', -, rfl⟩ := hmade
  rw [he]
  change a' = a at haddr
  rw [haddr]

namespace Move

/-- Whether a move is one of a roster in service, where endpoints come and go by reloads only. -/
def Serves : Move → Prop
  | .call (.make _) | .call (.change _ _) | .call (.register _) | .call (.deregister _) => False
  | _ => True

def reload? : Move → Option Settings
  | .call (.align c) => some c
  | _ => none

end Move

def settingsOf (c : Settings) (ms : List Move) : List Settings := c :: ms.filterMap Move.reload?

def inForce (c : Settings) (ms : List Move) : Settings :=
  (settingsOf c ms).getLast (List.cons_ne_nil _ _)

theorem settingsOf_concat_of_reload {m : Move} {c : Settings} (h : m.reload? = some c)
    (c₀ : Settings) (ms : List Move) : settingsOf c₀ (ms ++ [m]) = settingsOf c₀ ms ++ [c] := by
  simp [settingsOf, h]

theorem settingsOf_concat_of_none {m : Move} (h : m.reload? = none) (c₀ : Settings)
    (ms : List Move) : settingsOf c₀ (ms ++ [m]) = settingsOf c₀ ms := by
  simp [settingsOf, h]

theorem settingsOf_getLast? (c₀ : Settings) (ms : List Move) :
    (settingsOf c₀ ms).getLast? = some (inForce c₀ ms) :=
  List.getLast?_eq_getLast_of_ne_nil _

theorem inForce_concat_of_reload {m : Move} {c : Settings} (h : m.reload? = some c) (c₀ : Settings)
    (ms : List Move) : inForce c₀ (ms ++ [m]) = c := by
  unfold inForce
  simp only [settingsOf_concat_of_reload h, List.getLast_concat]

theorem inForce_concat_of_none {m : Move} (h : m.reload? = none) (c₀ : Settings) (ms : List Move) :
    inForce c₀ (ms ++ [m]) = inForce c₀ ms := by
  unfold inForce
  simp only [settingsOf_concat_of_none h]

/-- Whether the settings at a place of the list have an address that those before, if any, do not. -/
structure Introduces (cs : List Settings) (i : Nat) (a : String) : Prop where
  listed : ∃ c, cs[i]? = some c ∧ a ∈ c.endpoints
  missing : ∀ j c, i = j + 1 → cs[j]? = some c → a ∉ c.endpoints

def LastIntroduces (cs : List Settings) (i : Nat) (a : String) : Prop :=
  Introduces cs i a ∧ ∀ j, Introduces cs j a → j ≤ i

namespace Introduces

variable {cs : List Settings} {c : Settings} {i : Nat} {a : String}

theorem lt_length (h : Introduces cs i a) : i < cs.length := by
  obtain ⟨c, hc, -⟩ := h.listed
  exact (List.getElem?_eq_some_iff.mp hc).1

theorem concat_iff (hi : i < cs.length) : Introduces (cs ++ [c]) i a ↔ Introduces cs i a := by
  have hget {j : Nat} (hj : j < cs.length) : (cs ++ [c])[j]? = cs[j]? :=
    List.getElem?_append_left hj
  constructor
  · rintro ⟨hl, hm⟩
    rw [hget hi] at hl
    exact ⟨hl, fun j c' hj hc' => hm j c' hj ((hget (by omega)).trans hc')⟩
  · rintro ⟨hl, hm⟩
    refine ⟨(hget hi).symm ▸ hl, fun j c' hj hc' => hm j c' hj ?_⟩
    rwa [hget (by omega)] at hc'

theorem last_iff {p : Settings} (hp : cs.getLast? = some p) :
    Introduces (cs ++ [c]) cs.length a ↔ a ∈ c.endpoints ∧ a ∉ p.endpoints := by
  have hlast : (cs ++ [c])[cs.length]? = some c := List.getElem?_concat_length
  have hpos : 0 < cs.length := List.length_pos_iff.mpr fun h => by simp [h] at hp
  have hprev : (cs ++ [c])[cs.length - 1]? = some p := by
    rw [List.getElem?_append_left (by omega), ← List.getLast?_eq_getElem?, hp]
  constructor
  · rintro ⟨⟨c', hc', ha⟩, hm⟩
    rw [hlast] at hc'
    cases hc'
    exact ⟨ha, hm _ p (by omega) hprev⟩
  · rintro ⟨ha, hm⟩
    refine ⟨⟨c, hlast, ha⟩, fun j c' hj hc' => ?_⟩
    obtain rfl : j = cs.length - 1 := by omega
    rw [hprev] at hc'
    cases hc'
    exact hm

end Introduces

namespace LastIntroduces

variable {cs : List Settings} {c p : Settings} {i : Nat} {a : String}

/-- An address that is listed once more stays introduced where it was. -/
theorem concat_of_listed (h : LastIntroduces cs i a) (hp : cs.getLast? = some p)
    (ha : a ∈ p.endpoints) : LastIntroduces (cs ++ [c]) i a := by
  have hi := h.1.lt_length
  refine ⟨(Introduces.concat_iff hi).mpr h.1, fun j hj => ?_⟩
  have hlt := hj.lt_length
  rw [List.length_append, List.length_singleton] at hlt
  by_cases hjl : j < cs.length
  · exact h.2 j ((Introduces.concat_iff hjl).mp hj)
  · obtain rfl : j = cs.length := by omega
    exact absurd ha ((Introduces.last_iff hp).mp hj).2

theorem concat_of_missing (hp : cs.getLast? = some p) (ha : a ∈ c.endpoints)
    (hm : a ∉ p.endpoints) : LastIntroduces (cs ++ [c]) cs.length a := by
  refine ⟨(Introduces.last_iff hp).mpr ⟨ha, hm⟩, fun j hj => ?_⟩
  have hlt := hj.lt_length
  rw [List.length_append, List.length_singleton] at hlt
  omega

end LastIntroduces

/-- A probe adds what it finds out, if its number is somebody's. -/
theorem Roster.Remembers.probe {r : Roster} {bs : List Relay} {past : Nat → List Outcome}
    (h : r.Remembers bs past) (net : Network) (i : Nat) :
    (Roster.probe net r i).2.Remembers bs fun id => past id ++
      if i = id then ((Roster.probe net r i).1.bind fun p => outcomeOf? p.result).toList
      else [] := by
  cases he : r.fleet[i]? with
  | none =>
    rw [probe_of_none he]
    simpa using h
  | some e =>
    have hp := h.probed he net
    rw [probe_of_some he] at hp ⊢
    exact hp

namespace Scene

/-- The endpoint that a sweep under way probes next, and the time that its probes took so far. -/
def next? (s : Scene) (k : Nat) : Option (Nat × Duration) :=
  match s.flights[k]? with
  | some ⟨m :: _, none, w⟩ => some (m.2, w.elapsed)
  | _ => none

def probeOutcomes (s : Scene) (k : Nat) (net : Network) (id : Nat) : List Outcome :=
  match s.next? k with
  | some (i, d) =>
    if i = id then
      ((Roster.probe (net.later d) s.roster i).1.bind fun p => outcomeOf? p.result).toList
    else []
  | none => []

/-- What a move finds out about an endpoint. -/
def outcomes (s : Scene) : Move → Nat → List Outcome
  | .probe k net, id => s.probeOutcomes k net id
  | _, _ => []

def past (s : Scene) : List Move → Nat → List Outcome
  | [], _ => []
  | m :: ms, id => s.outcomes m id ++ (s.step m).past ms id

theorem past_concat (s : Scene) (ms : List Move) (m : Move) (id : Nat) :
    s.past (ms ++ [m]) id = s.past ms id ++ (s.run ms).outcomes m id := by
  induction ms generalizing s with
  | nil => exact List.append_nil _
  | cons m' ms ih => exact (congrArg (_ ++ ·) (ih (s.step m'))).trans (List.append_assoc ..).symm

theorem probe_roster (s : Scene) (k : Nat) (net : Network) :
    (s.probe k net).roster =
      (s.next? k).elim s.roster fun n => (Roster.probe (net.later n.2) s.roster n.1).2 := by
  unfold Scene.probe next?
  rcases s.flights[k]? with _ | ⟨_ | ⟨m, ms⟩, _ | u, w⟩
  case some.cons.none =>
    dsimp only [Option.elim]
    generalize Roster.probe (net.later w.elapsed) s.roster m.2 = d
    obtain ⟨_ | p, r⟩ := d
    · rfl
    · dsimp only
      split <;> rfl
  all_goals rfl

theorem past_rounds_of_done {s : Scene} {k : Nat} {w : Sweep}
    (h : s.flights[k]? = some ⟨[], none, w⟩) (net : Network) (n id : Nat) :
    s.past (rounds k net n) id = [] := by
  have hnext : s.next? k = none := by
    unfold next?
    rw [h]
  induction n with
  | zero => rfl
  | succ n ih =>
    change s.probeOutcomes k net id ++
      (((s.probe k net).settle k).past (rounds k net n) id) = []
    rw [probe_of_done h, settle_of_settled h, ih, List.append_nil]
    unfold probeOutcomes
    rw [hnext]

theorem past_rounds (net : Network) (fs : List Flight) (ms : List (String × Nat)) (w : Sweep)
    (r : Roster) (id : Nat) :
    w.outcomes id ++ (Scene.mk r (fs ++ [⟨ms, none, w⟩])).past (rounds fs.length net ms.length) id =
      (Roster.sweepOver net ms w r).1.outcomes id := by
  have hget (r : Roster) (f : Flight) :
      (Scene.mk r (fs ++ [f])).flights[fs.length]? = some f := List.getElem?_concat_length
  have hset (f f' : Flight) : (fs ++ [f]).set fs.length f' = fs ++ [f'] := by simp
  -- The sweep under way is the last flight, and its members drive both sides.
  induction ms generalizing w r with
  | nil => exact List.append_nil _
  | cons m ms ih =>
    have hnext : (Scene.mk r (fs ++ [⟨m :: ms, none, w⟩])).next? fs.length =
        some (m.2, w.elapsed) := by
      unfold next?
      rw [hget]
    change w.outcomes id ++ ((Scene.mk r (fs ++ [⟨m :: ms, none, w⟩])).probeOutcomes fs.length net id ++
      (((Scene.mk r (fs ++ [⟨m :: ms, none, w⟩])).probe fs.length net).settle fs.length).past
        (rounds fs.length net ms.length) id) = _
    unfold probeOutcomes
    rw [hnext]
    dsimp only
    cases he : r.fleet[m.2]? with
    | none =>
      rw [probe_of_none (hget _ _) he, hset, settle_of_settled (hget _ _),
        Roster.sweepOver_of_none he, Roster.probe_of_none he, ← ih]
      simp
    | some e =>
      rw [Roster.probe_of_some he]
      dsimp only [Option.bind_some]
      rw [← List.append_assoc, ← Sweep.outcomes_note]
      cases hr : (e.probe (net.later w.elapsed)).result with
      | error b =>
        rw [probe_of_breakdown (hget _ _) he hr, hset, settle_of_settled (hget _ _),
          past_rounds_of_done (hget _ _), List.append_nil, Roster.sweepOver_of_breakdown he hr]
        rfl
      | ok result =>
        rw [probe_of_result (hget _ _) he hr, hset, settle_of_unsettled (hget _ _), hset,
          Roster.sweepOver_of_result he hr, ← ih]
        rfl

theorem past_sweep (s : Scene) (net : Network) (id : Nat) :
    s.past (.begin :: rounds s.flights.length net s.roster.registry.published.length) id =
      (s.roster.sweep net).1.outcomes id :=
  past_rounds net s.flights s.roster.registry.published {} s.roster id

section

variable {s : Scene} {bs : List Relay} {past : Nat → List Outcome}

/-- A probe of relays leaves the registry alone. -/
theorem remembers_probe (h : s.roster.Remembers bs past) (k : Nat) (net : Network) :
    (s.probe k net).roster.Remembers bs (fun id => past id ++ s.probeOutcomes k net id) ∧
      (s.probe k net).roster.registry = s.roster.registry := by
  rw [probe_roster]
  unfold probeOutcomes
  cases s.next? k with
  | none =>
    simp only [List.append_nil]
    exact ⟨h, rfl⟩
  | some n => exact ⟨h.probe _ n.1, (h.alike_probe _ n.1).registry⟩

theorem remembers_settle (h : s.roster.Remembers bs past) (k : Nat) :
    (s.settle k).roster.Remembers bs past ∧
      (s.settle k).roster.registry = s.roster.registry := by
  unfold Scene.settle
  split
  next m result w _ =>
    exact ⟨h.settle m result, (Roster.alike_settle s.roster m result).registry⟩
  next => exact ⟨h, rfl⟩

/-- A move of a roster in service adds to the past what it finds out, and only a reload makes relays
or touches the registry. -/
theorem remembers_step (h : s.roster.Remembers bs past) {m : Move} (hm : m.Serves) :
    (∃ cs, (s.step m).roster.Remembers (bs ++ cs) fun id => past id ++ s.outcomes m id) ∧
      (m.reload? = none → (s.step m).roster.registry = s.roster.registry) := by
  have hnew {r : Roster} {past : Nat → List Outcome} (h : r.Remembers bs past) :
      ∃ cs, r.Remembers (bs ++ cs) past := ⟨[], (List.append_nil bs).symm ▸ h⟩
  have hidle {m : Move} (hn : s.outcomes m = fun _ => []) :
      (fun id => past id ++ s.outcomes m id) = past := by
    rw [hn]
    exact funext fun id => List.append_nil _
  -- Only a probe finds something out, and only a reload makes relays.
  cases m with
  | probe k net => exact (remembers_probe h k net).imp hnew fun hr _ => hr
  | begin =>
    rw [hidle rfl]
    exact ⟨hnew h, fun _ => rfl⟩
  | settle k =>
    rw [hidle rfl]
    exact (remembers_settle h k).imp hnew fun hr _ => hr
  | call c =>
    rw [hidle rfl]
    have hk : (Step.call c).KeepsToRelays := by
      -- A call that makes or changes endpoints on its own is none of a roster in service.
      cases c with
      | make _ | change _ _ | register _ | deregister _ => exact hm.elim
      | _ => trivial
    refine ⟨⟨_, h.call hk⟩, fun hr => ?_⟩
    cases c with
    | make _ | change _ _ | register _ | deregister _ => exact hm.elim
    | align c => cases hr
    | select => exact (Roster.alike_select s.roster).registry
    | aliveMembers => exact (Roster.alike_aliveMembers s.roster).registry
    | members | get _ | contains _ | addresses | size | isEmpty => rfl

end

end Scene

def Roster.serve (r : Roster) (ms : List Move) : Scene := Scene.run { roster := r } ms

theorem Roster.serve_concat (r : Roster) (ms : List Move) (m : Move) :
    r.serve (ms ++ [m]) = (r.serve ms).step m :=
  Scene.run_concat _ ms m

def Roster.past (r : Roster) (ms : List Move) : Nat → List Outcome :=
  Scene.past { roster := r } ms

/-- The start-up or a reload of a run: its place among them, its settings, how many endpoints were
made before it, the scene that it leaves and the moves from there on. -/
inductive Stage (c₀ : Settings) (r₀ : Roster) (ms : List Move) :
    Nat → Settings → Nat → Scene → List Move → Prop
  | startUp : Stage c₀ r₀ ms 0 c₀ 0 { roster := r₀ } ms
  | reload {before since : List Move} {c : Settings}
      (h : ms = before ++ .call (.align c) :: since) :
      Stage c₀ r₀ ms (settingsOf c₀ before).length c
        (r₀.serve before).roster.fleet.size
        (r₀.serve (before ++ [.call (.align c)])) since

namespace Stage

variable {c₀ c : Settings} {r₀ : Roster} {ms since : List Move} {i born : Nat} {s : Scene}

theorem concat (h : Stage c₀ r₀ ms i c born s since) (m : Move) :
    Stage c₀ r₀ (ms ++ [m]) i c born s (since ++ [m]) := by
  cases h with
  | startUp => exact .startUp
  | @reload before _ _ h =>
    subst h
    exact .reload (List.append_assoc before _ _)

theorem run_eq (h : Stage c₀ r₀ ms i c born s since) :
    s.run since = r₀.serve ms := by
  cases h with
  | startUp => rfl
  | @reload before _ _ h =>
    subst h
    unfold Roster.serve Scene.run
    rw [← List.foldl_append, List.append_assoc]
    rfl

theorem getElem? (h : Stage c₀ r₀ ms i c born s since) : (settingsOf c₀ ms)[i]? = some c := by
  cases h with
  | startUp => rfl
  | @reload before since _ h =>
    subst h
    have hs : settingsOf c₀ (before ++ .call (.align c) :: since) =
        settingsOf c₀ before ++ c :: since.filterMap Move.reload? := by
      simp [settingsOf, Move.reload?]
    simp [hs]

end Stage

/-- Whether an address was introduced last by the stage that made the relay under this number, from
its own settings; all that is known of the relay was found out since. -/
def Origin (c₀ : Settings) (r₀ : Roster) (ms : List Move) (bs : List Relay) (a : String)
    (id : Nat) : Prop :=
  ∃ i c born s since, Stage c₀ r₀ ms i c born s since ∧ LastIntroduces (settingsOf c₀ ms) i a ∧
    (born ≤ id ∧ id < s.roster.fleet.size) ∧ bs[id]? = some (.ofSettings c.health a) ∧
    r₀.past ms id = s.past since id

/-- What a run tells about its roster: which addresses are registered, and where their relays come
from. -/
structure Traced (c₀ : Settings) (r₀ : Roster) (ms : List Move) (bs : List Relay) : Prop where
  remembers : (r₀.serve ms).roster.Remembers bs (r₀.past ms)
  registered : ∀ a, (r₀.serve ms).roster.registry.contains a = true ↔
    a ∈ (inForce c₀ ms).endpoints
  origin : ∀ a id, (r₀.serve ms).roster.registry.get? a = some id → Origin c₀ r₀ ms bs a id

section

variable {c₀ : Settings} {r₀ : Roster} {ms : List Move} {bs : List Relay}

theorem Roster.past_concat (r : Roster) (ms : List Move) (m : Move) (id : Nat) :
    r.past (ms ++ [m]) id = r.past ms id ++ (r.serve ms).outcomes m id :=
  Scene.past_concat _ ms m id

theorem Origin.concat {a : String} {id : Nat} (h : Origin c₀ r₀ ms bs a id) (m : Move)
    (cs : List Relay) (hlast : ∀ i, LastIntroduces (settingsOf c₀ ms) i a →
      LastIntroduces (settingsOf c₀ (ms ++ [m])) i a) :
    Origin c₀ r₀ (ms ++ [m]) (bs ++ cs) a id := by
  obtain ⟨i, c, born, s, since, hstage, hi, hid, hrelay, hpast⟩ := h
  refine ⟨i, c, born, s, since ++ [m], hstage.concat m, hlast i hi, hid, ?_, ?_⟩
  · rwa [List.getElem?_append_left (List.getElem?_eq_some_iff.mp hrelay).1]
  · rw [Roster.past_concat, Scene.past_concat, hpast, hstage.run_eq]

theorem Traced.start (hb : Roster.build c₀ {} = (.ok (), r₀)) :
    Traced c₀ r₀ [] (c₀.endpoints.map (.ofSettings c₀.health)) := by
  have hok : (Roster.build c₀ {}).1 = .ok () := congrArg Prod.fst hb
  have hbuilt : r₀.Built c₀ 0 := by
    have h := Roster.built_of_ok hok
    rwa [hb] at h
  have hreg (a : String) : r₀.registry.contains a = true ↔ a ∈ c₀.endpoints := by
    rw [hbuilt.sound.registry.contains_eq_taken, ← hbuilt.sound.registry.mem_addresses]
    exact hbuilt.addresses.mem_iff
  refine ⟨Roster.remembers_of_build rfl hb, hreg, fun a id hget => ?_⟩
  have ha : a ∈ c₀.endpoints := (hreg a).mp (Option.isSome_iff_exists.mpr ⟨id, hget⟩)
  obtain ⟨i, hi⟩ := List.mem_iff_getElem?.mp ha
  obtain ⟨hid, hfleet⟩ := hbuilt.relay i a hi
  rw [Nat.zero_add] at hid hfleet
  obtain rfl : i = id := Option.some.inj (hid.symm.trans hget)
  refine ⟨0, c₀, 0, _, [], .startUp, ⟨⟨⟨c₀, rfl, ha⟩, nofun⟩, fun j hj => ?_⟩, ⟨Nat.zero_le i,
    (Array.getElem?_eq_some_iff.mp hfleet).1⟩, ?_, rfl⟩
  · exact Nat.le_of_lt_succ hj.lt_length
  · rw [List.getElem?_map, hi]
    rfl

namespace Traced

variable (h : Traced c₀ r₀ ms bs)
include h

theorem exists_remembers {m : Move} (hm : m.Serves) :
    ∃ cs, (r₀.serve (ms ++ [m])).roster.Remembers (bs ++ cs) (r₀.past (ms ++ [m])) := by
  obtain ⟨cs, hrem⟩ := (Scene.remembers_step h.remembers hm).1
  refine ⟨cs, ?_⟩
  rw [Roster.serve_concat]
  simpa only [← Roster.past_concat] using hrem

/-- A move that is no reload leaves every address with its relay. -/
theorem keep {m : Move} (hm : m.Serves) (hr : m.reload? = none) :
    ∃ cs, Traced c₀ r₀ (ms ++ [m]) (bs ++ cs) := by
  obtain ⟨cs, hrem⟩ := h.exists_remembers hm
  have hreg : (r₀.serve (ms ++ [m])).roster.registry = (r₀.serve ms).roster.registry := by
    rw [Roster.serve_concat]
    exact (Scene.remembers_step h.remembers hm).2 hr
  refine ⟨cs, hrem, fun a => ?_, fun a id hget => ?_⟩
  · rw [hreg, inForce_concat_of_none hr]
    exact h.registered a
  · rw [hreg] at hget
    exact (h.origin a id hget).concat m cs fun i hi => (settingsOf_concat_of_none hr c₀ ms).symm ▸ hi

/-- A reload keeps the relays of addresses that stay, and makes new ones for those that come. -/
theorem reload (c : Settings) : ∃ cs, Traced c₀ r₀ (ms ++ [.call (.align c)]) (bs ++ cs) := by
  obtain ⟨cs, hrem⟩ := h.exists_remembers (m := .call (.align c)) trivial
  have hsound := h.remembers.sound
  have hset : settingsOf c₀ (ms ++ [.call (.align c)]) = settingsOf c₀ ms ++ [c] :=
    settingsOf_concat_of_reload rfl c₀ ms
  have hlast := settingsOf_getLast? c₀ ms
  have hstep : (r₀.serve (ms ++ [.call (.align c)])).roster = ((r₀.serve ms).roster.align c).2 :=
    congrArg Scene.roster (Roster.serve_concat r₀ ms _)
  have hreg (a : String) : (r₀.serve (ms ++ [.call (.align c)])).roster.registry.contains a = true ↔
      a ∈ c.endpoints := by
    rw [hstep]
    exact Roster.align_contains hsound c a
  refine ⟨cs, hrem, fun a => by rw [inForce_concat_of_reload rfl, hreg], fun a id hget => ?_⟩
  have ha : a ∈ c.endpoints := (hreg a).mp (Option.isSome_iff_exists.mpr ⟨id, hget⟩)
  by_cases hold : a ∈ (inForce c₀ ms).endpoints
  · obtain ⟨id', hget'⟩ := Option.isSome_iff_exists.mp ((h.registered a).mpr hold)
    have hkept := (Roster.align_keeps hsound ha hget').1
    rw [hstep, hkept] at hget
    cases hget
    exact (h.origin a id hget').concat _ cs fun i hi => hset.symm ▸ hi.concat_of_listed hlast hold
  · have hnew : (r₀.serve ms).roster.registry.contains a = false :=
      Bool.eq_false_iff.mpr fun hc => hold ((h.registered a).mp hc)
    rw [hstep] at hget
    obtain ⟨hid, hfleet⟩ := Roster.align_of_new hsound hnew hget
    rw [← hstep] at hfleet
    -- Nobody had this number before, so nothing was found out about it.
    have hpast : r₀.past (ms ++ [.call (.align c)]) id = [] := by
      rw [Roster.past_concat, h.remembers.unborn id (h.remembers.length_eq ▸ hid)]
      rfl
    refine ⟨_, c, _, _, [], .reload rfl, ?_, ⟨hid, (Array.getElem?_eq_some_iff.mp hfleet).1⟩, ?_,
      hpast⟩
    · rw [hset]
      exact .concat_of_missing hlast ha hold
    · rw [hrem.fleet, hpast, Option.map_eq_some_iff] at hfleet
      obtain ⟨b, hb, hrelay⟩ := hfleet
      exact hb.trans (congrArg some (Endpoint.relay.inj hrelay))

end Traced

theorem exists_traced (hb : Roster.build c₀ {} = (.ok (), r₀)) (hm : ∀ m ∈ ms, m.Serves) :
    ∃ bs, Traced c₀ r₀ ms bs := by
  induction ms using List.reverseRecOn with
  | nil => exact ⟨_, .start hb⟩
  | append_singleton ms m ih =>
    rw [List.forall_mem_append] at hm
    obtain ⟨bs, h⟩ := ih hm.1
    cases hr : m.reload? with
    | none => exact (h.keep (hm.2 m (List.mem_singleton_self m)) hr).imp' (bs ++ ·) fun _ => id
    | some c =>
      obtain rfl : m = .call (.align c) := by
        unfold Move.reload? at hr
        split at hr
        · cases hr
          rfl
        · cases hr
      exact (h.reload c).imp' (bs ++ ·) fun _ => id

end

/-- However a roster in service was reloaded, swept and asked: its addresses are those of the last
settings, in ascending order, as in a roster built from these afresh. The relay under an address was
made by the start-up or reload that introduced the address last, from the settings of that stage, and
has the health that it got from its own probes since. -/
theorem origin_of_registered {c₀ : Settings} {r₀ : Roster}
    (hb : Roster.build c₀ {} = (.ok (), r₀)) {ms : List Move} (hm : ∀ m ∈ ms, m.Serves) :
    (∀ a, a ∈ (r₀.serve ms).roster.registry.addresses ↔ a ∈ (inForce c₀ ms).endpoints) ∧
    (r₀.serve ms).roster.registry.addresses.Pairwise
      (fun a b => Text.bytes a < Text.bytes b) ∧
    ((inForce c₀ ms).endpoints.Nodup → ∀ r, (Roster.build (inForce c₀ ms) r).1 = .ok () ∧
      (Roster.build (inForce c₀ ms) r).2.registry.addresses =
        (r₀.serve ms).roster.registry.addresses) ∧
    ∀ a ∈ (inForce c₀ ms).endpoints, ∃ i c born s since id,
      Stage c₀ r₀ ms i c born s since ∧ LastIntroduces (settingsOf c₀ ms) i a ∧
      (r₀.serve ms).roster.registry.get? a = some id ∧ (born ≤ id ∧ id < s.roster.fleet.size) ∧
      (r₀.serve ms).roster.fleet[id]? = some (.relay (Relay.after
        { address := a
          timeout := ⟨c.health.timeout.toNat * 1000000000⟩
          tracker := ⟨.unknown, 0, 0, max c.health.healthyThreshold.toUInt64 1,
            max c.health.unhealthyThreshold.toUInt64 1⟩ }
        (s.past since id))) := by
  obtain ⟨bs, h⟩ := exists_traced hb hm
  have hreg := h.remembers.sound.registry
  have hmem (a : String) : a ∈ (r₀.serve ms).roster.registry.addresses ↔
      a ∈ (inForce c₀ ms).endpoints := by
    rw [hreg.mem_addresses, ← hreg.contains_eq_taken, h.registered]
  refine ⟨hmem, hreg.addresses_sorted.imp fun hl => (Text.lt_iff_bytes_lt _ _).mp hl,
    fun hn r => ?_, fun a ha => ?_⟩
  · have hok := (Roster.build_fst_eq_ok_iff (r := r)).mpr hn
    have hbuilt := Roster.built_of_ok hok
    refine ⟨hok, hbuilt.sound.registry.addresses_sorted.eq_of_mem_iff hreg.addresses_sorted
      fun a => ?_⟩
    rw [hbuilt.addresses.mem_iff, hmem]
  · obtain ⟨id, hget⟩ := Option.isSome_iff_exists.mp ((h.registered a).mpr ha)
    obtain ⟨i, c, born, s, since, hstage, hi, hid, hrelay, hpast⟩ := h.origin a id hget
    refine ⟨i, c, born, s, since, id, hstage, hi, hget, hid, ?_⟩
    rw [h.remembers.fleet, hrelay, hpast]
    rfl

/-- An endpoint is swept, leaves at a reload and comes back at the next one with other health settings.
Its neighbour stays. -/
def comeBack : List Move :=
  [.begin, .probe 0 {}, .settle 0, .call (.align { endpoints := ["b:1"] }), .call .select,
    .call (.align { endpoints := ["b:1", "a:1"], health := { unhealthyThreshold := 5 } })]

/-- The relay under the address is a new one, made from the settings that brought it back. -/
theorem origin_of_registered_of_return :
    ∃ r₀, Roster.build { endpoints := ["a:1", "b:1"] } {} = (.ok (), r₀) ∧
      (∀ m ∈ comeBack, m.Serves) ∧ r₀.registry.get? "a:1" = some 0 ∧
      (r₀.serve comeBack).roster.registry.get? "a:1" = some 2 ∧
      ∃ os, (r₀.serve comeBack).roster.fleet[2]? =
        some (.relay (Relay.after ⟨"a:1", ⟨5000000000⟩, ⟨.unknown, 0, 0, 2, 5⟩⟩ os)) := by
  have hok : (Roster.build { endpoints := ["a:1", "b:1"] } {}).1 = .ok () :=
    Roster.build_fst_eq_ok_iff.mpr (by decide)
  have hb : Roster.build { endpoints := ["a:1", "b:1"] } {} =
      (.ok (), (Roster.build { endpoints := ["a:1", "b:1"] } {}).2) := Prod.ext hok rfl
  have hm : ∀ m ∈ comeBack, m.Serves := by simp [comeBack, Move.Serves]
  have hid : ((Roster.build { endpoints := ["a:1", "b:1"] } {}).2.serve comeBack).roster.registry.get?
      "a:1" = some 2 := by cbv
  refine ⟨_, hb, hm, by cbv, hid, ?_⟩
  have ha : "a:1" ∈ (inForce { endpoints := ["a:1", "b:1"] } comeBack).endpoints :=
    List.mem_cons_of_mem _ (List.mem_singleton_self _)
  obtain ⟨i, c, born, s, since, id, hstage, hi, hget, -, hfleet⟩ :=
    (origin_of_registered hb hm).2.2.2 "a:1" ha
  obtain rfl : 2 = id := Option.some.inj (hid.symm.trans hget)
  -- The last settings list the address again, so no earlier stage is the one.
  have hlast : Introduces (settingsOf { endpoints := ["a:1", "b:1"] } comeBack) 2 "a:1" := by
    refine ⟨⟨_, rfl, ha⟩, fun j c hj hc => ?_⟩
    obtain rfl : j = 1 := by omega
    cases hc
    decide
  obtain rfl : i = 2 := Nat.le_antisymm (Nat.le_of_lt_succ hi.1.lt_length) (hi.2 2 hlast)
  have hc := hstage.getElem?
  cases hc
  exact ⟨_, hfleet⟩

end RelayRoster
