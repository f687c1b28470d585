import Mathlib
import RelayRoster.Proofs.Alignment
import RelayRoster.Proofs.Interleaving
import RelayRoster.Proofs.Selection

namespace RelayRoster

namespace Metrics

theorem get?_set (m : Metrics) (s s' : Series) (n : Nat) :
    (m.set s n).get? s' = if s' = s then some n else m.get? s' := by
  change ((s, n) :: m.values.filter (·.1 ≠ s)).lookup s' = if s' = s then some n else m.values.lookup s'
  rw [List.lookup_cons]
  by_cases hs : s' = s
  · simp [hs]
  · rw [beq_false_of_ne hs, if_neg hs]
    exact (lookup_filter_ne _ _ _).trans (if_neg hs)

theorem get?_set_of_ne {s s' : Series} (h : s' ≠ s) (m : Metrics) (n : Nat) :
    (m.set s n).get? s' = m.get? s' := (get?_set m s s' n).trans (if_neg h)

theorem get?_setAlive (m : Metrics) (a b : String) (alive : Bool) :
    (m.setAlive a alive).get? (.healthy b) =
      if b = a then some (if alive then 1 else 0) else m.get? (.healthy b) := by
  unfold setAlive
  rw [get?_set]
  exact if_congr (by simp) rfl rfl

end Metrics

namespace Roster

/-- No address that is not registered is measured as alive. -/
def NoGhosts (r : Roster) : Prop :=
  ∀ a n, r.registry.taken a = false → r.metrics.get? (.healthy a) = some n → n = 0

theorem readAlive_metrics (id : Nat) (r : Roster) : (readAlive id r).2.metrics = r.metrics := by
  unfold readAlive
  split <;> rfl

/-- What is answered depends on the endpoint alone. -/
theorem readAlive_fst_congr {r r' : Roster} (h : r'.fleet = r.fleet) (id : Nat) :
    (readAlive id r').1 = (readAlive id r).1 :=
  readAlive_fst_of_fleet (congrArg (·[id]?) h)

theorem noGhosts_empty : NoGhosts {} := by
  intro a n _ hn
  cases hn

namespace NoGhosts

variable {r r' : Roster}

theorem of_same (h : r.NoGhosts) (ht : ∀ a, r.registry.taken a = true → r'.registry.taken a = true)
    (hm : ∀ a, r'.metrics.get? (.healthy a) = r.metrics.get? (.healthy a)) : r'.NoGhosts := by
  intro a n ha hn
  refine h a n ?_ ((hm a).symm.trans hn)
  by_contra hc
  rw [ht a (by simpa using hc)] at ha
  cases ha

theorem of_eq (h : r.NoGhosts) (hr : r'.registry = r.registry) (hm : r'.metrics = r.metrics) :
    r'.NoGhosts := h.of_same (fun _ ha => hr ▸ ha) fun _ => by rw [hm]

theorem readAlive (h : r.NoGhosts) (id : Nat) : (Roster.readAlive id r).2.NoGhosts :=
  h.of_eq (alike_readAlive id r).registry (readAlive_metrics id r)

theorem aliveAmong (h : r.NoGhosts) (ms : List (String × Nat)) :
    (Roster.aliveAmong ms r).2.NoGhosts := by
  induction ms generalizing r with
  | nil => exact h
  | cons m ms ih => exact ih (h.readAlive m.2)

theorem select (h : r.NoGhosts) : r.select.2.NoGhosts := by
  have hc : r.choice.2.2.NoGhosts :=
    Rotation.pick_keeps (P := NoGhosts) (fun _ _ hs => hs.readAlive _)
      ((h.aliveAmong r.registry.published).of_eq rfl rfl)
  rw [select_eq]
  split
  · exact hc.of_same (fun _ ha => ha) fun _ => Metrics.get?_set_of_ne (by simp) _ _
  · exact hc.of_same (fun _ ha => ha) fun _ => Metrics.get?_set_of_ne (by simp) _ _

theorem register (h : r.NoGhosts) (id : Nat) : (r.register id).2.NoGhosts := by
  cases he : r.fleet[id]? with
  | none => rw [register_of_none he]; exact h
  | some e =>
    cases ht : r.registry.taken e.address with
    | true => rw [register_of_taken he ht]; exact h
    | false =>
      rw [register_of_free he ht]
      -- Whoever was registered still is, and a registration writes no gauge of an address.
      refine h.of_same (fun a ha => ?_) fun _ => Metrics.get?_set_of_ne (by simp) _ _
      rw [Registry.taken_eq_isSome] at ha ⊢
      rw [Registry.lookup_insert]
      split
      · rfl
      · exact ha

theorem make (h : r.NoGhosts) (e : Endpoint) : (r.make e).2.NoGhosts := h.of_eq rfl rfl

theorem enlist (h : r.NoGhosts) (e : Endpoint) : (r.enlist e).2.NoGhosts := (h.make e).register _

/-- Taking an address off brings its gauge down. -/
theorem deregister (h : r.NoGhosts) (a : String) : (r.deregister a).2.NoGhosts := by
  cases ht : r.registry.taken a with
  | false => rw [deregister_of_free ht]; exact h
  | true =>
    rw [deregister_of_taken ht]
    intro b n hb hn
    rw [Registry.taken_eq_isSome, Registry.lookup_erase] at hb
    rw [Metrics.get?_setAlive, Metrics.get?_set_of_ne (by simp)] at hn
    by_cases hba : b = a
    · rw [if_pos hba] at hn
      exact (Option.some.inj hn).symm
    · rw [if_neg hba] at hb hn
      exact h b n ((Registry.taken_eq_isSome _ _).trans hb) hn

theorem edit (h : r.NoGhosts) (c : Edit) : (r.edit c).NoGhosts := by
  cases c with
  | remove a => exact h.deregister a
  | add a => exact h.enlist _
  | register id => exact h.register id

theorem foldl_edit (h : r.NoGhosts) (cs : List Edit) : (cs.foldl Roster.edit r).NoGhosts := by
  induction cs generalizing r with
  | nil => exact h
  | cons c cs ih => exact ih (h.edit c)

theorem probe (h : r.NoGhosts) (net : Network) (id : Nat) :
    (Roster.probe net r id).2.NoGhosts := by
  cases he : r.fleet[id]? with
  | none => rw [probe_of_none he]; exact h
  | some e =>
    have hp : ({ r with fleet := r.fleet.setIfInBounds id (e.probe net).endpoint }.reportAll
        (e.probe net).events).NoGhosts := h.of_eq rfl rfl
    rw [probe_of_some he]
    exact hp.foldl_edit _

theorem removeUnwanted (h : r.NoGhosts) (wanted as : List String) :
    (Roster.removeUnwanted wanted as r).2.NoGhosts := by
  induction as generalizing r with
  | nil => exact h
  | cons a as ih =>
    by_cases ha : a ∈ wanted
    · rw [removeUnwanted_of_wanted ha]; exact ih h
    · rw [removeUnwanted_of_unwanted ha]; exact ih (h.deregister a)

theorem addMissing (h : r.NoGhosts) (health : HealthSettings) (as : List String) :
    (Roster.addMissing health as r).2.NoGhosts := by
  induction as generalizing r with
  | nil => exact h
  | cons a as ih =>
    unfold Roster.addMissing
    split
    · exact ih h
    · apply ih
      have he := h.enlist (.relay (.ofSettings health a))
      split
      · exact he
      · exact he.of_eq rfl rfl

theorem align (h : r.NoGhosts) (s : Settings) : (r.align s).2.NoGhosts :=
  ((h.removeUnwanted s.endpoints r.registry.addresses).addMissing s.health s.endpoints).of_eq rfl rfl

theorem call (h : r.NoGhosts) (c : Call) : (r.call c).2.NoGhosts := by
  cases c with
  | make e => exact h.make e
  | change id e =>
    unfold Roster.call
    dsimp only
    split
    · exact h.of_eq rfl rfl
    · exact h
  | register id => rw [call_register_snd]; exact h.register id
  | deregister a => exact h.deregister a
  | select => exact h.select
  | aliveMembers => exact h.aliveAmong _
  | align s => exact h.align s
  | members | get _ | contains _ | addresses | size | isEmpty => exact h

end NoGhosts

theorem settle_gauge (r : Roster) (m : String × Nat) (result : Except ProbeFailure Unit)
    (a : String) :
    (r.settle m result).metrics.get? (.healthy a) =
      if a = m.1 then some (if (readAlive m.2 r).1 then 1 else 0)
      else r.metrics.get? (.healthy a) := by
  cases result with
  | ok _ =>
    let r' := r.report (.probeSucceeded m.1)
    change ((readAlive m.2 r').2.metrics.setAlive m.1 (readAlive m.2 r').1).get? _ = _
    have hf : r'.fleet = r.fleet := rfl
    rw [Metrics.get?_setAlive, readAlive_metrics, readAlive_fst_congr hf]
    rfl
  | error f =>
    let r' := { r.report (.probeFailed m.1 f) with
      metrics := r.metrics.increment (.probeFailures m.1) }
    change ((readAlive m.2 r').2.metrics.setAlive m.1 (readAlive m.2 r').1).get? _ = _
    have hf : r'.fleet = r.fleet := rfl
    have hm : r'.metrics.get? (.healthy a) = r.metrics.get? (.healthy a) :=
      Metrics.get?_set_of_ne (by simp) _ _
    rw [Metrics.get?_setAlive, readAlive_metrics, readAlive_fst_congr hf, hm]

/-- Settling a result makes a ghost of a member that is off the registry and says it is alive, and
of nobody else. -/
theorem settle_noGhosts_iff {r : Roster} (h : r.NoGhosts) (m : String × Nat)
    (result : Except ProbeFailure Unit) :
    (r.settle m result).NoGhosts ↔
      ¬ (r.registry.taken m.1 = false ∧ (readAlive m.2 r).1 = true) := by
  have hr : (r.settle m result).registry = r.registry := (alike_settle r m result).registry
  constructor
  · rintro hs ⟨ht, ha⟩
    have hg := settle_gauge r m result m.1
    rw [if_pos rfl, if_pos ha] at hg
    exact absurd (hs m.1 1 (hr ▸ ht) hg) Nat.one_ne_zero
  · -- Only the gauge of the member is written, so the others are as they were.
    intro hn a n ht hg
    rw [hr] at ht
    rw [settle_gauge] at hg
    by_cases ha : a = m.1
    · subst ha
      have hd : (readAlive m.2 r).1 = false := by simpa [ht] using hn
      rw [if_pos rfl, hd] at hg
      exact (Option.some.inj hg).symm
    · rw [if_neg ha] at hg
      exact h a n ht hg

end Roster

namespace Scene

/-- Whether a move settles the probe of a member that is off the registry and says it is alive. -/
def RaisesGhost (s : Scene) : Move → Prop
  | .settle k => ∃ ms m result w, s.flights[k]? = some ⟨ms, some (m, result), w⟩ ∧
      s.roster.registry.taken m.1 = false ∧ (Roster.readAlive m.2 s.roster).1 = true
  | _ => False

theorem probe_noGhosts {s : Scene} (h : s.roster.NoGhosts) (k : Nat) (net : Network) :
    (s.probe k net).roster.NoGhosts := by
  unfold probe
  split
  next m ms w _ =>
    have hp := h.probe (net.later w.elapsed) m.2
    split
    next r hr => rwa [hr] at hp
    next p r hr =>
      rw [hr] at hp
      split <;> exact hp
  next => exact h

theorem settle_noGhosts_iff {s : Scene} (h : s.roster.NoGhosts) (k : Nat) :
    (s.settle k).roster.NoGhosts ↔ ¬ s.RaisesGhost (.settle k) := by
  have hraises : s.RaisesGhost (.settle k) ↔
      ∃ ms m result w, s.flights[k]? = some ⟨ms, some (m, result), w⟩ ∧
        s.roster.registry.taken m.1 = false ∧ (Roster.readAlive m.2 s.roster).1 = true := Iff.rfl
  rw [hraises]
  cases hf : s.flights[k]? with
  | none =>
    have hs : s.settle k = s := by
      unfold settle
      rw [hf]
    rw [hs]
    exact iff_of_true h fun ⟨_, _, _, _, hn, _⟩ => nomatch hn
  | some f =>
    obtain ⟨ms, unsettled?, w⟩ := f
    cases unsettled? with
    | none =>
      rw [settle_of_settled hf]
      exact iff_of_true h fun ⟨_, _, _, _, hn, _⟩ => nomatch hn
    | some u =>
      obtain ⟨m, result⟩ := u
      rw [settle_of_unsettled hf, Roster.settle_noGhosts_iff h]
      refine not_congr ⟨fun hm => ⟨ms, m, result, w, rfl, hm⟩, ?_⟩
      rintro ⟨_, _, _, _, heq, hm⟩
      cases heq
      exact hm

theorem step_noGhosts_iff {s : Scene} (h : s.roster.NoGhosts) (m : Move) :
    (s.step m).roster.NoGhosts ↔ ¬ s.RaisesGhost m := by
  cases m with
  | call c => exact iff_of_true (h.call c) not_false
  | begin => exact iff_of_true h not_false
  | probe k net => exact iff_of_true (probe_noGhosts h k net) not_false
  | settle k => exact settle_noGhosts_iff h k

/-- However sweeps and calls are interleaved, the addresses that are off the registry stay at zero or
unmeasured exactly as long as no sweep settles the probe of one that was taken off meanwhile and
says it is alive. -/
theorem noGhosts_throughout_iff (ms : List Move) :
    (∀ before, before <+: ms → (run {} before).roster.NoGhosts) ↔
      ∀ before m, before ++ [m] <+: ms → ¬ (run {} before).RaisesGhost m := by
  constructor
  · intro h before m hm
    have hs := h (before ++ [m]) hm
    rw [run_concat] at hs
    exact (step_noGhosts_iff (h before ((List.prefix_append _ _).trans hm)) m).mp hs
  · intro h before hb
    -- One more move at the end: the law holds before it, and the move is none that breaks it.
    induction before using List.reverseRecOn with
    | nil => exact Roster.noGhosts_empty
    | append_singleton before m ih =>
      rw [run_concat]
      exact (step_noGhosts_iff (ih ((List.prefix_append _ _).trans hb)) m).mpr (h before m hb)

end Scene

/-- A sweep whose first probe takes the second endpoint off the registry probes that one all the
same, and then measures it as alive. -/
theorem ghost_after_sweep :
    ∃ t r, Run {} t r ∧ r.registry.addresses = ["a:1"] ∧
      r.metrics.get? (.healthy "b:1") = some 1 ∧ ¬ r.NoGhosts := by
  let a : Rehearsed := { address := "a:1", probeScript := [{ take := .ok, edits := [.remove "b:1"] }] }
  let b : Rehearsed := { address := "b:1" }
  have h₀ : Run {} [] {} := .start
  have h := ((((h₀.step (.call (.make (.rehearsed a)))).step (.call (.make (.rehearsed b)))).step
    (.call (.register 0))).step (.call (.register 1))).step (.sweep {})
  generalize ht : [] ++ [_] ++ [_] ++ [_] ++ [_] ++ [_] = t at h
  generalize hr : Prod.snd (Roster.step _ (Step.sweep _)) = r at h
  have ha : r.registry.addresses = ["a:1"] := by
    subst hr
    cbv
  have hg : r.metrics.get? (.healthy "b:1") = some 1 := by
    subst hr
    cbv
  have hb : r.registry.taken "b:1" = false := by
    subst hr
    cbv
  exact ⟨t, r, h, ha, hg, fun hn => absurd (hn "b:1" 1 hb hg) Nat.one_ne_zero⟩

end RelayRoster
