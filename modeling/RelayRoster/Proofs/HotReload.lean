import Mathlib
import RelayRoster.Daemon
import RelayRoster.Proofs.HalfWritten

namespace RelayRoster

namespace Roster

/-- Whether the second roster differs from the first in no more than what was reported. -/
def Matches (r r' : Roster) : Prop := ∃ es, r' = { r with journal := es }

namespace Matches

variable {r r' : Roster}

theorem refl (r : Roster) : Matches r r := ⟨r.journal, rfl⟩

theorem symm (h : Matches r r') : Matches r' r := by
  obtain ⟨es, rfl⟩ := h
  exact ⟨r.journal, rfl⟩

theorem trans {r'' : Roster} (h : Matches r r') (h' : Matches r' r'') : Matches r r'' := by
  obtain ⟨es, rfl⟩ := h
  obtain ⟨es', rfl⟩ := h'
  exact ⟨es', rfl⟩

theorem report (r : Roster) (e : Event) : Matches r (r.report e) := ⟨_, rfl⟩

theorem reports (h : Matches r r') (e e' : Event) : Matches (r.report e) (r'.report e') :=
  ((Matches.report r e).symm.trans h).trans (.report r' e')

theorem deregister (h : Matches r r') (a : String) :
    (r'.deregister a).1 = (r.deregister a).1 ∧ Matches (r.deregister a).2 (r'.deregister a).2 := by
  obtain ⟨es, rfl⟩ := h
  unfold Roster.deregister
  dsimp only
  split
  · exact ⟨rfl, _, rfl⟩
  · exact ⟨rfl, _, rfl⟩

theorem enlist (h : Matches r r') (e : Endpoint) :
    (r'.enlist e).1 = (r.enlist e).1 ∧ Matches (r.enlist e).2 (r'.enlist e).2 := by
  obtain ⟨es, rfl⟩ := h
  unfold Roster.enlist Roster.make Roster.register
  dsimp only
  split
  · exact ⟨rfl, _, rfl⟩
  · split
    · exact ⟨rfl, _, rfl⟩
    · exact ⟨rfl, _, rfl⟩

theorem removeUnwanted (h : Matches r r') (wanted as : List String) :
    (Roster.removeUnwanted wanted as r').1 = (Roster.removeUnwanted wanted as r).1 ∧
      Matches (Roster.removeUnwanted wanted as r).2 (Roster.removeUnwanted wanted as r').2 := by
  induction as generalizing r r' with
  | nil => exact ⟨rfl, h⟩
  | cons a as ih =>
    unfold Roster.removeUnwanted
    split
    · exact ih h
    · obtain ⟨hgone, hm⟩ := h.deregister a
      obtain ⟨hrest, hm'⟩ := ih hm
      dsimp only
      rw [hgone, hrest]
      exact ⟨rfl, hm'⟩

theorem addMissing (h : Matches r r') (health : HealthSettings) (as : List String) :
    (Roster.addMissing health as r').1 = (Roster.addMissing health as r).1 ∧
      Matches (Roster.addMissing health as r).2 (Roster.addMissing health as r').2 := by
  induction as generalizing r r' with
  | nil => exact ⟨rfl, h⟩
  | cons a as ih =>
    have hreg : r'.registry = r.registry := by
      obtain ⟨es, rfl⟩ := h
      rfl
    unfold Roster.addMissing
    rw [hreg]
    split
    · exact ih h
    · obtain ⟨hdone, hm⟩ := h.enlist (.relay (.ofSettings health a))
      dsimp only
      rw [hdone]
      -- An address that is skipped is reported on either side, and then the rest is added.
      split
      · obtain ⟨hrest, hm'⟩ := ih hm
        rw [hrest]
        exact ⟨rfl, hm'⟩
      · obtain ⟨hrest, hm'⟩ := ih (hm.reports _ _)
        rw [hrest]
        exact ⟨rfl, hm'⟩

theorem align (h : Matches r r') (s : Settings) :
    (r'.align s).1 = (r.align s).1 ∧ Matches (r.align s).2 (r'.align s).2 := by
  have hreg : r'.registry.addresses = r.registry.addresses := by
    obtain ⟨es, rfl⟩ := h
    rfl
  obtain ⟨hgone, hm⟩ := h.removeUnwanted s.endpoints r.registry.addresses
  obtain ⟨hadded, hm'⟩ := hm.addMissing s.health s.endpoints
  unfold Roster.align
  rw [hreg]
  dsimp only
  rw [hgone, hadded]
  exact ⟨rfl, hm'.reports _ _⟩

end Matches

def alignAll (r : Roster) (cs : List Settings) : Roster := cs.foldl (fun r c => (r.align c).2) r

theorem alignAll_concat (r : Roster) (cs : List Settings) (c : Settings) :
    r.alignAll (cs ++ [c]) = ((r.alignAll cs).align c).2 :=
  List.foldl_concat ..

theorem matches_apply (c : Settings) (r : Roster) : Matches (r.align c).2 (Reload.apply c r) := by
  change Matches (r.align c).2 (Reload.applied (r.align c).1 (r.align c).2)
  unfold Reload.applied
  split
  · exact .refl _
  · exact .report _ _

end Roster

namespace Watch

/-- Whether a change wrote or made something that has the name of the settings file. -/
def Touches (w : Watch) (c : Change) : Prop :=
  (c.kind = .modified ∨ c.kind = .created) ∧
    w.path.fileName?.isSome ∧ ∃ p ∈ c.paths, p.fileName? = w.path.fileName?

instance (w : Watch) (c : Change) : Decidable (w.Touches c) :=
  inferInstanceAs (Decidable (_ ∧ _))

theorem concerns_iff {w : Watch} {c : Change} :
    concerns w.path.fileName? c = true ↔ w.Touches c := by
  unfold concerns Touches
  cases w.path.fileName? with
  | none => simp
  | some name => simp

def settings? (w : Watch) (c : Change) (content : Except FileError ByteArray) : Option Settings :=
  if w.Touches c then (Settings.ofFile content).toOption else none

end Watch

structure Reloading where
  task : Reload := {}
  roster : Roster

theorem Settings.ofBytes_toUTF8 (text : String) : ofBytes text.toUTF8 = ofText text := by
  have h : String.fromUTF8? text.toUTF8 = some text := dif_pos text.isValidUTF8
  unfold ofBytes
  rw [h]

namespace Reloading

/-- What the watch, the task and the stop signal may do, in any order. -/
inductive Move where
  /-- The watch is told of a change and reads the file, which holds this now. -/
  | notice (c : Change) (content : Except FileError ByteArray)
  /-- The watch is given up. -/
  | close
  | receive
  | stop

def notice (w : Watch) (s : Reloading) (c : Change) (content : Except FileError ByteArray) :
    Reloading :=
  match w.handle (fun _ => Settings.ofFile content) c with
  | none => s
  | some (none, e) => { s with roster := s.roster.report e }
  | some (some new, e) => ⟨(s.task.send new).2, s.roster.report e⟩

/-- Once the watch is given up, no change is noticed. -/
def step (w : Watch) (s : Reloading) : Move → Reloading
  | .notice c content => if s.task.connected then s.notice w c content else s
  | .close => { s with task := s.task.close.2 }
  | .receive => ⟨(s.task.receive s.roster).1, (s.task.receive s.roster).2⟩
  | .stop => ⟨(s.task.stop s.roster).1, (s.task.stop s.roster).2⟩

def run (w : Watch) (s : Reloading) (ms : List Move) : Reloading := ms.foldl (step w) s

def broughtBy (w : Watch) : List Move → List Settings
  | [] => []
  | .notice c content :: ms => (w.settings? c content).toList ++ broughtBy w ms
  | .close :: _ => []
  | .receive :: ms | .stop :: ms => broughtBy w ms

theorem broughtBy_of_closed {w : Watch} {ms : List Move} (h : .close ∈ ms) (ms' : List Move) :
    broughtBy w (ms ++ ms') = broughtBy w ms := by
  induction ms with
  | nil => cases h
  | cons m' ms ih =>
    cases m' with
    | close => rfl
    | notice c content =>
      exact congrArg (_ ++ ·) (ih ((List.mem_cons.mp h).resolve_left nofun))
    | receive | stop => exact ih ((List.mem_cons.mp h).resolve_left nofun)

theorem broughtBy_of_open {w : Watch} {ms : List Move} (h : .close ∉ ms) (m : Move) :
    broughtBy w (ms ++ [m]) = broughtBy w ms ++ broughtBy w [m] := by
  induction ms with
  | nil => rfl
  | cons m' ms ih =>
    rw [List.mem_cons, not_or] at h
    cases m' with
    | close => exact absurd rfl h.1
    | notice c content => exact (congrArg (_ ++ ·) (ih h.2)).trans (List.append_assoc ..).symm
    | receive | stop => exact ih h.2

/-- A move that is no notice brings nothing. -/
theorem broughtBy_concat {w : Watch} (ms : List Move) {m : Move} (hm : broughtBy w [m] = []) :
    broughtBy w (ms ++ [m]) = broughtBy w ms := by
  by_cases h : .close ∈ ms
  · exact broughtBy_of_closed h [m]
  · rw [broughtBy_of_open h, hm, List.append_nil]

theorem matches_notice (w : Watch) (s : Reloading) (c : Change)
    (content : Except FileError ByteArray) :
    Roster.Matches s.roster (s.notice w c content).roster := by
  unfold notice
  split
  · exact .refl _
  · exact .report _ _
  · exact .report _ _

/-- What a notice brings waits for the task, unless that one has ended. -/
theorem notice_task (w : Watch) {s : Reloading} (ho : s.task.connected = true) (c : Change)
    (content : Except FileError ByteArray) :
    (s.notice w c content).task = { s.task with
      inbox := s.task.inbox ++ if s.task.running then broughtBy w [.notice c content] else [] } := by
  have hone : broughtBy w [.notice c content] = (w.settings? c content).toList :=
    List.append_nil _
  obtain ⟨⟨inbox, connected, running⟩, roster⟩ := s
  dsimp only at ho
  subst ho
  rw [hone]
  unfold notice Watch.handle Watch.settings? Watch.reread
  by_cases ht : w.Touches c
  · rw [if_pos (Watch.concerns_iff.mpr ht), if_pos ht]
    cases Settings.ofFile content <;> cases running <;> simp [Reload.send, Except.toOption]
  · rw [if_neg (fun h => ht (Watch.concerns_iff.mp h)), if_neg ht]
    simp

/-- After some moves from a roster: what the task applied is the first part of what was brought, and
what it has not received yet is the rest, as long as it runs. It ends on its own only after both. -/
structure Conforms (w : Watch) (r : Roster) (ms : List Move) (applied : List Settings)
    (s : Reloading) : Prop where
  isPrefix : applied <+: broughtBy w ms
  roster : Roster.Matches (r.alignAll applied) s.roster
  connected : s.task.connected = true ↔ .close ∉ ms
  pending : s.task.running = true → broughtBy w ms = applied ++ s.task.inbox
  ended : s.task.running = false → .stop ∉ ms → .close ∈ ms ∧ applied = broughtBy w ms

namespace Conforms

variable {w : Watch} {r : Roster} {ms : List Move} {applied : List Settings} {s : Reloading}

theorem start (w : Watch) (r : Roster) : Conforms w r [] [] { roster := r } where
  isPrefix := List.prefix_rfl
  roster := .refl r
  connected := by simp
  pending := fun _ => rfl
  ended := nofun

theorem mem_concat_iff {m m' : Move} (h : m ≠ m') : m ∈ ms ++ [m'] ↔ m ∈ ms := by
  simp [h]

theorem notice (h : Conforms w r ms applied s) (c : Change) (content : Except FileError ByteArray) :
    Conforms w r (ms ++ [.notice c content]) applied (s.step w (.notice c content)) := by
  have hclose : Move.close ∈ ms ++ [.notice c content] ↔ .close ∈ ms := mem_concat_iff nofun
  have hstop : Move.stop ∈ ms ++ [.notice c content] ↔ .stop ∈ ms := mem_concat_iff nofun
  change Conforms w r _ applied (if s.task.connected then s.notice w c content else s)
  -- Once the watch is given up a change brings nothing; before that it goes to the inbox.
  by_cases ho : s.task.connected = true
  · have hopen := h.connected.mp ho
    have hb := broughtBy_of_open (w := w) hopen (.notice c content)
    have htask := notice_task w ho c content
    rw [if_pos ho]
    refine ⟨hb ▸ h.isPrefix.trans (List.prefix_append _ _),
      h.roster.trans (matches_notice w s c content), ?_, fun hr => ?_, fun hr hn => ?_⟩
    · rw [htask, hclose]
      exact h.connected
    · rw [htask] at hr ⊢
      rw [hb, h.pending hr, List.append_assoc, if_pos hr]
    · rw [htask] at hr
      exact absurd (h.ended hr (mt hstop.mpr hn)).1 hopen
  · have hclosed : .close ∈ ms := not_not.mp (mt h.connected.mpr ho)
    have hb := broughtBy_of_closed (w := w) hclosed [.notice c content]
    rw [if_neg ho]
    refine ⟨hb ▸ h.isPrefix, h.roster, h.connected.trans (not_congr hclose.symm), ?_, ?_⟩
    · rw [hb]
      exact h.pending
    · rw [hb, hclose, hstop]
      exact h.ended

theorem close (h : Conforms w r ms applied s) :
    Conforms w r (ms ++ [.close]) applied (s.step w .close) := by
  have hb := broughtBy_concat (w := w) ms (m := .close) rfl
  have hstop : Move.stop ∈ ms ++ [.close] ↔ .stop ∈ ms := mem_concat_iff nofun
  refine ⟨hb ▸ h.isPrefix, h.roster, ?_, fun hr => hb ▸ h.pending hr, fun hr hn => ?_⟩
  · exact iff_of_false Bool.false_ne_true (not_not.mpr (by simp))
  · exact ⟨by simp, hb ▸ (h.ended hr (mt hstop.mpr hn)).2⟩

theorem stop (h : Conforms w r ms applied s) :
    Conforms w r (ms ++ [.stop]) applied (s.step w .stop) := by
  have hb := broughtBy_concat (w := w) ms (m := .stop) rfl
  have hclose : Move.close ∈ ms ++ [.stop] ↔ .close ∈ ms := mem_concat_iff nofun
  obtain ⟨⟨inbox, connected, running⟩, roster⟩ := s
  refine ⟨hb ▸ h.isPrefix, ?_, ?_, ?_, fun _ hn => absurd (by simp) hn⟩
  · cases running with
    | false => exact h.roster
    | true => exact h.roster.trans (.report _ _)
  · rw [hclose, ← h.connected]
    cases running <;> rfl
  · cases running <;> exact nofun

/-- A turn applies what comes next, and nothing if nothing is there. -/
theorem receive (h : Conforms w r ms applied s) :
    ∃ taken, Conforms w r (ms ++ [.receive]) (applied ++ taken) (s.step w .receive) := by
  have hb := broughtBy_concat (w := w) ms (m := .receive) rfl
  have hclose : Move.close ∈ ms ++ [.receive] ↔ .close ∈ ms := mem_concat_iff nofun
  have hstop : Move.stop ∈ ms ++ [.receive] ↔ .stop ∈ ms := mem_concat_iff nofun
  have hconn := h.connected.trans (not_congr hclose.symm)
  obtain ⟨⟨inbox, connected, running⟩, roster⟩ := s
  cases running with
  | false =>
    refine ⟨[], ?_⟩
    rw [List.append_nil]
    refine ⟨hb ▸ h.isPrefix, h.roster, hconn, nofun, ?_⟩
    rw [hb, hclose, hstop]
    exact h.ended
  | true =>
    have hp := h.pending rfl
    -- With nothing in the inbox all has been applied, and then the task ends once no more can come.
    cases inbox with
    | nil =>
      have hall : applied = broughtBy w ms := (List.append_nil _).symm.trans hp.symm
      refine ⟨[], ?_⟩
      rw [List.append_nil]
      refine ⟨hb ▸ h.isPrefix, h.roster, hconn, fun _ => hb ▸ hp, fun hr _ => ⟨?_, hb ▸ hall⟩⟩
      exact not_not.mp (mt hconn.mpr (Bool.eq_false_iff.mp hr))
    | cons c rest =>
      have hp' : broughtBy w (ms ++ [.receive]) = (applied ++ [c]) ++ rest := by
        rw [hb, hp, List.append_assoc]
        rfl
      refine ⟨[c], hp' ▸ List.prefix_append _ _, ?_, hconn, fun _ => hp', nofun⟩
      rw [Roster.alignAll_concat]
      exact (h.roster.align c).2.trans (Roster.matches_apply c roster)

theorem step (h : Conforms w r ms applied s) (m : Move) :
    ∃ taken, Conforms w r (ms ++ [m]) (applied ++ taken) (s.step w m) := by
  have hn {s' : Reloading} (h' : Conforms w r (ms ++ [m]) applied s') :
      Conforms w r (ms ++ [m]) (applied ++ []) s' := by rwa [List.append_nil]
  cases m with
  | notice c content => exact ⟨[], hn (h.notice c content)⟩
  | close => exact ⟨[], hn h.close⟩
  | stop => exact ⟨[], hn h.stop⟩
  | receive => exact h.receive

end Conforms

theorem run_concat (w : Watch) (s : Reloading) (ms : List Move) (m : Move) :
    run w s (ms ++ [m]) = (run w s ms).step w m :=
  List.foldl_concat ..

theorem exists_conforms (w : Watch) (r : Roster) (ms : List Move) :
    ∃ applied, Conforms w r ms applied (run w { roster := r } ms) := by
  induction ms using List.reverseRecOn with
  | nil => exact ⟨[], .start w r⟩
  | append_singleton ms m ih =>
    obtain ⟨applied, h⟩ := ih
    rw [run_concat]
    exact (h.step m).imp' (applied ++ ·) fun _ => id

theorem run_receive_of_ended (w : Watch) {s : Reloading} (h : s.task.running = false) (n : Nat) :
    run w s (List.replicate n .receive) = s := by
  have hone : s.step w .receive = s := by
    unfold step Reload.receive
    rw [h]
    rfl
  induction n with
  | zero => rfl
  | succ n ih =>
    rw [List.replicate_succ]
    exact (congrArg (run w · _) hone).trans ih

/-- The turns that empty the inbox, and one more to see whether there will be others. -/
theorem run_receive_eq_settle (w : Watch) (s : Reloading) :
    run w s (List.replicate (s.task.inbox.length + 1) .receive) =
      ⟨(s.task.settle s.roster).1, (s.task.settle s.roster).2⟩ := by
  obtain ⟨⟨inbox, connected, running⟩, roster⟩ := s
  cases running with
  | false => exact run_receive_of_ended w rfl _
  | true =>
    induction inbox generalizing roster with
    | nil => rfl
    | cons c rest ih => exact ih (Reload.apply c roster)

/-- Once the watch is given up, the task ends on its own. -/
theorem exists_ended {w : Watch} {r : Roster} {ms : List Move} (h : .close ∈ ms) :
    ∃ k, (run w { roster := r } (ms ++ List.replicate k .receive)).task.running = false := by
  obtain ⟨applied, hc⟩ := exists_conforms w r ms
  have hclosed : (run w { roster := r } ms).task.connected = false :=
    Bool.eq_false_iff.mpr fun ho => hc.connected.mp ho h
  refine ⟨(run w { roster := r } ms).task.inbox.length + 1, ?_⟩
  unfold run at hclosed ⊢
  rw [List.foldl_append]
  refine (congrArg (·.task.running) (run_receive_eq_settle w _)).trans ?_
  unfold Reload.settle
  split
  · exact hclosed
  next hr => exact Bool.eq_false_iff.mpr hr

theorem step_notice (w : Watch) (s : Reloading) (c : Change) (content : Except FileError ByteArray) :
    Roster.Matches s.roster (s.step w (.notice c content)).roster ∧
      (w.settings? c content = none → (s.step w (.notice c content)).task = s.task) := by
  change Roster.Matches s.roster (if s.task.connected then s.notice w c content else s).roster ∧ (_ →
    (if s.task.connected then s.notice w c content else s).task = s.task)
  split
  next ho =>
    refine ⟨matches_notice w s c content, fun hn => ?_⟩
    have hone : broughtBy w [.notice c content] = [] := by
      unfold broughtBy
      rw [hn]
      rfl
    rw [notice_task w ho, hone, ite_self, List.append_nil]
  next => exact ⟨.refl _, fun _ => rfl⟩

end Reloading

/-- The program takes its turns as soon as a change is noticed. -/
theorem Daemon.takeOver_eq_run {d : Daemon} {w : Watch} {c : Change}
    {content : Except FileError ByteArray} {x : Option Settings × Event}
    (ho : d.reload.connected = true)
    (hx : w.handle (fun _ => Settings.ofFile content) c = some x) :
    ∃ k, (⟨(d.takeOver x).reload, (d.takeOver x).roster⟩ : Reloading) =
      Reloading.run w ⟨d.reload, d.roster⟩ (.notice c content :: List.replicate k .receive) := by
  have hnotice : Reloading.step w ⟨d.reload, d.roster⟩ (.notice c content) =
      Reloading.notice w ⟨d.reload, d.roster⟩ c content := if_pos ho
  change ∃ k, _ = Reloading.run w (Reloading.step w _ _) (List.replicate k .receive)
  rw [hnotice]
  unfold Reloading.notice
  rw [hx]
  obtain ⟨_ | s, e⟩ := x
  · exact ⟨0, rfl⟩
  · exact ⟨_, (Reloading.run_receive_eq_settle w ⟨(d.reload.send s).2, d.roster.report e⟩).symm⟩

/-- Whatever the order in which changes are noticed, the watch is given up, the task takes its turns
and is stopped: the roster is the first one brought in line with settings that the changes brought,
from the first on and in order. All of them, once the task ends without being stopped, which it does
when the watch is given up. A notice never changes the roster but for the report, and one that
brings no settings leaves the task alone too. -/
theorem hot_reload_applies_in_order (w : Watch) (r : Roster) (ms : List Reloading.Move) :
    (∃ applied, applied <+: Reloading.broughtBy w ms ∧
      Roster.Matches (r.alignAll applied) (Reloading.run w { roster := r } ms).roster ∧
      ((Reloading.run w { roster := r } ms).task.running = true →
        Reloading.broughtBy w ms =
          applied ++ (Reloading.run w { roster := r } ms).task.inbox) ∧
      ((Reloading.run w { roster := r } ms).task.running = false → .stop ∉ ms →
        .close ∈ ms ∧ applied = Reloading.broughtBy w ms)) ∧
    (.close ∈ ms → ∃ k, (Reloading.run w { roster := r }
      (ms ++ List.replicate k .receive)).task.running = false) ∧
    ∀ (s : Reloading) (c : Change) (content : Except FileError ByteArray),
      Roster.Matches s.roster (s.step w (.notice c content)).roster ∧
        (w.settings? c content = none → (s.step w (.notice c content)).task = s.task) := by
  refine ⟨?_, Reloading.exists_ended, fun s c content => Reloading.step_notice w s c content⟩
  obtain ⟨applied, h⟩ := Reloading.exists_conforms w r ms
  exact ⟨applied, h.isPrefix, h.roster, h.pending, h.ended⟩

namespace Reloading

/-- The file holds two endpoints, then a faulty edit; it is gone for a while, and another file is
made. -/
def faultyEdit : List Move :=
  [.notice ⟨.modified, [⟨"./relay.toml"⟩]⟩ (.ok twoEndpoints.toUTF8),
    .notice ⟨.modified, [⟨"./relay.toml"⟩]⟩ (.ok "[[endpoints]".toUTF8),
    .receive,
    .notice ⟨.created, [⟨"./relay.toml"⟩]⟩ (.error .notFound),
    .notice ⟨.created, [⟨"./other.toml"⟩]⟩ (.ok firstEndpoint.toUTF8),
    .close]

theorem broughtBy_faultyEdit :
    broughtBy ⟨⟨"relay.toml"⟩, {}⟩ faultyEdit = [{ endpoints := ["a:1", "b:1"] }] := by
  have hfaulty : Settings.ofText "[[endpoints]" = .error .malformed := by cbv
  have hsame (kind : ChangeKind) (hk : kind = .modified ∨ kind = .created) :
      Watch.Touches ⟨⟨"relay.toml"⟩, {}⟩ ⟨kind, [⟨"./relay.toml"⟩]⟩ :=
    ⟨hk, by cbv, _, List.mem_singleton_self _, by cbv⟩
  have hother : ¬ Watch.Touches ⟨⟨"relay.toml"⟩, {}⟩ ⟨.created, [⟨"./other.toml"⟩]⟩ := by
    rintro ⟨-, -, p, hp, hn⟩
    rw [List.mem_singleton.mp hp] at hn
    exact absurd hn (by cbv; decide)
  simp only [faultyEdit, broughtBy, Watch.settings?, if_pos (hsame .modified (.inl rfl)),
    if_pos (hsame .created (.inr rfl)), if_neg hother, Settings.ofFile, Settings.ofBytes_toUTF8,
    hfaulty, ofText_twoEndpoints]
  rfl

end Reloading

/-- Of the changes only the first brings settings, and when the task has ended both endpoints are
registered. -/
theorem hot_reload_applies_in_order_of_faulty_edit :
    .close ∈ Reloading.faultyEdit ∧ .stop ∉ Reloading.faultyEdit ∧
      ∃ k, ∃ s : Reloading, s = Reloading.run ⟨⟨"relay.toml"⟩, {}⟩ { roster := {} }
          (Reloading.faultyEdit ++ List.replicate k .receive) ∧
        s.task.running = false ∧ s.roster.registry.addresses = ["a:1", "b:1"] := by
  have hclose : .close ∈ Reloading.faultyEdit := by simp [Reloading.faultyEdit]
  have hstop : .stop ∉ Reloading.faultyEdit := by simp [Reloading.faultyEdit]
  obtain ⟨k, hended⟩ :=
    (hot_reload_applies_in_order ⟨⟨"relay.toml"⟩, {}⟩ {} Reloading.faultyEdit).2.1 hclose
  obtain ⟨applied, -, ⟨es, hroster⟩, -, hall⟩ := (hot_reload_applies_in_order ⟨⟨"relay.toml"⟩, {}⟩ {}
    (Reloading.faultyEdit ++ List.replicate k .receive)).1
  have hk : .stop ∉ Reloading.faultyEdit ++ List.replicate k .receive := by simp [hstop]
  rw [(hall hended hk).2, Reloading.broughtBy_of_closed hclose,
    Reloading.broughtBy_faultyEdit] at hroster
  refine ⟨hclose, hstop, k, _, rfl, hended, ?_⟩
  rw [hroster]
  cbv

end RelayRoster
