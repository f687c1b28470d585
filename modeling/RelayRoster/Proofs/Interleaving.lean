import RelayRoster.Proofs.Run

namespace RelayRoster

/-- A sweep under way: the members it has still to probe, the one whose result it has still to
settle, and what it found out so far. -/
structure Flight where
  ahead : List (String × Nat)
  unsettled? : Option ((String × Nat) × Except ProbeFailure Unit) := none
  sweep : Sweep := {}

structure Scene where
  roster : Roster := {}
  flights : List Flight := []

/-- What may happen next: a call, or one sweep begins, probes its next member or settles the result. -/
inductive Move where
  | call (c : Call)
  | begin
  | probe (k : Nat) (net : Network)
  | settle (k : Nat)

namespace Scene

/-- A sweep probes its next member under a network as it was when the sweep began, so much later as
the probes of the sweep took. -/
def probe (s : Scene) (k : Nat) (net : Network) : Scene :=
  match s.flights[k]? with
  | some ⟨m :: ms, none, w⟩ =>
    match Roster.probe (net.later w.elapsed) s.roster m.2 with
    | (none, r) => ⟨r, s.flights.set k ⟨ms, none, w⟩⟩
    | (some p, r) =>
      match p.result with
      | .error b => ⟨r, s.flights.set k ⟨[], none, { w.note m.2 p with breakdown? := some b }⟩⟩
      | .ok result => ⟨r, s.flights.set k ⟨ms, some (m, result), w.note m.2 p⟩⟩
  | _ => s

def settle (s : Scene) (k : Nat) : Scene :=
  match s.flights[k]? with
  | some ⟨ms, some (m, result), w⟩ =>
    ⟨s.roster.settle m result,
      s.flights.set k ⟨ms, none, { w with failed := w.failed + Roster.failures result }⟩⟩
  | _ => s

def step (s : Scene) : Move → Scene
  | .call c => { s with roster := (s.roster.call c).2 }
  | .begin => { s with flights := s.flights ++ [{ ahead := s.roster.registry.published }] }
  | .probe k net => s.probe k net
  | .settle k => s.settle k

def run (s : Scene) (ms : List Move) : Scene := ms.foldl step s

theorem run_concat (s : Scene) (ms : List Move) (m : Move) :
    s.run (ms ++ [m]) = (s.run ms).step m := by
  simp [run]

section

variable {s : Scene} {k : Nat} {net : Network} {m : String × Nat} {ms : List (String × Nat)}
  {w : Sweep} {e : Endpoint} {result : Except ProbeFailure Unit}

theorem probe_of_done (h : s.flights[k]? = some ⟨[], none, w⟩) : s.probe k net = s := by
  unfold probe
  rw [h]

theorem probe_of_none (h : s.flights[k]? = some ⟨m :: ms, none, w⟩)
    (he : s.roster.fleet[m.2]? = none) :
    s.probe k net = ⟨s.roster, s.flights.set k ⟨ms, none, w⟩⟩ := by
  unfold probe
  rw [h]
  dsimp only
  rw [Roster.probe_of_none he]

theorem probe_of_breakdown {b : Breakdown} (h : s.flights[k]? = some ⟨m :: ms, none, w⟩)
    (he : s.roster.fleet[m.2]? = some e)
    (hr : (e.probe (net.later w.elapsed)).result = .error b) :
    s.probe k net = ⟨(Roster.probe (net.later w.elapsed) s.roster m.2).2, s.flights.set k
      ⟨[], none, { w.note m.2 (e.probe (net.later w.elapsed)) with breakdown? := some b }⟩⟩ := by
  unfold probe
  rw [h]
  dsimp only
  rw [Roster.probe_of_some he]
  dsimp only
  rw [hr]

theorem probe_of_result (h : s.flights[k]? = some ⟨m :: ms, none, w⟩)
    (he : s.roster.fleet[m.2]? = some e)
    (hr : (e.probe (net.later w.elapsed)).result = .ok result) :
    s.probe k net = ⟨(Roster.probe (net.later w.elapsed) s.roster m.2).2, s.flights.set k
      ⟨ms, some (m, result), w.note m.2 (e.probe (net.later w.elapsed))⟩⟩ := by
  unfold probe
  rw [h]
  dsimp only
  rw [Roster.probe_of_some he]
  dsimp only
  rw [hr]

theorem settle_of_settled (h : s.flights[k]? = some ⟨ms, none, w⟩) : s.settle k = s := by
  unfold settle
  rw [h]

theorem settle_of_unsettled (h : s.flights[k]? = some ⟨ms, some (m, result), w⟩) :
    s.settle k = ⟨s.roster.settle m result, s.flights.set k
      ⟨ms, none, { w with failed := w.failed + Roster.failures result }⟩⟩ := by
  unfold settle
  rw [h]

end

def rounds (k : Nat) (net : Network) : Nat → List Move
  | 0 => []
  | n + 1 => .probe k net :: .settle k :: rounds k net n

theorem run_rounds_of_done {s : Scene} {k : Nat} {w : Sweep}
    (h : s.flights[k]? = some ⟨[], none, w⟩) (net : Network) (n : Nat) :
    s.run (rounds k net n) = s := by
  induction n with
  | zero => rfl
  | succ n ih =>
    change ((s.probe k net).settle k).run (rounds k net n) = s
    rw [probe_of_done h, settle_of_settled h, ih]

theorem run_rounds (net : Network) (fs : List Flight) (ms : List (String × Nat)) (w : Sweep)
    (r : Roster) :
    (Scene.mk r (fs ++ [⟨ms, none, w⟩])).run (rounds fs.length net ms.length) =
      ⟨(Roster.sweepOver net ms w r).2, fs ++ [⟨[], none, (Roster.sweepOver net ms w r).1⟩]⟩ := by
  have hget (r : Roster) (f : Flight) :
      (Scene.mk r (fs ++ [f])).flights[fs.length]? = some f := List.getElem?_concat_length
  have hset (f f' : Flight) : (fs ++ [f]).set fs.length f' = fs ++ [f'] := by simp
  -- One round does what one turn of the sweep does, and after a breakdown rounds do nothing.
  induction ms generalizing w r with
  | nil => rfl
  | cons m ms ih =>
    change (((Scene.mk r (fs ++ [⟨m :: ms, none, w⟩])).probe fs.length net).settle fs.length).run
      (rounds fs.length net ms.length) = _
    cases he : r.fleet[m.2]? with
    | none =>
      rw [probe_of_none (hget _ _) he, hset, settle_of_settled (hget _ _), ih,
        Roster.sweepOver_of_none he]
    | some e =>
      cases hr : (e.probe (net.later w.elapsed)).result with
      | error b =>
        rw [probe_of_breakdown (hget _ _) he hr, hset, settle_of_settled (hget _ _),
          run_rounds_of_done (hget _ _), Roster.sweepOver_of_breakdown he hr]
      | ok result =>
        rw [probe_of_result (hget _ _) he hr, hset, settle_of_unsettled (hget _ _), hset, ih,
          Roster.sweepOver_of_result he hr]
        rfl

/-- A sweep that nothing comes in between. -/
theorem run_sweep (s : Scene) (net : Network) :
    s.run (.begin :: rounds s.flights.length net s.roster.registry.published.length) =
      ⟨(s.roster.sweep net).2, s.flights ++ [⟨[], none, (s.roster.sweep net).1⟩]⟩ :=
  run_rounds net s.flights s.roster.registry.published {} s.roster

end Scene
end RelayRoster
