namespace RelayRoster

structure Ticker where
  period : Nat
  due : Nat := 0
  pos : 0 < period := by omega

namespace Ticker

/-- A tick handled this late still counts as on time. -/
def tolerance : Nat := 5000000

/-- The ticker after the tick that was due is handled at `now`. Ticks missed meanwhile are skipped:
the next one is a multiple of the period after the one that was due. -/
def advance (t : Ticker) (now : Nat) : Ticker :=
  let late := now - t.due
  { t with due := if late ≤ tolerance then t.due + t.period else now + t.period - late % t.period }

theorem due_add_period_le_advance (t : Ticker) (now : Nat) :
    t.due + t.period ≤ (t.advance now).due := by
  unfold advance
  dsimp only
  split
  · exact Nat.le_refl _
  · have := Nat.mod_le (now - t.due) t.period
    have := Nat.mod_lt (now - t.due) t.pos
    omega

structure Run where
  steps : List (Nat × Nat)
  ended : Nat
  deriving DecidableEq, Repr

/-- Takes a step at every tick until the stop signal at `stop`. A step runs to its end. Where a tick
and the signal are found ready together the next coin decides, `true` for the tick; the signal
wins when the coins are used up. -/
def run (step : Nat → σ → Nat × σ) (stop : Nat) (coins : List Bool) (t : Ticker) (now : Nat)
    (s : σ) : Run × σ :=
  let tickAt := max now t.due
  let stopAt := max now stop
  if tickAt < stopAt then
    let (duration, s) := step tickAt s
    let (rest, s) := run step stop coins (t.advance tickAt) (tickAt + duration) s
    ({ rest with steps := (tickAt, tickAt + duration) :: rest.steps }, s)
  else if stopAt < tickAt then (⟨[], stopAt⟩, s)
  else match coins with
    | true :: coins =>
      let (duration, s) := step tickAt s
      let (rest, s) := run step stop coins (t.advance tickAt) (tickAt + duration) s
      ({ rest with steps := (tickAt, tickAt + duration) :: rest.steps }, s)
    | _ => (⟨[], stopAt⟩, s)
termination_by coins.length + (stop - t.due)
decreasing_by
  · have := due_add_period_le_advance t (max now t.due)
    have := t.pos
    omega
  · have := due_add_period_le_advance t (max now t.due)
    simp only [List.length_cons]
    omega

end Ticker
end RelayRoster
