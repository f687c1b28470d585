namespace RelayRoster

/-- The place of a round-robin selection: a counter that wraps at 64 bits. -/
structure Rotation where
  cursor : UInt64 := 0
  deriving DecidableEq, Repr

namespace Rotation

def cycle (n start : Nat) : List Nat := (List.range n).map fun offset => (start + offset) % n

/-- The first position that reads as alive. Each is read once, in order, and reading may change
what later reads say. -/
def seek (readAlive : Nat → σ → Bool × σ) : List Nat → σ → Option Nat × σ
  | [], s => (none, s)
  | i :: rest, s =>
    match readAlive i s with
    | (true, s) => (some i, s)
    | (false, s) => seek readAlive rest s

/-- Where the cursor goes after a choice: one on, or just behind a choice that skipped some. -/
def advance (r : Rotation) (start : Nat) (choice : Option Nat) : Rotation :=
  match choice with
  | some i => if i = start then ⟨r.cursor + 1⟩ else ⟨UInt64.ofNat (i + 1)⟩
  | none => ⟨r.cursor + 1⟩

def pick (readAlive : Nat → σ → Bool × σ) (n : Nat) (r : Rotation) (s : σ) :
    Option Nat × Rotation × σ :=
  if n = 0 then (none, r, s)
  else
    let start := r.cursor.toNat % n
    let (choice, s) := seek readAlive (cycle n start) s
    (choice, r.advance start choice, s)

end Rotation
end RelayRoster
