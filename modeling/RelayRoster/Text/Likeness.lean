namespace RelayRoster.Text

/-- Pairs each character with the first equal one of the other text, given with its place, that is
within reach and free. The partners stand in the order of the characters they are paired with. -/
def partners (reach : Nat) : Nat → List Char → List (Char × Nat) → List (Char × Nat)
  | _, [], _ => []
  | i, c :: cs, free =>
    match free.find? fun (d, j) => d = c && i ≤ j + reach && j ≤ i + reach with
    | some p => p :: partners reach (i + 1) cs (free.erase p)
    | none => partners reach (i + 1) cs free

/-- Partners that are equal but stand in another order; two of them make one exchange. -/
def exchanges (ps : List (Char × Nat)) : Nat :=
  ((ps.zip (ps.mergeSort fun p q => p.2 ≤ q.2)).countP fun (p, q) => p.1 ≠ q.1) / 2

/-- From 0 to 1: the mean of the shares of either text that find a partner in the other, and of the
share of the pairs that keep their order. -/
def likeness (a b : List Char) : Rat :=
  let ps := partners (max a.length b.length / 2 - 1) 0 a b.zipIdx
  let m : Rat := ps.length
  (m / a.length + m / b.length + (m - exchanges ps) / m) / 3

/-- The candidate most like a text, the later one of two that are equally so; none if all differ
from it by more than three parts in ten. -/
def mostAlike? (s : List Char) (candidates : List String) : Option String :=
  let better (best : Option String) (c : String) :=
    if likeness s c.toList < 7 / 10 then best
    else match best with
      | none => some c
      | some b => if likeness s c.toList < likeness s b.toList then best else some c
  candidates.foldl better none

end RelayRoster.Text
