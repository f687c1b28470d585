namespace RelayRoster.Text

/-- The first `n` bytes and what follows them; nothing if that cuts a character or they are fewer. -/
def cut? : Nat → List Char → Option (List Char × List Char)
  | 0, cs => some ([], cs)
  | _ + 1, [] => none
  | n + 1, c :: cs =>
    if c.utf8Size ≤ n + 1 then (cut? (n + 1 - c.utf8Size) cs).map fun (a, b) => (c :: a, b)
    else none

def slice? (start stop : Nat) (cs : List Char) : Option (List Char) := do
  let (_, rest) ← cut? start cs
  let (within, _) ← cut? (stop - start) rest
  return within

def sliceFrom? (start : Nat) (cs : List Char) : Option (List Char) := (cut? start cs).map (·.2)

end RelayRoster.Text
