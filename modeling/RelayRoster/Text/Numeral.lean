namespace RelayRoster.Text

def digit? (base : Nat) (c : Char) : Option Nat :=
  let v :=
    if c.isDigit then c.toNat - 48
    else if 'a' ≤ c ∧ c ≤ 'f' then c.toNat - 87
    else if 'A' ≤ c ∧ c ≤ 'F' then c.toNat - 55
    else base
  if v < base then some v else none

def isDigitOf (base : Nat) (c : Char) : Bool := (digit? base c).isSome

def ofDigits (base : Nat) (cs : List Char) : Nat :=
  cs.foldl (fun n c => n * base + (digit? base c).getD 0) 0

def decimalBelow? (bound : Nat) (cs : List Char) : Option Nat :=
  if !cs.isEmpty && cs.all (isDigitOf 10) && ofDigits 10 cs < bound then some (ofDigits 10 cs)
  else none

def isExponent : List Char → Bool
  | [] => true
  | e :: cs =>
    let digits := match cs with
      | '+' :: ds | '-' :: ds | ds => ds
    (e = 'e' || e = 'E') && !digits.isEmpty && digits.all Char.isDigit

/-- A number without a sign: digits, of which some may follow a point, and perhaps an exponent; or a
name for infinity or for no number, in any letter case. -/
def isUnsigned (cs : List Char) : Bool :=
  let whole := cs.takeWhile Char.isDigit
  let (fraction, rest) := match cs.dropWhile Char.isDigit with
    | '.' :: ds => (ds.takeWhile Char.isDigit, ds.dropWhile Char.isDigit)
    | rest => ([], rest)
  ["inf", "infinity", "nan"].contains (String.ofList (cs.map Char.toLower)) ||
    ((!whole.isEmpty || !fraction.isEmpty) && isExponent rest)

theorem decimalBelow?_eq_some {bound n : Nat} {cs : List Char} :
    decimalBelow? bound cs = some n ↔
      cs ≠ [] ∧ (∀ c ∈ cs, isDigitOf 10 c = true) ∧ ofDigits 10 cs = n ∧ n < bound := by
  unfold decimalBelow?
  split <;> simp_all
  · grind
  · grind

end RelayRoster.Text
