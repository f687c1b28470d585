import RelayRoster.Decimal.Binary64
import RelayRoster.Toml.Text
import RelayRoster.Toml.Value

namespace RelayRoster.Toml
open Text

/-- What follows the first digit of a run; an underscore stands between two digits. -/
def moreDigits (base : Nat) : Reader (List Char)
  | '_' :: c :: r => if isDigitOf base c then consText c (moreDigits base r) else none
  | '_' :: [] => none
  | c :: r => if isDigitOf base c then consText c (moreDigits base r) else some ([], c :: r)
  | [] => some ([], [])

def digits (base : Nat) : Reader (List Char)
  | c :: r => if isDigitOf base c then consText c (moreDigits base r) else none
  | [] => none

/-- The digits before a point; a leading zero stands alone. -/
def wholeDigits : Reader (List Char)
  | '0' :: r => some (['0'], r)
  | s => digits 10 s

def sign : List Char → Bool × List Char
  | '-' :: r => (true, r)
  | '+' :: r => (false, r)
  | s => (false, s)

def integer? (negative : Bool) (n : Nat) : Option Value :=
  let i : Int := if negative then -n else n
  if -9223372036854775808 ≤ i ∧ i < 9223372036854775808 then some (.integer i) else none

def based (base : Nat) (s : List Char) : Option (Value × List Char) :=
  match digits base s with
  | some (ds, r) => (integer? false (ofDigits base ds)).map (·, r)
  | none => none

/-- Positive overflow is malformed, negative overflow is infinite. -/
def float? (negative : Bool) (ds : List Char) (exponent : Int) : Option Value :=
  match Binary64.ofDecimal negative (ofDigits 10 ds) exponent with
  | .infinite false => none
  | x => some (.float x)

def exponent (negative : Bool) (ds : List Char) (places : Nat) (s : List Char) :
    Option (Value × List Char) :=
  let (down, r) := sign s
  match digits 10 r with
  | some (es, r) =>
    let e : Int := if down then -(ofDigits 10 es : Int) else ofDigits 10 es
    (float? negative ds (e - places)).map (·, r)
  | none => none

def isExponentMark (c : Char) : Bool := c = 'e' || c = 'E'

def decimal (negative : Bool) (s : List Char) : Option (Value × List Char) :=
  match wholeDigits s with
  | none => none
  | some (ds, '.' :: r) =>
    match digits 10 r with
    | none => none
    | some (fs, c :: r) =>
      if isExponentMark c then exponent negative (ds ++ fs) fs.length r
      else (float? negative (ds ++ fs) (-fs.length)).map (·, c :: r)
    | some (fs, []) => (float? negative (ds ++ fs) (-fs.length)).map (·, [])
  | some (ds, c :: r) =>
    if isExponentMark c then exponent negative ds 0 r
    else (integer? negative (ofDigits 10 ds)).map (·, c :: r)
  | some (ds, []) => (integer? negative (ofDigits 10 ds)).map (·, [])

def number (s : List Char) : Option (Value × List Char) :=
  match s with
  | '0' :: 'x' :: r => based 16 r
  | '0' :: 'o' :: r => based 8 r
  | '0' :: 'b' :: r => based 2 r
  | s =>
    let (negative, r) := sign s
    match r with
    | 'i' :: 'n' :: 'f' :: t => some (.float (.infinite negative), t)
    | 'n' :: 'a' :: 'n' :: t => some (.float .nan, t)
    | r => decimal negative r

end RelayRoster.Toml
