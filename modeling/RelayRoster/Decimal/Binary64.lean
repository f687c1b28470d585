namespace RelayRoster

/-- A finite number is its mantissa times a power of two. -/
inductive Binary64 where
  | finite (negative : Bool) (mantissa : Nat) (exponent : Int)
  | infinite (negative : Bool)
  | nan
  deriving DecidableEq, Repr

namespace Binary64

def minExponent : Int := -1074
def maxExponent : Int := 971

def log2Quotient (num den : Nat) : Int :=
  let d : Int := num.log2 - den.log2
  if den * Nat.pow 2 d.toNat ≤ num * Nat.pow 2 (-d).toNat then d else d - 1

def roundHalfEven (num den : Nat) : Nat :=
  let q := num / den
  let r := num % den
  if 2 * r < den ∨ (2 * r = den ∧ q % 2 = 0) then q else q + 1

/-- The number nearest to `num / den`; of two, the one with an even mantissa. -/
def ofQuotient (negative : Bool) (num den : Nat) : Binary64 :=
  let e := max (log2Quotient num den - 52) minExponent
  let m := roundHalfEven (num * Nat.pow 2 (-e).toNat) (den * Nat.pow 2 e.toNat)
  let (m, e) := if m = Nat.pow 2 53 then (Nat.pow 2 52, e + 1) else (m, e)
  if maxExponent < e then .infinite negative else .finite negative m e

/-- The number nearest to `n * 10 ^ e`. Magnitudes far outside the range are not computed. -/
def ofDecimal (negative : Bool) (n : Nat) (e : Int) : Binary64 :=
  let magnitude := (Nat.toDigits 10 n).length + e
  if n = 0 ∨ magnitude < -400 then .finite negative 0 minExponent
  else if 400 < magnitude then .infinite negative
  else ofQuotient negative (n * Nat.pow 10 e.toNat) (Nat.pow 10 (-e).toNat)

/-- Four times a positive finite number over a common denominator, and the distances on the same
scale to the ends of the interval that rounds to it. -/
structure Neighbourhood where
  value : Nat
  below : Nat
  above : Nat
  den : Nat
  closed : Bool

def neighbourhood (m : Nat) (e : Int) : Neighbourhood where
  value := 4 * m * Nat.pow 2 e.toNat
  below := (if m = Nat.pow 2 52 ∧ minExponent < e then 1 else 2) * Nat.pow 2 e.toNat
  above := 2 * Nat.pow 2 e.toNat
  den := 4 * Nat.pow 2 (-e).toNat
  closed := m % 2 = 0

def Neighbourhood.holds (v : Neighbourhood) (d : Nat) (p : Int) : Bool :=
  let x := d * Nat.pow 10 p.toNat * v.den
  let unit := Nat.pow 10 (-p).toNat
  let lo := (v.value - v.below) * unit
  let hi := (v.value + v.above) * unit
  if v.closed then lo ≤ x && x ≤ hi else lo < x && x < hi

/-- The multiple of `10 ^ p` nearest to the number among its two neighbours that read back; of two
equally near ones the upper. -/
def Neighbourhood.onGrid (v : Neighbourhood) (p : Int) : Option Nat :=
  let num := v.value * Nat.pow 10 (-p).toNat
  let den := v.den * Nat.pow 10 p.toNat
  let d := num / den
  match v.holds d p, v.holds (d + 1) p with
  | true, true => some (if 2 * (num % den) < den then d else d + 1)
  | true, false => some d
  | false, true => some (d + 1)
  | false, false => none

/-- The least `k` with `value / den < 10 ^ k`, from a starting guess that is at most one too low. -/
def digitsBefore (num den : Nat) : Int :=
  let guess := (log2Quotient num den * 30103).fdiv 100000
  let below (k : Int) : Bool := num * Nat.pow 10 (-k).toNat < den * Nat.pow 10 k.toNat
  if below guess then guess else if below (guess + 1) then guess + 1 else guess + 2

/-- The fewest digits, and their power of ten, that read back as `m * 2 ^ e`. -/
def shortest (m : Nat) (e : Int) : Nat × Int :=
  let v := neighbourhood m e
  let k := digitsBefore v.value v.den
  let hit := (List.range 17).findSome? fun i =>
    let n : Nat := i + 1
    (v.onGrid (k - n)).map fun d => if d = Nat.pow 10 n then (1, k) else (d, k - n)
  hit.getD (0, 0)

def positional (d : Nat) (p : Int) : String :=
  let ds := Nat.toDigits 10 d
  if 0 ≤ p then String.ofList (ds ++ List.replicate p.toNat '0' ++ ['.', '0'])
  else
    let places := (-p).toNat
    let ds := List.replicate (places + 1 - ds.length) '0' ++ ds
    String.ofList (ds.take (ds.length - places) ++ '.' :: ds.drop (ds.length - places))

def text : Binary64 → String
  | .nan => "NaN"
  | .infinite negative => if negative then "-inf" else "inf"
  | .finite negative m e =>
    let magnitude := if m = 0 then "0.0" else let (d, p) := shortest m e; positional d p
    if negative then "-" ++ magnitude else magnitude

end Binary64
end RelayRoster
