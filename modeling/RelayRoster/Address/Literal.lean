import RelayRoster.Address.Ip
import RelayRoster.Text.Numeral

namespace RelayRoster.Literal
open Text

/-- A digit run of at most `width` digits; without `zeros` a longer one starts with no zero. -/
def numeral? (base width : Nat) (zeros : Bool) (s : List Char) : Option (Nat × List Char) :=
  let ds := s.takeWhile (isDigitOf base)
  if ds.isEmpty || width < ds.length || (!zeros && 1 < ds.length && ds.head? == some '0') then none
  else some (ofDigits base ds, s.dropWhile (isDigitOf base))

def bounded? (bound : Nat) (s : List Char) : Option (Nat × List Char) :=
  (decimalBelow? bound (s.takeWhile (isDigitOf 10))).map (·, s.dropWhile (isDigitOf 10))

def char? (c : Char) : List Char → Option (List Char)
  | x :: r => if x = c then some r else none
  | [] => none

def octet? (s : List Char) : Option (UInt8 × List Char) :=
  match numeral? 10 3 false s with
  | some (n, r) => if n < 256 then some (UInt8.ofNat n, r) else none
  | none => none

def octets? (s : List Char) : Option (Vector UInt8 4 × List Char) := do
  let (a, s) ← octet? s
  let s ← char? '.' s
  let (b, s) ← octet? s
  let s ← char? '.' s
  let (c, s) ← octet? s
  let s ← char? '.' s
  let (d, s) ← octet? s
  return (#v[a, b, c, d], s)

def group (high low : UInt8) : UInt16 := high.toUInt16 <<< 8 ||| low.toUInt16

def separated? (first : Bool) (s : List Char) : Option (List Char) :=
  if first then some s else char? ':' s

/-- Up to `limit` groups; four octets stand for the last two. Says whether octets were read. -/
def groups (limit : Nat) (first : Bool) (s : List Char) : List UInt16 × Bool × List Char :=
  match limit with
  | 0 => ([], false, s)
  | n + 1 =>
    match if 0 < n then (separated? first s).bind octets? else none with
    | some (o, r) => ([group o[0] o[1], group o[2] o[3]], true, r)
    | none =>
      match (separated? first s).bind (numeral? 16 4 true) with
      | some (g, r) =>
        let (gs, octets, t) := groups n false r
        (UInt16.ofNat g :: gs, octets, t)
      | none => ([], false, s)

def eight? (gs : List UInt16) : Option (Vector UInt16 8) :=
  if h : gs.length = 8 then some ⟨gs.toArray, by simp [h]⟩ else none

/-- All eight groups, or fewer around a `::` that stands for at least one zero group. -/
def groups? (s : List Char) : Option (Vector UInt16 8 × List Char) :=
  let (front, octets, r) := groups 8 true s
  if front.length = 8 then (eight? front).map (·, r)
  else if octets then none
  else do
    let r ← char? ':' r
    let r ← char? ':' r
    let (back, _, r) := groups (7 - front.length) true r
    let gs ← eight? (front ++ List.replicate (8 - front.length - back.length) 0 ++ back)
    return (gs, r)

def port? (s : List Char) : Option (UInt16 × List Char) := do
  let r ← char? ':' s
  let (n, r) ← bounded? 65536 r
  return (UInt16.ofNat n, r)

/-- The interface after a `%`; none is interface zero. -/
def scope (s : List Char) : UInt32 × List Char :=
  match (char? '%' s).bind (bounded? 4294967296) with
  | some (n, r) => (UInt32.ofNat n, r)
  | none => (0, s)

def socketV4? (s : List Char) : Option (SocketAddress × List Char) := do
  let (o, s) ← octets? s
  let (p, s) ← port? s
  return (⟨.v4 o, p, 0⟩, s)

def socketV6? (s : List Char) : Option (SocketAddress × List Char) := do
  let s ← char? '[' s
  let (g, s) ← groups? s
  let (i, s) := scope s
  let s ← char? ']' s
  let (p, s) ← port? s
  return (⟨.v6 g, p, i⟩, s)

def whole : Option (α × List Char) → Option α
  | some (a, []) => some a
  | _ => none

end RelayRoster.Literal

namespace RelayRoster

def SocketAddress.ofText? (s : String) : Option SocketAddress :=
  Literal.whole ((Literal.socketV4? s.toList).or (Literal.socketV6? s.toList))

def Ip.ofText? (s : String) : Option Ip :=
  Literal.whole (((Literal.octets? s.toList).map fun (o, r) => (Ip.v4 o, r)).or
    ((Literal.groups? s.toList).map fun (g, r) => (Ip.v6 g, r)))

end RelayRoster
