namespace RelayRoster

structure Duration where
  nanos : Nat
  deriving DecidableEq, Repr, Inhabited

namespace Duration

def ofSeconds (n : Nat) : Duration := ⟨n * 1000000000⟩
def ofMillis (n : Nat) : Duration := ⟨n * 1000000⟩

/-- The fraction `n / 10 ^ places` after a point, without zeros at its end; nothing if it is zero. -/
def fraction (places n : Nat) : String :=
  let ds := Nat.toDigits 10 n
  let padded := List.replicate (places - ds.length) '0' ++ ds
  let kept := (padded.reverse.dropWhile (· = '0')).reverse
  if kept.isEmpty then "" else String.ofList ('.' :: kept)

def scaled (places n : Nat) (unit : String) : String :=
  let whole := Nat.pow 10 places
  toString (n / whole) ++ fraction places (n % whole) ++ unit

def text (d : Duration) : String :=
  if 1000000000 ≤ d.nanos then scaled 9 d.nanos "s"
  else if 1000000 ≤ d.nanos then scaled 6 d.nanos "ms"
  else if 1000 ≤ d.nanos then scaled 3 d.nanos "µs"
  else scaled 0 d.nanos "ns"

end Duration
end RelayRoster
