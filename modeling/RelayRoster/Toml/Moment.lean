import RelayRoster.Toml.Text

namespace RelayRoster.Toml
open Text

def fixedNumber (width : Nat) (s : List Char) : Option (Nat × List Char) :=
  let ds := s.take width
  if ds.length = width && ds.all (isDigitOf 10) then some (ofDigits 10 ds, s.drop width) else none

def pair (lo hi : Nat) (s : List Char) : Option (Nat × List Char) :=
  match fixedNumber 2 s with
  | some (n, r) => if lo ≤ n && n ≤ hi then some (n, r) else none
  | none => none

def mark (c : Char) : List Char → Option (List Char)
  | x :: r => if x = c then some r else none
  | [] => none

def isLeapYear (y : Nat) : Bool := y % 4 = 0 && (y % 100 ≠ 0 || y % 400 = 0)

def daysInMonth (year month : Nat) : Nat :=
  if month = 2 then if isLeapYear year then 29 else 28
  else if [4, 6, 9, 11].contains month then 30 else 31

def date? (s : List Char) : Option (List Char) := do
  let (year, s) ← fixedNumber 4 s
  let s ← mark '-' s
  let (month, s) ← pair 1 12 s
  let s ← mark '-' s
  let (day, s) ← pair 1 31 s
  if day ≤ daysInMonth year month then some s else none

/-- The second after a minute's last is a leap second. -/
def time? (s : List Char) : Option (List Char) := do
  let (_, s) ← pair 0 23 s
  let s ← mark ':' s
  let (_, s) ← pair 0 59 s
  let s ← mark ':' s
  let (_, s) ← pair 0 60 s
  match s with
  | '.' :: r => if (r.head?.map (isDigitOf 10)).getD false then some (r.dropWhile (isDigitOf 10)) else none
  | s => some s

def offset? (s : List Char) : Option (List Char) :=
  match s with
  | 'Z' :: r => some r
  | 'z' :: r => some r
  | c :: r =>
    if c = '+' || c = '-' then do
      let (_, r) ← pair 0 23 r
      let r ← mark ':' r
      let (_, r) ← pair 0 59 r
      some r
    else some s
  | [] => some s

/-- What parts a time from its date. A space does so only before a digit. -/
def afterDate? (s : List Char) : Option (List Char) :=
  match s with
  | c :: d :: r =>
    if c = 'T' || c = 't' || (c = ' ' && isDigitOf 10 d) then some (d :: r) else none
  | _ => none

def looksLikeMoment (s : List Char) : Bool :=
  ((fixedNumber 4 s).bind fun (_, r) => mark '-' r).isSome ||
    ((fixedNumber 2 s).bind fun (_, r) => mark ':' r).isSome

/-- A date, a time, or a date and a time with an offset or without. It is checked and not kept, since
no setting is one. -/
def moment? (s : List Char) : Option (List Char) :=
  match date? s with
  | some r =>
    match afterDate? r with
    | some t => (time? t).bind offset?
    | none => some r
  | none => time? s

end RelayRoster.Toml
