import RelayRoster.Text.Numeral

namespace RelayRoster.Toml
open Text

/-- A reader takes what it reads off the front of a text and returns the rest. It fails where no
continuation could be well-formed. -/
abbrev Reader (α : Type) := List Char → Option (α × List Char)

def isSpace (c : Char) : Bool := c = ' ' || c = '\t'

def skipSpace (s : List Char) : List Char := s.dropWhile isSpace

def isPrintable (c : Char) : Bool := c = '\t' || (0x20 ≤ c.toNat && c.toNat ≠ 0x7f)

def afterNewline? : List Char → Option (List Char)
  | '\n' :: r => some r
  | '\r' :: '\n' :: r => some r
  | _ => none

/-- The rest after a line's end, which the end of the text is too. -/
def afterLine? : List Char → Option (List Char)
  | [] => some []
  | s => afterNewline? s

def afterComment : List Char → List Char
  | '#' :: r => r.dropWhile isPrintable
  | s => s

def afterItem? (s : List Char) : Option (List Char) := afterLine? (afterComment (skipSpace s))

/-- Space, comments and newlines between the items of an array. -/
def skipLines (s : List Char) : List Char :=
  let t := skipSpace s
  match afterNewline? (afterComment t) with
  | some r => if r.length < s.length then skipLines r else t
  | none => t
termination_by s.length

def hexadecimal? (cs : List Char) : Option Char :=
  if cs.all (isDigitOf 16) then
    let n := ofDigits 16 cs
    if n.isValidChar then some (Char.ofNat n) else none
  else none

def consText (c : Char) : Option (List Char × List Char) → Option (List Char × List Char)
  | some (cs, r) => some (c :: cs, r)
  | none => none

def basic : Reader (List Char)
  | '"' :: r => some ([], r)
  | '\\' :: 'b' :: r => consText '\x08' (basic r)
  | '\\' :: 't' :: r => consText '\t' (basic r)
  | '\\' :: 'n' :: r => consText '\n' (basic r)
  | '\\' :: 'f' :: r => consText '\x0c' (basic r)
  | '\\' :: 'r' :: r => consText '\r' (basic r)
  | '\\' :: '"' :: r => consText '"' (basic r)
  | '\\' :: '\\' :: r => consText '\\' (basic r)
  | '\\' :: 'u' :: a :: b :: c :: d :: r =>
    match hexadecimal? [a, b, c, d] with
    | some x => consText x (basic r)
    | none => none
  | '\\' :: 'U' :: a :: b :: c :: d :: e :: f :: g :: h :: r =>
    match hexadecimal? [a, b, c, d, e, f, g, h] with
    | some x => consText x (basic r)
    | none => none
  | c :: r => if c ≠ '\\' && isPrintable c then consText c (basic r) else none
  | [] => none

def literal : Reader (List Char)
  | '\'' :: r => some ([], r)
  | c :: r => if isPrintable c then consText c (literal r) else none
  | [] => none

/-- The end of a multi-line string: three quotes, before which one or two more may stand. -/
def closing? (quote : Char) (s : List Char) : Option (List Char × List Char) :=
  let run := (s.takeWhile (· = quote)).length
  if run < 3 then none
  else
    let extra := min (run - 3) 2
    some (List.replicate extra quote, s.drop (extra + 3))

/-- Whether the rest of the line after a backslash is blank, so that the line goes on. -/
def continues (s : List Char) : Bool := (afterNewline? (skipSpace s)).isSome

/-- The body of a string between three double quotes. After a line that goes on, space and
newlines are left out up to the next other character. -/
def multiBasic (continued : Bool) : Reader (List Char)
  | '\n' :: r => if continued then multiBasic true r else consText '\n' (multiBasic false r)
  | '\r' :: '\n' :: r => if continued then multiBasic true r else consText '\n' (multiBasic false r)
  | '\\' :: 'b' :: r => consText '\x08' (multiBasic false r)
  | '\\' :: 't' :: r => consText '\t' (multiBasic false r)
  | '\\' :: 'n' :: r => consText '\n' (multiBasic false r)
  | '\\' :: 'f' :: r => consText '\x0c' (multiBasic false r)
  | '\\' :: 'r' :: r => consText '\r' (multiBasic false r)
  | '\\' :: '"' :: r => consText '"' (multiBasic false r)
  | '\\' :: '\\' :: r => consText '\\' (multiBasic false r)
  | '\\' :: 'u' :: a :: b :: c :: d :: r =>
    match hexadecimal? [a, b, c, d] with
    | some x => consText x (multiBasic false r)
    | none => none
  | '\\' :: 'U' :: a :: b :: c :: d :: e :: f :: g :: h :: r =>
    match hexadecimal? [a, b, c, d, e, f, g, h] with
    | some x => consText x (multiBasic false r)
    | none => none
  | '\\' :: r => if continues r then multiBasic true r else none
  | c :: r =>
    match closing? '"' (c :: r) with
    | some found => some found
    | none =>
      if continued && isSpace c then multiBasic true r
      else if isPrintable c then consText c (multiBasic false r) else none
  | [] => none

def multiLiteral : Reader (List Char)
  | '\r' :: '\n' :: r => consText '\n' (multiLiteral r)
  | c :: r =>
    match closing? '\'' (c :: r) with
    | some found => some found
    | none => if c = '\n' || isPrintable c then consText c (multiLiteral r) else none
  | [] => none

/-- A newline right after the opening quotes is no part of the string. -/
def trimNewline (s : List Char) : List Char := (afterNewline? s).getD s

def asString : Option (List Char × List Char) → Option (String × List Char)
  | some (cs, r) => some (String.ofList cs, r)
  | none => none

def stringAt : Reader String
  | '"' :: '"' :: '"' :: r => asString (multiBasic false (trimNewline r))
  | '"' :: r => asString (basic r)
  | '\'' :: '\'' :: '\'' :: r => asString (multiLiteral (trimNewline r))
  | '\'' :: r => asString (literal r)
  | _ => none

def isBare (c : Char) : Bool := c.isAlphanum || c = '_' || c = '-'

def simpleKey (s : List Char) : Option (String × List Char) :=
  match s with
  | '"' :: r => asString (basic r)
  | '\'' :: r => asString (literal r)
  | _ =>
    let bare := s.takeWhile isBare
    if bare.isEmpty then none else some (String.ofList bare, s.dropWhile isBare)

def keyParts (s : List Char) : Option (List String × List Char) :=
  match simpleKey (skipSpace s) with
  | none => none
  | some (key, r) =>
    match skipSpace r with
    | '.' :: t =>
      if t.length < s.length then
        match keyParts t with
        | some (keys, u) => some (key :: keys, u)
        | none => none
      else none
    | t => some ([key], t)
termination_by s.length

/-- The path and the last part of a key. A key has fewer than eighty parts. -/
def key (s : List Char) : Option ((List String × String) × List Char) :=
  match keyParts s with
  | some (parts, r) =>
    match parts.getLast? with
    | some last => if parts.length < 80 then some ((parts.dropLast, last), r) else none
    | none => none
  | none => none

end RelayRoster.Toml
