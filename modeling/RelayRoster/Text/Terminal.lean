namespace RelayRoster.Text

/-- How far a terminal is into a sequence, which starts with an escape and is obeyed, not shown. -/
inductive Terminal where
  | ground
  | escape
  /-- After an escape and a punctuation mark. -/
  | escapeRest
  | control
  | deviceStart
  | deviceNumbers
  | deviceRest
  /-- A string that only its own end mark ends. -/
  | message
  /-- A string that a bell ends. -/
  | title
  deriving DecidableEq, Repr

namespace Terminal

/-- A sequence ends at its final character, which for all but strings is a letter or a mark from `@`
on. Wherever it is, an escape starts anew and two controls cancel it. -/
def next (t : Terminal) (c : Char) : Terminal :=
  let n := c.toNat
  let mark := 0x20 ≤ n ∧ n ≤ 0x2f
  let number := 0x30 ≤ n ∧ n ≤ 0x3f
  let final := 0x40 ≤ n ∧ n ≤ 0x7e
  if n = 0x1b then .escape
  else if n = 0x18 ∨ n = 0x1a then .ground
  else match t with
    | .ground => .ground
    | .escape =>
      if c = '[' then .control
      else if c = ']' then .title
      else if c = 'P' then .deviceStart
      else if c = 'X' ∨ c = '^' ∨ c = '_' then .message
      else if mark then .escapeRest
      else if number ∨ final then .ground
      else .escape
    | .escapeRest => if number ∨ final then .ground else .escapeRest
    | .control => if final then .ground else .control
    | .deviceStart =>
      if final then .message
      else if number then .deviceNumbers
      else if mark then .deviceRest
      else .deviceStart
    | .deviceNumbers =>
      if final ∨ (number ∧ 0x3c ≤ n) then .message
      else if mark then .deviceRest
      else .deviceNumbers
    | .deviceRest => if final ∨ number then .message else .deviceRest
    | .message => .message
    | .title => if n = 0x07 then .ground else .title

/-- The end mark of a string is a single byte, which also ends it as a part of a character. -/
def nextWide (t : Terminal) (c : Char) : Terminal :=
  if t = .message ∧ (String.utf8EncodeChar c).contains 0x9c then .ground else t

/-- Controls that are white space act at once, also within all sequences but strings. -/
def shows (t : Terminal) (c : Char) : Bool :=
  let blank := ['\t', '\n', '\x0c', '\r'].contains c
  match t with
  | .ground => blank || (0x20 ≤ c.toNat && c.toNat ≤ 0x7e)
  | .escape | .escapeRest | .control => blank
  | _ => false

/-- The characters shown. What follows a shown one is shown too, up to the next that is not, and
only there does a sequence that was broken off go on. -/
def shown (showing : Bool) (t : Terminal) : List Char → List Char
  | [] => []
  | c :: cs =>
    if 0x80 ≤ c.toNat then
      if showing || t = .ground then c :: shown true .ground cs
      else shown false (t.nextWide c) cs
    else if (showing && shows .ground c) || t.shows c then c :: shown true t cs
    else shown false (t.next c) cs

end Terminal

def shownText (s : String) : String := String.ofList (Terminal.shown false .ground s.toList)

end RelayRoster.Text
