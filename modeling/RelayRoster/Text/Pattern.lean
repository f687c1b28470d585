import RelayRoster.Text.Alphanumeric
import RelayRoster.Text.Numeral

namespace RelayRoster.Text.Pattern

/-- A character as it stands, an escape for one, an escape for a set of them, or one for a place. -/
inductive Token where
  | plain (c : Char)
  | escaped (n : Nat)
  | set
  | place
  deriving DecidableEq, Repr

/-- The letters that hexadecimal escapes start with, and how many digits they have. -/
def hexDigits? : Char → Option Nat
  | 'x' => some 2
  | 'u' => some 4
  | 'U' => some 8
  | _ => none

def ofLetter? (c : Char) : Option Token :=
  if "dDsSwW".contains c then some .set
  else if "Az".contains c then some .place
  -- Escapes for the bounds of words are not supported.
  else if c.isAlphanum || !(c.toNat < 0x80) || c = '<' || c = '>' then
    ([('a', 7), ('f', 12), ('t', 9), ('n', 10), ('r', 13), ('v', 11)].lookup c).map Token.escaped
  else some (.escaped c.toNat)

def escape? (cs : List Char) : Option (Token × Nat) :=
  match cs with
  | [] => none
  | c :: cs =>
    if c = 'p' ∨ c = 'P' then
      if (cs.head?.elim false fun k => "LMNPSZClmnpszc".contains k) then some (.set, 2) else none
    else match hexDigits? c with
      | some digits =>
        let ds := cs.take digits
        let n := ofDigits 16 ds
        let wellFormed := ds.length = digits ∧ ds.all (isDigitOf 16) ∧ n.isValidChar
        if wellFormed then some (.escaped n, digits + 1) else none
      | none => (ofLetter? c).map fun t => (t, 1)

def tokens? : List Char → Option (List Token)
  | [] => some []
  | c :: cs =>
    if c = '\\' then
      match escape? cs with
      | none => none
      | some (t, n) => (tokens? (cs.drop n)).map (t :: ·)
    else (tokens? cs).map (.plain c :: ·)
termination_by cs => cs.length
decreasing_by all_goals simp only [List.length_cons, List.length_drop]; omega

inductive Within where
  /-- After the bracket. -/
  | opened
  /-- After the mark that negates the class. -/
  | negated
  /-- After dashes that start it. -/
  | dashes
  /-- Before an item that is not the first. -/
  | item
  /-- After a character, with its number, or after a set. -/
  | after (n? : Option Nat)
  /-- After a character or set and a dash. -/
  | dash (n? : Option Nat)
  /-- After a dash in the place of an item. -/
  | loneDash
  deriving DecidableEq, Repr

/-- Where the reading is: among expressions, and whether there is one to repeat; in a group that
starts; in its flags or its name; or in classes within classes. -/
inductive Where where
  | body (operand : Bool)
  | group
  | question
  | nameMark
  | name (name : List Char)
  | flags (seen : List Char) (negated dangling : Bool)
  | classes (depth : Nat) (within : Within)
  deriving DecidableEq, Repr

structure Reading where
  opened : Nat := 0
  names : List (List Char) := []
  place : Where := .body false
  deriving DecidableEq, Repr

namespace Reading

def goTo (r : Reading) (place : Where) : Option Reading := some { r with place }

def openGroup (r : Reading) : Reading := { r with opened := r.opened + 1, place := .body false }

def inBody (r : Reading) (operand : Bool) : Token → Option Reading
  | .plain '(' => r.goTo .group
  | .plain ')' =>
    if r.opened = 0 then none else some { r with opened := r.opened - 1, place := .body true }
  | .plain '[' => r.goTo (.classes 1 .opened)
  | .plain '|' => r.goTo (.body false)
  | .plain '\x7b' => none
  | .plain c => if "*+?".contains c && !operand then none else r.goTo (.body true)
  | _ => r.goTo (.body true)

/-- Flags, each at most once, of which those after a dash are switched off. -/
def inFlags (r : Reading) (seen : List Char) (negated dangling : Bool) : Token → Option Reading
  | .plain ':' => if dangling then none else some r.openGroup
  | .plain ')' => if dangling || (seen.isEmpty && !negated) then none else r.goTo (.body false)
  | .plain '-' => if negated then none else r.goTo (.flags seen true true)
  | .plain c =>
    if "imsUuxR".contains c && !seen.contains c then r.goTo (.flags (c :: seen) negated false)
    else none
  | _ => none

def inName (r : Reading) (name : List Char) : Token → Option Reading
  | .plain '>' =>
    if name.isEmpty || r.names.contains name then none
    else some { r.openGroup with names := name :: r.names }
  | .plain c =>
    let first := c = '_' || (isAlphanumeric c && !c.isDigit)
    let later := isAlphanumeric c || "_.[]".contains c
    if if name.isEmpty then first else later then r.goTo (.name (name ++ [c])) else none
  | _ => none

def inItem (r : Reading) (depth : Nat) : Token → Option Reading
  | .plain '[' => r.goTo (.classes (depth + 1) .opened)
  | .plain ']' => if depth ≤ 1 then r.goTo (.body true) else r.goTo (.classes (depth - 1) .item)
  | .plain '-' => r.goTo (.classes depth .loneDash)
  | .plain c => r.goTo (.classes depth (.after (some c.toNat)))
  | .escaped n => r.goTo (.classes depth (.after (some n)))
  | .set => r.goTo (.classes depth (.after none))
  | .place => none

def endRange (r : Reading) (depth : Nat) (n? : Option Nat) (t : Token) : Option Reading :=
  let stop? := match t with
    | .plain c => some c.toNat
    | .escaped n => some n
    | _ => none
  match n?, stop? with
  | some start, some stop => if start ≤ stop then r.goTo (.classes depth .item) else none
  | _, _ => none

/-- A bracket that closes a class right at its start is a character of it. Two dashes, ampersands or
tildes join classes. -/
def inClass (r : Reading) (depth : Nat) (w : Within) (t : Token) : Option Reading :=
  match w, t with
  | .opened, .plain '^' => r.goTo (.classes depth .negated)
  | .opened, .plain '-' | .negated, .plain '-' | .dashes, .plain '-' =>
    r.goTo (.classes depth .dashes)
  | .opened, .plain ']' | .negated, .plain ']' => r.goTo (.classes depth (.after (some ']'.toNat)))
  | .loneDash, .plain '-' => r.goTo (.classes depth .item)
  | .dash _, .plain '-' => r.goTo (.classes depth .item)
  | .dash _, .plain ']' => r.inItem depth t
  | .dash n?, t => r.endRange depth n? t
  | .after n?, .plain '-' => r.goTo (.classes depth (.dash n?))
  | .after n?, .plain c =>
    if n? = some c.toNat && (c = '&' || c = '~') then r.goTo (.classes depth .item)
    else r.inItem depth t
  | _, t => r.inItem depth t

def step (r : Reading) (t : Token) : Option Reading :=
  match r.place with
  | .body operand => r.inBody operand t
  | .group => if t = .plain '?' then r.goTo .question else r.openGroup.inBody false t
  | .question =>
    if t = .plain 'P' then r.goTo .nameMark
    else if t = .plain '<' then r.goTo (.name [])
    else r.inFlags [] false false t
  | .nameMark => if t = .plain '<' then r.goTo (.name []) else none
  | .name name => r.inName name t
  | .flags seen negated dangling => r.inFlags seen negated dangling t
  | .classes depth within => r.inClass depth within t

def done (r : Reading) : Bool := r.opened = 0 && (r.place = .body true || r.place = .body false)

end Reading

/-- Whether a text is a regular expression. Counted repetitions are left out, so that an opening
brace is an error. -/
def isPattern (cs : List Char) : Bool :=
  match tokens? cs with
  | some ts => (ts.foldlM Reading.step {}).elim false Reading.done
  | none => false

end RelayRoster.Text.Pattern
