import RelayRoster.Decimal.Binary64

namespace RelayRoster.Toml

/-- How a table came about, which decides what may still be added to it. -/
inductive Origin where
  /-- Written in braces: nothing may be added. -/
  | braces
  /-- Named by a header of its own. -/
  | header
  /-- Named only on the way to another header. -/
  | implied
  /-- Named on the way to a dotted key. -/
  | dotted
  deriving DecidableEq, Repr

/-- A value of a document. Dates and times carry no data, since no setting is one. A list of
blocks is what headers in double brackets make. -/
inductive Value where
  | text (s : String)
  | integer (n : Int)
  | float (x : Binary64)
  | boolean (b : Bool)
  | moment
  | array (items : List Value)
  | blocks (tables : List (List (String × Value)))
  | table (origin : Origin) (entries : List (String × Value))
  deriving Repr

abbrev Entries := List (String × Value)

namespace Entries

def get? (es : Entries) (key : String) : Option Value := List.lookup key es

def replace (es : Entries) (key : String) (v : Value) : Entries :=
  es.map fun e => if e.1 = key then (key, v) else e

def erase (es : Entries) (key : String) : Entries := es.filter (·.1 ≠ key)

/-- Changes the table that a path leads to, and makes the tables missing on the way. A path goes
into the last of a list of blocks; that of a dotted key enters no table that has a header. -/
def change (dotted : Bool) (origin : Origin) (es : Entries) (path : List String)
    (f : Origin → Entries → Option Entries) : Option Entries :=
  match path with
  | [] => f origin es
  | key :: path =>
    match es.get? key with
    | none =>
      let made := if dotted then Origin.dotted else .implied
      (change dotted made [] path f).map fun sub => es ++ [(key, .table made sub)]
    | some (.table o sub) =>
      if o = .braces ∨ (dotted ∧ o = .header) then none
      else (change dotted o sub path f).map fun sub => es.replace key (.table o sub)
    | some (.blocks tables) =>
      (change dotted .header (tables.getLast?.getD []) path f).map fun sub =>
        es.replace key (.blocks (tables.dropLast ++ [sub]))
    | some _ => none

/-- Adds a key that is not there yet. A dotted key is added only to a table that dotted keys made,
and a plain key only to one they did not make. -/
def insert (origin : Origin) (es : Entries) (path : List String) (key : String) (v : Value) :
    Option Entries :=
  change true origin es path fun o sub =>
    if (o = .dotted) = (path = []) ∨ (sub.get? key).isSome then none else some (sub ++ [(key, v)])

/-- Gives a table its header; one implied so far moves to the end. -/
def openTable (es : Entries) (path : List String) (key : String) : Option Entries :=
  change false .header es path fun _ sub =>
    match sub.get? key with
    | none => some (sub ++ [(key, .table .header [])])
    | some (.table .implied inner) => some (sub.erase key ++ [(key, .table .header inner)])
    | some _ => none

def openBlock (es : Entries) (path : List String) (key : String) : Option Entries :=
  change false .header es path fun _ sub =>
    match sub.get? key with
    | none => some (sub ++ [(key, .blocks [[]])])
    | some (.blocks tables) => some (sub.replace key (.blocks (tables ++ [[]])))
    | some _ => none

end Entries
end RelayRoster.Toml
