import RelayRoster.Event.Basic
import RelayRoster.Text.Blank
import RelayRoster.Text.Pattern
import RelayRoster.Text.Slice
import RelayRoster.Text.Split

namespace RelayRoster
open Text

/-- `target[span{field=value}]=level`, with parts left out: of the targets that start with a text,
the events that have a field are let through if they are at least this grave; without a level, none
of them. As no event is in a span, a directive on spans has no effect. -/
structure Directive where
  target? : Option String := none
  field? : Option String := none
  least? : Option Level := some .trace
  /-- Whether it is about spans, by their name or by the value of a field. -/
  forSpans : Bool := false
  deriving DecidableEq, Repr

namespace Directive

/-- A level by name in any letter case, or by number; `some none` is off. -/
def level? (cs : List Char) : Option (Option Level) :=
  let digits := match cs with
    | '+' :: ds | ds => ds
  match decimalBelow? 6 digits with
  | some n => [none, some .error, some .warn, some .info, some .debug, some .trace][n]?
  | none =>
    [("off", none), ("error", some .error), ("warn", some .warn), ("info", some .info),
      ("debug", some .debug), ("trace", some .trace)].lookup (String.ofList (cs.map Char.toLower))

/-- A value is a number or a pattern; only a number with a plus sign is no pattern too. -/
def isValue (cs : List Char) : Bool :=
  Pattern.isPattern cs || (cs.head? = some '+' && isUnsigned cs.tail)

def withField? (d : Directive) (cs : List Char) : Option Directive :=
  match split '=' cs with
  | [name] => some { d with field? := some (String.ofList name) }
  | name :: value :: _ =>
    if isValue value then some { d with field? := some (String.ofList name), forSpans := true }
    else none
  | [] => none

inductive Part where
  | start
  | levelOrTarget (start : Nat)
  | span (start : Nat)
  | field (start : Nat)
  | afterField
  | afterSpan
  | level (start : Nat)
  deriving DecidableEq, Repr

/-- The offsets are those of the text without the blanks around it; what they cut out is taken from
the text with them. -/
structure Reader where
  text : List Char
  offset : Nat := 0
  part : Part := .start
  directive : Directive := {}

namespace Reader

def goTo (r : Reader) (part : Part) : Option Reader := some { r with part }

def takeTarget? (r : Reader) (start : Nat) (part : Part) : Option Reader := do
  let target ← slice? start r.offset r.text
  return { r with part, directive := { r.directive with target? := some (String.ofList target) } }

def takeSpan? (r : Reader) (start : Nat) (mayBeEmpty : Bool) (part : Part) : Option Reader := do
  let name ← slice? start r.offset r.text
  -- A name may be empty where it ends the brackets.
  let forSpans := mayBeEmpty || !name.isEmpty
  return { r with part, directive := { r.directive with forSpans } }

def takeField? (r : Reader) (start : Nat) : Option Reader := do
  let text ← slice? start r.offset r.text
  if text.isEmpty then none
  else return { r with part := .afterField, directive := ← r.directive.withField? text }

def read? (r : Reader) (c : Char) : Option Reader :=
  let next := r.offset + 1
  match r.part with
  | .start =>
    if c = '[' then r.goTo (.span next)
    else if isAlphanumeric c || ['-', ':', '_'].contains c then r.goTo (.levelOrTarget r.offset)
    else none
  | .levelOrTarget start =>
    if c = '=' then r.takeTarget? start (.level next)
    else if c = '[' then r.takeTarget? start (.span next)
    else some r
  | .span start =>
    if c = ']' then r.takeSpan? start true .afterSpan
    else if c = '\x7b' then r.takeSpan? start false (.field next)
    else some r
  | .field start => if c = '\x7d' then r.takeField? start else some r
  | .afterField => if c = ']' then r.goTo .afterSpan else none
  | .afterSpan => if c = '=' then r.goTo (.level next) else none
  | .level _ => some r

def advance? (r : Reader) (c : Char) : Option Reader :=
  (r.read? c).map fun r => { r with offset := r.offset + c.utf8Size }

def directive? (r : Reader) : Option Directive :=
  match r.part with
  | .levelOrTarget start => do
    let text ← sliceFrom? start r.text
    match level? text with
    | some least? => return { least? }
    | none => return { target? := some (String.ofList text) }
  | .level start => do
    let text ← sliceFrom? start r.text
    -- A level that is left out lets everything through.
    if text.isEmpty then return r.directive
    else return { r.directive with least? := ← level? text }
  | .afterSpan => some r.directive
  | _ => none

end Reader

def trim (cs : List Char) : List Char :=
  ((cs.dropWhile isBlank).reverse.dropWhile isBlank).reverse

def ofText? (text : List Char) : Option Directive := do
  (← (trim text).foldlM Reader.advance? { text }).directive?

def allows (d : Directive) (l : Level) : Bool :=
  match d.least? with
  | some least => least.rank ≤ l.rank
  | none => false

def matchesTarget (d : Directive) (target : String) : Bool :=
  d.target?.all fun t => t.toList.isPrefixOf target.toList

def matchesFields (d : Directive) (names : List String) : Bool :=
  -- Every event has a message.
  d.field?.all fun f => f = "message" || names.contains f

/-- How long the target is; one that is left out counts as shorter than any. -/
def reach (d : Directive) : Nat := d.target?.elim 0 fun t => t.utf8ByteSize + 1

/-- A longer target is more special, then a field, then one whose name is later in order. -/
def atLeastAsSpecial (d e : Directive) : Bool :=
  if d.reach = e.reach then
    match d.field?, e.field? with
    | some f, some g => g ≤ f
    | none, some _ => false
    | _, none => true
  else e.reach < d.reach

end Directive

end RelayRoster
