import RelayRoster.Toml.Moment
import RelayRoster.Toml.Number

namespace RelayRoster.Toml

def afterWord? : List Char → List Char → Option (List Char)
  | [], s => some s
  | w :: ws, c :: s => if c = w then afterWord? ws s else none
  | _ :: _, [] => none

/-- The items of an array after its opening bracket. A comma may follow the last one. -/
def items (item : Reader Value) (s : List Char) : Option (List Value × List Char) :=
  match skipLines s with
  | ']' :: r => some ([], r)
  | t =>
    match item t with
    | none => none
    | some (v, r) =>
      match skipLines r with
      | ']' :: u => some ([v], u)
      | ',' :: u =>
        if u.length < s.length then
          match items item u with
          | some (vs, w) => some (v :: vs, w)
          | none => none
        else none
      | _ => none
termination_by s.length

def pairAt (item : Reader Value) (s : List Char) :
    Option ((List String × String × Value) × List Char) :=
  match key s with
  | some ((path, last), '=' :: r) => (item (skipSpace r)).map fun (v, t) => ((path, last, v), t)
  | _ => none

def pairs (item : Reader Value) (es : Entries) (s : List Char) : Option (Entries × List Char) :=
  match pairAt item s with
  | none => none
  | some ((path, last, v), r) =>
    match es.insert .braces path last v with
    | none => none
    | some es =>
      match skipSpace r with
      | '\x7d' :: u => some (es, u)
      | ',' :: u => if u.length < s.length then pairs item es u else none
      | _ => none
termination_by s.length

def value (depth : Nat) : Reader Value
  | '"' :: r => (stringAt ('"' :: r)).map fun (t, u) => (.text t, u)
  | '\'' :: r => (stringAt ('\'' :: r)).map fun (t, u) => (.text t, u)
  | '[' :: r =>
    match depth with
    | 0 => none
    | depth + 1 => (items (value depth) r).map fun (vs, u) => (.array vs, u)
  | '\x7b' :: r =>
    match depth, skipSpace r with
    | 0, _ => none
    | _, '\x7d' :: u => some (.table .braces [], u)
    | depth + 1, _ => (pairs (value depth) [] r).map fun (es, u) => (.table .braces es, u)
  | 't' :: r => (afterWord? ['r', 'u', 'e'] r).map (.boolean true, ·)
  | 'f' :: r => (afterWord? ['a', 'l', 's', 'e'] r).map (.boolean false, ·)
  | s => if looksLikeMoment s then (moment? s).map (.moment, ·) else number s

inductive Line where
  | table (path : List String) (key : String)
  | block (path : List String) (key : String)
  | pair (path : List String) (key : String) (v : Value)

def lineAt (s : List Char) : Option (Line × List Char) :=
  match s with
  | '[' :: '[' :: r =>
    match key r with
    | some ((path, last), ']' :: ']' :: t) => (afterItem? t).map (.block path last, ·)
    | _ => none
  | '[' :: r =>
    match key r with
    | some ((path, last), ']' :: t) => (afterItem? t).map (.table path last, ·)
    | _ => none
  | s =>
    -- Arrays and tables in braces nest to a depth of less than eighty.
    match pairAt (value 79) s with
    | some ((path, last, v), t) => (afterItem? t).map (.pair path last v, ·)
    | none => none

def lines (s : List Char) : Option (List Line) :=
  match afterComment (skipSpace s) with
  | [] => some []
  | c :: r =>
    match afterNewline? (c :: r) with
    | some t => if t.length < s.length then lines t else none
    | none =>
      match lineAt (skipSpace s) with
      | some (line, t) =>
        if t.length < s.length then (lines t).map (line :: ·) else none
      | none => none
termination_by s.length

structure Draft where
  root : Entries := []
  current : List String := []

def Draft.add (d : Draft) : Line → Option Draft
  | .table path key => (d.root.openTable path key).map fun root => ⟨root, path ++ [key]⟩
  | .block path key => (d.root.openBlock path key).map fun root => ⟨root, path ++ [key]⟩
  | .pair path key v =>
    (d.root.change false .header d.current fun o es => es.insert o path key v).map fun root =>
      { d with root }

/-- The top table of a well-formed document. A byte-order mark in front is skipped. -/
def document? (s : String) : Option Entries :=
  let cs := match s.toList with
    | '\ufeff' :: r => r
    | cs => cs
  (lines cs).bind fun ls => (ls.foldlM Draft.add {}).map Draft.root

end RelayRoster.Toml
