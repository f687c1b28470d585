import RelayRoster.File.Path
import RelayRoster.Settings.Load

namespace RelayRoster

/-- What is at a place. Nothing in a directory that is not searchable can be reached. -/
inductive Node where
  | file (text : String)
  | directory (searchable : Bool)
  deriving DecidableEq, Repr

/-- Where the names of a place lead on from: the working directory, the root, or a directory above
the working directory. -/
inductive Base where
  | here
  | root
  | above
  deriving DecidableEq, Repr

structure Place where
  base : Base := .here
  names : List String := []
  deriving DecidableEq, Repr

namespace Place

def child (p : Place) (name : String) : Place := { p with names := p.names ++ [name] }

def parent (p : Place) : Place :=
  match p.base, p.names with
  | .here, [] => { base := .above }
  -- The root is above itself.
  | base, names => ⟨base, names.dropLast⟩

def holds (p q : Place) : Bool := p.base = q.base && p.names.isPrefixOf q.names

end Place

/-- The files and directories at their places; nothing else is known to exist. -/
structure FileTree where
  nodes : List (Place × Node) :=
    [({}, .directory true), (⟨.above, []⟩, .directory true), (⟨.root, []⟩, .directory true),
      (⟨.root, ["etc"]⟩, .directory true), (⟨.root, ["tmp"]⟩, .directory true),
      (⟨.root, ["dev"]⟩, .directory true), (⟨.root, ["dev", "null"]⟩, .file "")]
  deriving Repr

namespace FileTree

def node? (t : FileTree) (p : Place) : Option Node := t.nodes.lookup p

def isFile (t : FileTree) (p : Place) : Bool :=
  match t.node? p with
  | some (.file _) => true
  | _ => false

def put (t : FileTree) (p : Place) (n : Node) : FileTree := ⟨(p, n) :: t.nodes.filter (·.1 ≠ p)⟩

def erase (t : FileTree) (p : Place) : FileTree := ⟨t.nodes.filter fun x => !p.holds x.1⟩

def addFile (t : FileTree) (p : Path) (text : String) : FileTree :=
  let names := p.parts.filter fun s => s ≠ "" ∧ s ≠ "."
  let onTheWay := (List.range names.length).map fun k => names.take k
  let t := onTheWay.foldl (fun t names => t.put ⟨.here, names⟩ (.directory true)) t
  t.put ⟨.here, names⟩ (.file text)

/-- One part of a path further, to a place where nothing need be. -/
def step (t : FileTree) (place : Place) (part : String) : Except FileError Place :=
  match t.node? place with
  | none => .error .notFound
  | some (.file _) => .error .notDirectory
  | some (.directory false) => .error .permissionDenied
  | some (.directory true) =>
    if part = "" ∨ part = "." then .ok place
    else if part = ".." then .ok place.parent
    else if 255 < part.utf8ByteSize then .error .nameTooLong
    else .ok (place.child part)

def enter (t : FileTree) (place : Place) (part : String) : Except FileError Place := do
  let place ← t.step place part
  if (t.node? place).isSome then return place else throw .notFound

def start (p : Path) : Except FileError Place :=
  match p.text.toList with
  | [] => .error .notFound
  | c :: cs =>
    if (c :: cs).contains '\x00' then .error .nulInPath
    else if 4096 ≤ p.text.utf8ByteSize then .error .nameTooLong
    else .ok { base := if c = '/' then .root else .here }

def find (t : FileTree) (p : Path) : Except FileError Place := do
  p.parts.foldlM t.enter (← start p)

/-- The place that a path names, in a directory that there has to be. -/
def slot (t : FileTree) (p : Path) : Except FileError Place := do
  let parts := Path.trimEnd p.parts
  let directory ← parts.dropLast.foldlM t.enter (← start p)
  t.step directory (parts.getLast?.getD "")

def textAt (t : FileTree) (p : Place) : Except FileError String :=
  match t.node? p with
  | some (.file text) => .ok text
  | some (.directory _) => .error .isDirectory
  | none => .error .notFound

def read (t : FileTree) (p : Path) : Except FileError String := do t.textAt (← t.find p)

def load (t : FileTree) (p : Path) : Except LoadError Settings :=
  match t.read p with
  | .ok text => Settings.ofText text
  | .error e => .error (.unreadable e)

/-- Puts a finished file in the place of any file that is there. -/
def save (t : FileTree) (p : Place) (text : String) : Except FileError FileTree :=
  match t.node? p with
  | some (.directory _) => .error .isDirectory
  | _ => .ok (t.put p (.file text))

def makeDirectory (t : FileTree) (p : Place) : Except FileError FileTree :=
  match t.node? p with
  | some _ => .error .alreadyExists
  | none => .ok (t.put p (.directory true))

def remove (t : FileTree) (p : Place) : Except FileError FileTree :=
  match t.node? p with
  | some (.file _) => .ok (t.erase p)
  | some (.directory _) => .error .isDirectory
  | none => .error .notFound

/-- Takes the permission to search away, which means nothing to a file. -/
def lock (t : FileTree) (p : Place) : Except FileError FileTree :=
  match t.node? p with
  | some (.file _) => .ok t
  | some (.directory _) => .ok (t.put p (.directory false))
  | none => .error .notFound

def relocate (t : FileTree) (source dest : Place) : FileTree :=
  let moved := t.nodes.filterMap fun (p, n) =>
    if source.holds p then
      some ({ dest with names := dest.names ++ p.names.drop source.names.length }, n)
    else none
  ⟨moved ++ ((t.erase source).erase dest).nodes⟩

/-- A file can be moved over a file, and a directory over an empty one. -/
def move (t : FileTree) (source dest : Place) : Except FileError FileTree :=
  match t.node? source with
  | none => .error .notFound
  | some n =>
    if source = dest then .ok t
    else if source.holds dest then .error .invalidArgument
    else if dest.holds source then .error .notEmpty
    else match n, t.node? dest with
      | .directory _, some (.file _) => .error .notDirectory
      | .file _, some (.directory _) => .error .isDirectory
      | .directory _, some (.directory _) =>
        if t.nodes.any fun x => dest.holds x.1 && x.1 ≠ dest then .error .notEmpty
        else .ok (t.relocate source dest)
      | _, _ => .ok (t.relocate source dest)

end FileTree
end RelayRoster
