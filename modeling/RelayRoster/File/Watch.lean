import RelayRoster.Event.Basic
import RelayRoster.File.Tree

namespace RelayRoster

inductive ChangeKind where
  | created
  | modified
  | removed
  | accessed
  /-- The system does not say what happened. -/
  | unspecified
  /-- Something that is none of these. -/
  | other
  deriving DecidableEq, Repr

structure Change where
  kind : ChangeKind
  paths : List Path
  deriving DecidableEq, Repr

inductive FileAction where
  /-- Moves a finished file over the named one. -/
  | save (path : Path) (text : String)
  | rename (source dest : Path)
  | remove (path : Path)
  | makeDirectory (path : Path)
  /-- Changes the permissions, so that a directory can no longer be searched. -/
  | touch (path : Path)
  | read (path : Path)
  deriving DecidableEq, Repr

abbrev Report := ChangeKind × List Place

/-- The files after an action, and what it did in the order of the reports. A move is reported at
either place and then at both, unless it moves nothing. -/
def FileAction.run (t : FileTree) : FileAction → Except FileError (FileTree × List Report)
  | .save path text => do
    let p ← t.slot path
    if path.endsInDots then throw .busy
    if path.namesDirectory then throw .notDirectory
    return (← t.save p text, [(.modified, [p])])
  | .rename source dest => do
    let p ← t.slot source
    let q ← t.slot dest
    if source.endsInDots || dest.endsInDots then throw .busy
    if t.isFile p && (source.namesDirectory || dest.namesDirectory) then throw .notDirectory
    let reports := if p = q then [] else [(.modified, [p]), (.modified, [q]), (.modified, [p, q])]
    return (← t.move p q, reports)
  | .remove path => do
    let p ← t.slot path
    if t.isFile p && path.namesDirectory then throw .notDirectory
    return (← t.remove p, [(.removed, [p])])
  | .makeDirectory path => do
    let p ← t.slot path
    return (← t.makeDirectory p, [(.created, [p])])
  | .touch path => do
    let p ← t.find path
    return (← t.lock p, [(.modified, [p])])
  | .read path => do
    let p ← t.find path
    let _ ← t.textAt p
    return (t, [(.accessed, [p])])

/-- A watch for the settings at a path, on the directory at a place, so that a file moved over the
old one is seen as well. -/
structure Watch where
  path : Path
  place : Place
  deriving DecidableEq, Repr

namespace Watch

def start (t : FileTree) (path : Path) : Except FileError Watch := do
  let place ← t.find path.directory
  return ⟨path, place⟩

def concerns (name? : Option String) (c : Change) : Bool :=
  match name? with
  | none => false
  | some name =>
    (c.kind = .modified || c.kind = .created) && c.paths.any fun p => p.fileName? = some name

/-- Settings that were read again, and the report on it; faulty ones are not passed on. -/
def reread (path : Path) : Except LoadError Settings → Option Settings × Event
  | .ok s => (some s, .settingsReloaded path.text s.endpoints.length)
  | .error e => (none, .reloadRejected path.text e.message)

def handle (w : Watch) (load : Path → Except LoadError Settings) (c : Change) :
    Option (Option Settings × Event) :=
  if concerns w.path.fileName? c then some (reread w.path (load w.path)) else none

/-- What is seen of a report: one on places that are all in the watched directory itself. -/
def seen? (w : Watch) (r : Report) : Option Change :=
  if r.2.all fun p => !p.names.isEmpty && p.parent = w.place then
    some ⟨r.1, r.2.map fun p => w.path.directory.join (p.names.getLast?.getD "")⟩
  else none

def act (w : Watch) (t : FileTree) (a : FileAction) :
    Except FileError (FileTree × List (Option Settings × Event)) := do
  let (t, reports) ← a.run t
  return (t, (reports.filterMap w.seen?).filterMap (w.handle t.load))

end Watch
end RelayRoster
