import RelayRoster.Event.Directive

namespace RelayRoster
open Text

structure Filter where
  directives : List Directive
  deriving DecidableEq, Repr

namespace Filter

def ofText? (s : String) : Option Filter :=
  let pieces := (split ',' s.toList).filter (!·.isEmpty)
  (pieces.mapM Directive.ofText?).map fun ds => ⟨ds.filter (!·.forSpans)⟩

/-- The most special of the directives that match an event; of equal ones the last. -/
def governing? (f : Filter) (e : Event) : Option Directive :=
  let names := e.fields.map (·.1)
  let matching := f.directives.filter fun d => d.matchesTarget e.target && d.matchesFields names
  matching.foldl (fun best d => if best.all d.atLeastAsSpecial then some d else best) none

/-- An event under no directive is dropped. -/
def passes (f : Filter) (e : Event) : Bool :=
  match f.governing? e with
  | some d => d.allows e.level
  | none => false

def defaultText (logLevel : String) : String := "warn,relay_pool=" ++ logLevel

def choose (given? : Option String) (logLevel : String) : Filter :=
  match given?.bind ofText? with
  | some f => f
  | none => (ofText? (defaultText logLevel)).getD ⟨[]⟩

end Filter
end RelayRoster
