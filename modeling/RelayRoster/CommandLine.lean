import RelayRoster.CommandLine.Error
import RelayRoster.Text.Split

namespace RelayRoster
open Text

structure Options where
  config : String := "relay-pool.toml"
  watch : Bool := false
  deriving DecidableEq, Repr

inductive CommandLine where
  | run (o : Options)
  | help
  | refused (e : CommandLineError)
  deriving DecidableEq, Repr

namespace CommandLine

def helpLines : List String :=
  ["Round-robin pool of health-checked relay endpoints", "", "Usage: relay-pool [OPTIONS]", "",
    "Options:",
    "  -c, --config <CONFIG>  Path to the TOML configuration file [default: relay-pool.toml]",
    "  -w, --watch            Reload the endpoint list when the configuration file changes",
    "  -h, --help             Print help"]

/-- A configuration option not taken up yet: none, one whose value is to come, or one with it. It is
taken up when the next option comes or the arguments end, which decides whose error is reported
first. -/
inductive Pending where
  | none
  | awaited
  | given (value : String)

structure State where
  given : List Flag := []
  config? : Option String := none
  pending : Pending := .none

inductive Stop where
  | help
  | error (e : CommandLineError)

abbrev Step := Except Stop State

def fail (e : CommandLineError) : Except Stop α := .error (.error e)

def State.setConfig (s : State) (value : String) : Step :=
  if s.config?.isSome then fail (.repeated .config)
  else if value.isEmpty then fail .noValue
  else .ok { s with given := s.given ++ [.config], config? := some value }

def State.settle (s : State) : Step :=
  match s.pending with
  | .none => .ok s
  | .awaited => fail .noValue
  | .given value => { s with pending := .none }.setConfig value

/-- The options given, with the pending one if its value is there; given twice, it counts as not
given. -/
def State.allGiven (s : State) : List Flag :=
  match s.pending with
  | .given _ => if s.given.contains .config then s.given.erase .config else s.given ++ [.config]
  | _ => s.given

def State.setWatch (s : State) : Step := do
  let s ← s.settle
  if s.given.contains .watch then fail (.repeated .watch)
  else .ok { s with given := s.given ++ [.watch] }

def State.askHelp (s : State) : Step := do
  let _ ← s.settle
  .error .help

def State.startConfig (s : State) (value? : Option String) : Step := do
  let s ← s.settle
  match value? with
  | some value => s.setConfig value
  | none => .ok { s with pending := .awaited }

/-- An option by its long name, which decides before anything else whether a value may follow. -/
def State.long (s : State) (name : String) (value? : Option String) : Step :=
  match Flag.all.find? (·.name = name), value? with
  | none, _ => fail (.unknown name s.allGiven)
  | some .config, value? => s.startConfig value?
  | some f, some value => fail (.unneededValue value f !s.given.isEmpty)
  | some .watch, none => s.setWatch
  | some .help, none => s.askHelp

/-- The letters of an argument after its dash. What follows a `c` is its value. -/
def State.short (s : State) : List Char → Step
  | [] => .ok s
  | 'w' :: rest => do (← s.setWatch).short rest
  | 'h' :: _ => s.askHelp
  | 'c' :: rest => s.startConfig (attached? rest)
  | c :: _ => fail (.unexpected ("-" ++ String.singleton c))
where
  attached? : List Char → Option String
    | [] => none
    | '=' :: value => some (String.ofList value)
    | value => some (String.ofList value)

def State.plain (s : State) (argument : String) : Step :=
  match s.pending with
  | .awaited => .ok { s with pending := .given argument }
  | _ => fail (.unexpected argument)

def State.argument (s : State) (argument : String) : Step :=
  match argument.toList with
  | '-' :: '-' :: name =>
    match splitFirst? '=' name with
    | some (name, value) => s.long (String.ofList name) (some (String.ofList value))
    | none => s.long (String.ofList name) none
  | '-' :: c :: rest => s.short (c :: rest)
  | _ => s.plain argument

/-- After a bare double dash no argument is expected any more. -/
def State.arguments (s : State) : List String → Step
  | [] => s.settle
  | "--" :: [] => s.settle
  | "--" :: argument :: _ => fail (.unexpected argument)
  | argument :: rest => do (← s.argument argument).arguments rest

def ofArguments (arguments : List String) : CommandLine :=
  match State.arguments {} arguments with
  | .ok s => .run { config := s.config?.getD "relay-pool.toml", watch := s.given.contains .watch }
  | .error .help => .help
  | .error (.error e) => .refused e

end CommandLine
end RelayRoster
