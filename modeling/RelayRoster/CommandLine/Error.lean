import RelayRoster.Text.Likeness
import RelayRoster.Text.Terminal

namespace RelayRoster
open Text

inductive Flag where
  | config
  | watch
  | help
  deriving DecidableEq, Repr

namespace Flag

def all : List Flag := [.config, .watch, .help]

def name : Flag → String
  | .config => "config"
  | .watch => "watch"
  | .help => "help"

def text (f : Flag) : String := "--" ++ f.name

def usage : Flag → String
  | .config => "--config <CONFIG>"
  | f => f.text

def similar? (name : String) : Option Flag :=
  (mostAlike? name.toList (all.map Flag.name)).bind fun n => all.find? (·.name = n)

end Flag

inductive CommandLineError where
  | unexpected (argument : String)
  /-- An option that there is not, and the options given before it. -/
  | unknown (name : String) (given : List Flag)
  | noValue
  | repeated (f : Flag)
  /-- A value for an option that takes none, after other options or not. -/
  | unneededValue (value : String) (f : Flag) (afterOthers : Bool)
  deriving DecidableEq, Repr

namespace CommandLineError

def usage (arguments : String) : String := "\n\nUsage: relay-pool " ++ arguments

def anyUsage : String := usage "[OPTIONS]"

def tip : String := "\n\nFor more information, try '--help'.\n"

def unexpectedText (argument : String) : String :=
  "error: unexpected argument '" ++ shownText argument ++ "' found"

def similarText (f : Flag) : String := "\n\n  tip: a similar argument exists: '" ++ f.text ++ "'"

def usageOf (given : List Flag) (meant? : Option Flag) : String :=
  match (given ++ meant?.toList).eraseDups with
  | [] => anyUsage
  | fs => usage (" ".intercalate (fs.map Flag.usage))

/-- The usage shown with an option that got a value; after others the options that can be given are
listed as a choice. -/
def choiceUsage (f : Flag) (afterOthers : Bool) : String :=
  let choice := "<" ++ "|".intercalate ([Flag.config, .watch].map Flag.usage) ++ ">"
  if !afterOthers then usage f.usage
  else if f = .help then usage (f.usage ++ " " ++ choice)
  else usage choice

def message : CommandLineError → String
  | .unexpected argument => unexpectedText argument ++ anyUsage ++ tip
  | .unknown name given =>
    let meant? := Flag.similar? name
    unexpectedText ("--" ++ name) ++ meant?.elim "" similarText ++ usageOf given meant? ++ tip
  | .noValue => "error: a value is required for '--config <CONFIG>' but none was supplied" ++ tip
  | .repeated f =>
    "error: the argument '" ++ f.usage ++ "' cannot be used multiple times" ++ anyUsage ++ tip
  | .unneededValue value f afterOthers =>
    "error: unexpected value '" ++ shownText value ++ "' for '" ++ f.text ++
      "' found; no more were expected" ++ choiceUsage f afterOthers ++ tip

end CommandLineError
end RelayRoster
