import RelayRoster.Daemon
import RelayRoster.Event.Line
import Std.Time

namespace RelayRoster.Program

/-- The code of a path through a file may come with either sign. -/
def fileError : IO.Error → FileError
  | .inappropriateType _ code _ => if code = 20 ∨ code + 20 = 0 then .notDirectory else .isDirectory
  | .permissionDenied .. => .permissionDenied
  | .invalidArgument .. => .nameTooLong
  | _ => .notFound

def load (path : String) : IO (Except LoadError Settings) := do
  try return Settings.ofFile (.ok (← IO.FS.readBinFile path))
  catch e => return Settings.ofFile (.error (fileError e))

def now : IO Nat := do return (← Std.Time.Timestamp.now).toNanosecondsSinceUnixEpoch.val.toNat

def write (format : LogFormat) (events : List Event) : IO Unit := do
  let output ← IO.getStdout
  for e in events do
    output.putStrLn (e.writtenLine format (Text.timeText ((← now) / 1000)))
  output.flush

def finish (e : Ending) : IO UInt32 := do
  for line in e.output do IO.println line
  IO.eprint e.errors
  return UInt32.ofNat e.status

def signal (line : Except IO.Error String) : Signal :=
  match line with
  | .ok text => if text.trimAscii == "SIGINT" then .interrupt else .terminate
  | .error _ => .terminate

/-- Writes what is new, then ticks, reads changed settings and waits for the signal in turn. The
signal is a line on standard input. -/
partial def serve (started : Nat) (input : Task (Except IO.Error String)) (o : Options)
    (written : Nat) (last : Option ByteArray) (d : Daemon) : IO UInt32 := do
  let format := d.settings.report.logFormat
  write format (d.log.drop written)
  let written := d.log.length
  if ← IO.hasFinished input then
    let e := d.stop (signal input.get)
    write format (e.log.drop written)
    finish { e with log := [] }
  else
    IO.sleep 100
    let d := if d.ticker.due + started ≤ (← now) then d.tick else d
    if o.watch then
      let bytes ← try pure (some (← IO.FS.readBinFile o.config)) catch _ => pure last
      let unchanged := bytes.map (·.toList) == last.map (·.toList)
      let d ← if unchanged then pure d else pure (d.reread (← load o.config))
      serve started input o written bytes d
    else serve started input o written last d

def start (o : Options) (around : Surroundings) : IO UInt32 := do
  match ← load o.config with
  | .error e => finish (Daemon.loadFailed e)
  | .ok s =>
    let watch? := if o.watch then some ⟨⟨o.config⟩, {}⟩ else none
    match Daemon.launch o around watch? s with
    | .error e => finish e
    | .ok d =>
      let bytes ← try pure (some (← IO.FS.readBinFile o.config)) catch _ => pure none
      let input ← IO.asTask (do (← IO.getStdin).getLine)
      serve (← now) input o 0 bytes d

end RelayRoster.Program

open RelayRoster in
def main (arguments : List String) : IO UInt32 := do
  match CommandLine.ofArguments arguments with
  | .help => Program.finish { status := 0, output := CommandLine.helpLines }
  | .refused e => Program.finish { status := 2, errors := e.message }
  | .run o =>
    -- There is no binding to sockets here: every probe is refused or does not find the name.
    let network : Network := { clock := ⟨← IO.monoNanosNow⟩ }
    Program.start o { arguments, network, filter? := ← IO.getEnv "RUST_LOG" }
