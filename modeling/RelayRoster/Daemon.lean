import RelayRoster.CommandLine
import RelayRoster.Event.Filter
import RelayRoster.File.Watch
import RelayRoster.Monitor
import RelayRoster.Reload

namespace RelayRoster

structure Surroundings where
  arguments : List String
  files : FileTree := {}
  network : Network := {}
  filter? : Option String := none

structure Ending where
  status : Nat
  output : List String := []
  errors : String := ""
  log : List Event := []
  format : LogFormat := .pretty

inductive Signal where
  | interrupt
  | terminate
  deriving DecidableEq, Repr

/-- A program that runs. The first tick is due at once. -/
structure Daemon where
  settings : Settings
  filter : Filter
  network : Network
  files : FileTree
  roster : Roster
  watch? : Option Watch
  reload : Reload
  ticker : Ticker
  sweeps : Nat := 0
  /-- The written events that a wait has already answered to, by their place in the log. -/
  seen : List Nat := []

namespace Daemon

def log (d : Daemon) : List Event := d.roster.journal.reverse.filter d.filter.passes

/-- The tasks that wait for the stop signal. -/
def tasks (d : Daemon) : Nat :=
  (if d.settings.health.enabled then 1 else 0) + (if d.watch?.isSome then 1 else 0)

/-- Sweeps at the tick that is due. Apart from ticks no time passes. Where no other tasks run, those of
the sweeps are counted on from the program's own. -/
def tick (d : Daemon) : Daemon :=
  if d.settings.health.enabled then
    let net := d.network.later ⟨d.ticker.due⟩
    let (_, roster) := d.roster.reportedSweep net (d.tasks + d.sweeps + 1)
    { d with roster, sweeps := d.sweeps + 1, ticker := d.ticker.advance d.ticker.due }
  else d

def metricsEvents (network : Network) (r : ReportSettings) : List Event :=
  if r.metricsEnabled then
    match SocketAddress.ofText? r.metricsAddress with
    | none => [.exporterMisaddressed r.metricsAddress]
    | some on =>
      match network.listenError? on with
      | some e => [.exporterFailed on e]
      | none => [.exporterListening on]
  else []

def monitorStart (h : HealthSettings) : Event :=
  if h.enabled then .monitorStarted h.interval.toNat h.timeout.toNat else .monitorDisabled

def failed (errors : String) : Ending := { status := 1, errors := "Error: " ++ errors }

def loadFailed (e : LoadError) : Ending :=
  match e with
  | .malformed | .misfit _ => failed e.detail
  | e => failed (e.detail ++ "\n")

def duplicateDetail (address : String) : String :=
  "DuplicateEndpoint" ++ Fault.withField "address" (Text.quoted address)

def launch (o : Options) (around : Surroundings) (watch? : Option Watch) (s : Settings) :
    Except Ending Daemon :=
  let roster : Roster := Roster.reportAll {}
    ([.programStarted,
      .settingsLoaded o.config s.endpoints.length s.health.enabled s.health.interval.toNat] ++
      metricsEvents around.network s.report)
  match roster.build s with
  | (.error address, _) => .error (failed (duplicateDetail address ++ "\n"))
  | (.ok (), roster) =>
    let d : Daemon :=
      { settings := s
        filter := Filter.choose around.filter? s.report.logLevel
        network := around.network
        files := around.files
        roster := roster.report (monitorStart s.health)
        watch?
        reload := {}
        ticker :=
          { period := Roster.sweepPeriod s.health, pos := by unfold Roster.sweepPeriod; omega } }
    let d := d.tick
    match watch? with
    | some w => .ok { d with roster := d.roster.report (.watchStarted w.path.directory.text) }
    | none => .ok d

def watchFor (o : Options) (files : FileTree) : Except FileError (Option Watch) :=
  if o.watch then some <$> Watch.start files ⟨o.config⟩ else .ok none

def start (around : Surroundings) : Except Ending Daemon :=
  match CommandLine.ofArguments around.arguments with
  | .help => .error { status := 0, output := CommandLine.helpLines }
  | .refused e => .error { status := 2, errors := e.message }
  | .run o =>
    match around.files.load ⟨o.config⟩, watchFor o around.files with
    | .error e, _ => .error (loadFailed e)
    | .ok _, .error e => .error (failed (e.detail ++ "\n"))
    | .ok s, .ok watch? => launch o around watch? s

def takeOver (d : Daemon) (reloaded : Option Settings × Event) : Daemon :=
  let d := { d with roster := d.roster.report reloaded.2 }
  match reloaded.1 with
  | none => d
  | some s =>
    let (reload, roster) := (d.reload.send s).2.settle d.roster
    { d with reload, roster }

def act (d : Daemon) (a : FileAction) : Except FileError Daemon :=
  match d.watch? with
  | none => do
    let (files, _) ← a.run d.files
    return { d with files }
  | some w => do
    let (files, reloads) ← w.act d.files a
    return reloads.foldl takeOver { d with files }

def reread (d : Daemon) (loaded : Except LoadError Settings) : Daemon :=
  match d.watch? with
  | none => d
  | some w => d.takeOver (Watch.reread w.path loaded)

/-- The place of the first written event not seen yet whose message starts with a text. -/
def unseen? (d : Daemon) (message : String) : Option Nat :=
  ((d.log.zipIdx).find? fun (e, i) =>
    message.toList.isPrefixOf e.message.toList && !d.seen.contains i).map (·.2)

/-- Lets ticks pass until an event with this message is written, at most as many as given. -/
def await (d : Daemon) (message : String) : Nat → Daemon
  | 0 => d
  | ticks + 1 =>
    match d.unseen? message with
    | some i => { d with seen := i :: d.seen }
    | none => d.tick.await message ticks

def stop (d : Daemon) (s : Signal) : Ending :=
  let r := d.roster.report (match s with
    | .interrupt => .interrupted
    | .terminate => .terminated)
  let r := r.report (.shuttingDown d.tasks)
  let r := if d.settings.health.enabled then r.report .monitorStopped else r
  let r := if d.watch?.isSome then (d.reload.stop r).2 else r
  let d := { d with roster := r.report .shutdownComplete }
  { status := 0, log := d.log, format := d.settings.report.logFormat }

end Daemon
end RelayRoster
