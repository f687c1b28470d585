import RelayRoster.Health
import RelayRoster.Probe.Failure
import RelayRoster.Text.Quoted

namespace RelayRoster
open Text

inductive Level where
  | trace
  | debug
  | info
  | warn
  | error
  deriving DecidableEq, Repr

namespace Level

def name : Level → String
  | .trace => "TRACE"
  | .debug => "DEBUG"
  | .info => "INFO"
  | .warn => "WARN"
  | .error => "ERROR"

def rank : Level → Nat
  | .trace => 1
  | .debug => 2
  | .info => 3
  | .warn => 4
  | .error => 5

end Level

inductive Event where
  | endpointAdded (address : String) (endpoints : Nat)
  | endpointRemoved (address : String) (endpoints : Nat)
  | endpointsFound (available : Nat)
  | noneAvailable (endpoints : Nat)
  | probeSucceeded (address : String)
  | probeFailed (address : String) (failure : ProbeFailure)
  | healthChanged (address : String) (state : Health)
  | connectFailed (peer : SocketAddress) (error : SystemError)
  | rosterBuilt (endpoints : Nat)
  | endpointSkipped (reason : String)
  | aligned (added removed endpoints : Nat)
  | reloadApplied (added removed : List String)
  | reloadStopped
  | monitorDisabled
  | monitorStarted (interval timeout : Nat)
  | sweepWithFailures (probed failed healthy : Nat)
  | sweepFinished (probed healthy : Nat)
  | sweepBrokeDown (task : Nat) (reason : String)
  | monitorStopped
  | programStarted
  | settingsLoaded (path : String) (endpoints : Nat) (healthChecks : Bool) (interval : Nat)
  | shuttingDown (tasks : Nat)
  | shutdownComplete
  | interrupted
  | terminated
  | exporterListening (on : SocketAddress)
  | exporterFailed (on : SocketAddress) (error : SystemError)
  | exporterMisaddressed (address : String)
  | watchStarted (directory : String)
  | settingsReloaded (path : String) (endpoints : Nat)
  | reloadRejected (path : String) (reason : String)
  deriving DecidableEq, Repr

namespace Event

inductive Field where
  | number (n : Nat)
  | truth (b : Bool)
  | text (s : String)
  deriving DecidableEq, Repr

def Field.display : Field → String
  | .number n => toString n
  | .truth b => if b then "true" else "false"
  | .text s => s

def level : Event → Level
  | .endpointsFound _ | .connectFailed _ _ => .trace
  | .endpointAdded _ _ | .endpointRemoved _ _ | .noneAvailable _ | .probeSucceeded _
  | .sweepFinished _ _ => .debug
  | .endpointSkipped _ | .sweepWithFailures _ _ _ | .reloadRejected _ _ => .warn
  | .probeFailed _ _ | .sweepBrokeDown _ _ | .exporterFailed _ _ | .exporterMisaddressed _ => .error
  | .healthChanged _ _ | .rosterBuilt _ | .aligned _ _ _ | .reloadApplied _ _ | .reloadStopped
  | .monitorDisabled | .monitorStarted _ _ | .monitorStopped | .programStarted
  | .settingsLoaded _ _ _ _ | .shuttingDown _ | .shutdownComplete | .interrupted | .terminated
  | .exporterListening _ | .watchStarted _ | .settingsReloaded _ _ => .info

def origin : Event → String
  | .endpointAdded _ _ | .endpointRemoved _ _ | .endpointsFound _ | .noneAvailable _
  | .probeSucceeded _ | .probeFailed _ _ => "load_balancer::pool"
  | .healthChanged _ _ | .connectFailed _ _ => "load_balancer::backend"
  | .rosterBuilt _ | .endpointSkipped _ | .aligned _ _ _ | .reloadApplied _ _
  | .reloadStopped => "lifecycle::startup"
  | .monitorDisabled | .monitorStarted _ _ | .sweepWithFailures _ _ _ | .sweepFinished _ _
  | .sweepBrokeDown _ _ | .monitorStopped => "health::active"
  | .programStarted | .settingsLoaded _ _ _ _ | .exporterMisaddressed _ | .shuttingDown _
  | .shutdownComplete => "main"
  | .interrupted | .terminated => "lifecycle::signals"
  | .exporterListening _ | .exporterFailed _ _ => "observability::metrics"
  | .watchStarted _ | .settingsReloaded _ _ | .reloadRejected _ _ => "config::watcher"

def target (e : Event) : String :=
  if e.origin = "main" then "relay_pool" else "relay_pool::" ++ e.origin

def message : Event → String
  | .endpointAdded _ _ => "Endpoint added"
  | .endpointRemoved _ _ => "Endpoint removed"
  | .endpointsFound _ => "Found available endpoints"
  | .noneAvailable _ => "No healthy endpoint available"
  | .probeSucceeded _ => "Health check succeeded"
  | .probeFailed _ _ => "Health check failed"
  | .healthChanged _ _ => "Backend health changed"
  | .connectFailed _ _ => "Connect attempt failed"
  | .rosterBuilt _ => "Pool initialized"
  | .endpointSkipped _ => "Skipping endpoint"
  | .aligned _ _ _ => "Endpoint list reconciled"
  | .reloadApplied _ _ => "Applied config reload"
  | .reloadStopped => "Config reload task received shutdown signal, exiting loop"
  | .monitorDisabled => "Active health checks disabled"
  | .monitorStarted _ _ => "Health monitor starting"
  | .sweepWithFailures _ _ _ => "Health sweep finished with failures"
  | .sweepFinished _ _ => "Health sweep finished"
  | .sweepBrokeDown _ _ => "Health sweep task failed"
  | .monitorStopped => "Health monitor received shutdown signal, exiting loop"
  | .programStarted => "relay-pool v0.1.0 starting"
  | .settingsLoaded _ _ _ _ => "Configuration loaded"
  | .shuttingDown _ => "Shutting down"
  | .shutdownComplete => "Shutdown complete"
  | .interrupted => "SIGINT received"
  | .terminated => "SIGTERM received"
  | .exporterListening _ => "Metrics exporter listening"
  | .exporterFailed _ _ => "Failed to install metrics exporter"
  | .exporterMisaddressed _ => "Failed to parse metrics address"
  | .watchStarted _ => "Config watcher started"
  | .settingsReloaded _ _ => "Config reloaded"
  | .reloadRejected _ _ => "Config reload rejected, keeping current"

def fields : Event → List (String × Field)
  | .endpointAdded address endpoints => [("addr", .text address), ("endpoints", .number endpoints)]
  | .endpointRemoved address endpoints => [("addr", .text address), ("endpoints", .number endpoints)]
  | .endpointsFound available => [("available", .number available)]
  | .noneAvailable endpoints => [("endpoints", .number endpoints)]
  | .probeSucceeded address => [("addr", .text address)]
  | .probeFailed address failure => [("addr", .text address), ("error", .text failure.message)]
  | .healthChanged address state => [("addr", .text address), ("state", .text state.name)]
  | .connectFailed peer error => [("addr", .text peer.text), ("error", .text error.text)]
  | .rosterBuilt endpoints => [("endpoints", .number endpoints)]
  | .endpointSkipped reason => [("error", .text reason)]
  | .aligned added removed endpoints =>
    [("added", .number added), ("removed", .number removed), ("endpoints", .number endpoints)]
  | .reloadApplied added removed =>
    [("added", .text (quotedList added)), ("removed", .text (quotedList removed))]
  | .monitorStarted interval timeout =>
    [("interval", .number interval), ("timeout", .number timeout)]
  | .sweepWithFailures probed failed healthy =>
    [("probed", .number probed), ("failed", .number failed), ("healthy", .number healthy)]
  | .sweepFinished probed healthy => [("probed", .number probed), ("healthy", .number healthy)]
  | .sweepBrokeDown task reason =>
    [("error", .text ("task " ++ toString task ++ " panicked with message " ++ quoted reason))]
  | .settingsLoaded path endpoints healthChecks interval =>
    [("path", .text (quoted path)), ("endpoints", .number endpoints),
      ("health_checks", .truth healthChecks), ("interval_secs", .number interval)]
  | .shuttingDown tasks => [("tasks", .number tasks)]
  | .exporterListening on => [("address", .text on.text)]
  | .exporterFailed on error =>
    [("address", .text on.text),
      ("error", .text ("failed to create HTTP listener: " ++ error.text))]
  | .exporterMisaddressed address => [("metrics_address", .text address)]
  | .watchStarted directory => [("directory", .text (quoted directory))]
  | .settingsReloaded path endpoints =>
    [("path", .text (quoted path)), ("endpoints", .number endpoints)]
  | .reloadRejected path reason => [("path", .text (quoted path)), ("error", .text reason)]
  | .reloadStopped | .monitorDisabled | .monitorStopped | .programStarted | .shutdownComplete
  | .interrupted | .terminated => []

end Event
end RelayRoster
