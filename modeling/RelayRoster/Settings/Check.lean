import RelayRoster.Address.HostPort
import RelayRoster.Address.Literal
import RelayRoster.Settings.Basic
import RelayRoster.Text.Quoted

namespace RelayRoster
open Text

inductive Fault where
  | emptyAddress (index : Nat)
  | malformedAddress (address : String)
  | repeatedAddress (address : String)
  | zero (field : String)
  | unknownLogLevel (level : String)
  | malformedMetricsAddress (address : String)
  deriving DecidableEq, Repr

namespace Fault

def message : Fault → String
  | .emptyAddress index => "endpoint #" ++ toString index ++ " has an empty address"
  | .malformedAddress address => "endpoint address " ++ quoted address ++ " is not host:port"
  | .repeatedAddress address => "endpoint " ++ address ++ " is listed more than once"
  | .zero field => "health_check." ++ field ++ " must be greater than zero"
  | .unknownLogLevel level => "unknown log level " ++ quoted level
  | .malformedMetricsAddress address =>
    "metrics address " ++ quoted address ++ " is not a socket address"

def label : Fault → String
  | .emptyAddress _ => "EmptyAddress"
  | .malformedAddress _ => "InvalidAddress"
  | .repeatedAddress _ => "DuplicateAddress"
  | .zero _ => "ZeroValue"
  | .unknownLogLevel _ => "InvalidLogLevel"
  | .malformedMetricsAddress _ => "InvalidMetricsAddress"

def withField (name value : String) : String := " \x7b " ++ name ++ ": " ++ value ++ " \x7d"

def detail (f : Fault) : String :=
  f.label ++ match f with
    | .emptyAddress index => withField "index" (toString index)
    | .malformedAddress address => withField "address" (quoted address)
    | .repeatedAddress address => withField "address" (quoted address)
    | .zero field => withField "field" (quoted field)
    | .unknownLogLevel level => "(" ++ quoted level ++ ")"
    | .malformedMetricsAddress address => "(" ++ quoted address ++ ")"

end Fault

namespace Settings

/-- At most one fault per endpoint. Only well-formed addresses count as listed before. -/
def endpointFaults (index : Nat) (listed : List String) : List String → List Fault
  | [] => []
  | a :: rest =>
    if a.isEmpty then .emptyAddress index :: endpointFaults (index + 1) listed rest
    else if !HostPort.wellFormed a then
      .malformedAddress a :: endpointFaults (index + 1) listed rest
    else if listed.contains a then
      .repeatedAddress a :: endpointFaults (index + 1) listed rest
    else endpointFaults (index + 1) (a :: listed) rest

def healthFaults (h : HealthSettings) : List Fault :=
  [("interval_secs", h.interval == 0), ("timeout_secs", h.timeout == 0),
    ("unhealthy_threshold", h.unhealthyThreshold == 0),
    ("healthy_threshold", h.healthyThreshold == 0)].filterMap fun (field, isZero) =>
      if isZero then some (.zero field) else none

def logLevels : List String := ["trace", "debug", "info", "warn", "error"]

def levelFaults (r : ReportSettings) : List Fault :=
  if logLevels.contains (r.logLevel.map Char.toLower) then [] else [.unknownLogLevel r.logLevel]

/-- The metrics address matters only where metrics are on. -/
def metricsFaults (r : ReportSettings) : List Fault :=
  if r.metricsEnabled && (SocketAddress.ofText? r.metricsAddress).isNone then
    [.malformedMetricsAddress r.metricsAddress]
  else []

def faults (s : Settings) : List Fault :=
  endpointFaults 0 [] s.endpoints ++ healthFaults s.health ++ levelFaults s.report ++
    metricsFaults s.report

def accepted (s : Settings) : Bool := s.faults.isEmpty

end Settings
end RelayRoster
