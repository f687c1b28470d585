namespace RelayRoster

/-- How endpoints are probed. Interval and timeout are seconds. -/
structure HealthSettings where
  enabled : Bool := true
  interval : UInt64 := 10
  timeout : UInt64 := 5
  unhealthyThreshold : UInt32 := 3
  healthyThreshold : UInt32 := 2
  deriving DecidableEq, Repr, Inhabited

inductive LogFormat where
  | pretty
  | json
  deriving DecidableEq, Repr, Inhabited

structure ReportSettings where
  logLevel : String := "info"
  logFormat : LogFormat := .pretty
  metricsEnabled : Bool := false
  metricsAddress : String := "127.0.0.1:9090"
  deriving DecidableEq, Repr, Inhabited

structure Settings where
  endpoints : List String := []
  health : HealthSettings := {}
  report : ReportSettings := {}
  deriving DecidableEq, Repr, Inhabited

end RelayRoster
