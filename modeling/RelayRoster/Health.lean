namespace RelayRoster

inductive Health where
  | unknown
  | healthy
  | unhealthy
  deriving DecidableEq, Repr, Inhabited

namespace Health

def name : Health → String
  | .unknown => "Unknown"
  | .healthy => "Healthy"
  | .unhealthy => "Unhealthy"

/-- The state a stored byte stands for; a byte without a meaning stands for none known. -/
def ofCode (code : UInt8) : Health :=
  if code = 1 then .healthy else if code = 2 then .unhealthy else .unknown

end Health

inductive Outcome where
  | success
  | failure
  deriving DecidableEq, Repr

/-- The health of an endpoint with the runs of like outcomes that may change it. -/
structure Tracker where
  state : Health
  successes : UInt64
  failures : UInt64
  healthyThreshold : UInt64
  unhealthyThreshold : UInt64
  deriving DecidableEq, Repr

namespace Tracker

/-- A threshold of zero acts as one. -/
def create (healthyThreshold unhealthyThreshold : UInt64) : Tracker :=
  ⟨.unknown, 0, 0, max healthyThreshold 1, max unhealthyThreshold 1⟩

def isAlive (t : Tracker) : Bool := t.state ≠ .unhealthy

def success (t : Tracker) : Option Health × Tracker :=
  let t := { t with failures := 0 }
  if t.state = .healthy then (none, t)
  else if t.healthyThreshold ≤ t.successes + 1 then
    (some .healthy, { t with successes := 0, state := .healthy })
  else (none, { t with successes := t.successes + 1 })

def failure (t : Tracker) : Option Health × Tracker :=
  let t := { t with successes := 0 }
  if t.state = .unhealthy then (none, t)
  else if t.unhealthyThreshold ≤ t.failures + 1 then
    (some .unhealthy, { t with failures := 0, state := .unhealthy })
  else (none, { t with failures := t.failures + 1 })

/-- The new state, if it changed, and the tracker after an outcome. -/
def record (t : Tracker) : Outcome → Option Health × Tracker
  | .success => t.success
  | .failure => t.failure

end Tracker
end RelayRoster
