namespace RelayRoster

inductive Series where
  | endpoints
  | healthy (address : String)
  | probeFailures (address : String)
  | selections (address : String)
  | unavailable
  deriving DecidableEq, Repr

namespace Series

def name : Series → String
  | .endpoints => "relay_pool_endpoints"
  | .healthy _ => "relay_pool_endpoint_healthy"
  | .probeFailures _ => "relay_pool_probe_failures_total"
  | .selections _ => "relay_pool_selections_total"
  | .unavailable => "relay_pool_unavailable_total"

def address? : Series → Option String
  | .healthy a | .probeFailures a | .selections a => some a
  | .endpoints | .unavailable => none

/-- By name, then by address, a series without address first. -/
def le (a b : Series) : Bool :=
  if a.name = b.name then
    match a.address?, b.address? with
    | none, _ => true
    | some _, none => false
    | some x, some y => x ≤ y
  else a.name ≤ b.name

end Series

/-- The values recorded so far; a series that was never written is absent. -/
structure Metrics where
  values : List (Series × Nat) := []
  deriving Repr

namespace Metrics

def get? (m : Metrics) (s : Series) : Option Nat := m.values.lookup s

def set (m : Metrics) (s : Series) (n : Nat) : Metrics :=
  ⟨(s, n) :: m.values.filter (·.1 ≠ s)⟩

def increment (m : Metrics) (s : Series) : Metrics := m.set s ((m.get? s).getD 0 + 1)

def setAlive (m : Metrics) (address : String) (alive : Bool) : Metrics :=
  m.set (.healthy address) (if alive then 1 else 0)

def rows (m : Metrics) : List (Series × Nat) := m.values.mergeSort fun a b => a.1.le b.1

end Metrics
end RelayRoster
