import RelayRoster.Network

namespace RelayRoster

inductive LookupFailure where
  | noColon
  | badPort
  | nulByte
  | resolver (e : ResolverError)
  | noAddresses
  | other (reason : String)
  deriving DecidableEq, Repr

def LookupFailure.text : LookupFailure → String
  | .noColon => "invalid socket address"
  | .badPort => "invalid port value"
  | .nulByte => "file name contained an unexpected NUL byte"
  | .resolver e => e.text
  | .noAddresses => "no socket addresses"
  | .other reason => reason

inductive Obstacle where
  | system (e : SystemError)
  | other (reason : String)
  deriving DecidableEq, Repr

def Obstacle.text : Obstacle → String
  | .system e => e.text
  | .other reason => reason

inductive ProbeFailure.Cause where
  | lookup (failure : LookupFailure)
  | unreachable (obstacle : Obstacle)
  | timeout (limit : Duration)
  deriving DecidableEq, Repr

structure ProbeFailure where
  address : String
  cause : ProbeFailure.Cause
  deriving DecidableEq, Repr

def ProbeFailure.message (f : ProbeFailure) : String :=
  match f.cause with
  | .lookup failure => "failed to resolve " ++ f.address ++ ": " ++ failure.text
  | .unreachable obstacle => f.address ++ " is unreachable: " ++ obstacle.text
  | .timeout limit => "probe of " ++ f.address ++ " timed out after " ++ limit.text

/-- A defect that breaks off a probe instead of failing it. -/
inductive Breakdown where
  | clockOverflow
  | rehearsed
  deriving DecidableEq, Repr

def Breakdown.message : Breakdown → String
  | .clockOverflow => "overflow when adding duration to instant"
  | .rehearsed => "scripted panic"

abbrev ProbeResult := Except Breakdown (Except ProbeFailure Unit)

end RelayRoster
