import RelayRoster.Address.Ip
import RelayRoster.Duration

namespace RelayRoster

inductive SystemError where
  | connectionRefused
  | connectionReset
  | networkUnreachable
  | hostUnreachable
  | accessDenied
  | addressNotAvailable
  | addressInUse
  | timedOut
  deriving DecidableEq, Repr

namespace SystemError

def code : SystemError → Nat
  | .connectionRefused => 111
  | .connectionReset => 104
  | .networkUnreachable => 101
  | .hostUnreachable => 113
  | .accessDenied => 13
  | .addressNotAvailable => 99
  | .addressInUse => 98
  | .timedOut => 110

def description : SystemError → String
  | .connectionRefused => "Connection refused"
  | .connectionReset => "Connection reset by peer"
  | .networkUnreachable => "Network is unreachable"
  | .hostUnreachable => "No route to host"
  | .accessDenied => "Permission denied"
  | .addressNotAvailable => "Cannot assign requested address"
  | .addressInUse => "Address already in use"
  | .timedOut => "Connection timed out"

def text (e : SystemError) : String := e.description ++ " (os error " ++ toString e.code ++ ")"

end SystemError

inductive ResolverError where
  | noName
  | tryAgain
  | failed
  deriving DecidableEq, Repr

def ResolverError.text (e : ResolverError) : String :=
  "failed to lookup address information: " ++ match e with
    | .noName => "Name or service not known"
    | .tryAgain => "Temporary failure in name resolution"
    | .failed => "Non-recoverable failure in name resolution"

structure Delayed (α : Type) where
  answer : α
  delay : Duration := ⟨0⟩
  deriving Repr

/-- What the network answers to lookups, connects and listens, and what the clock reads. -/
structure Network where
  names : List (String × Delayed (Except ResolverError (List Ip))) := []
  sockets : List (SocketAddress × Delayed (Option SystemError)) := []
  listeners : List (SocketAddress × SystemError) := []
  clock : Duration := .ofSeconds 1

namespace Network

def later (net : Network) (d : Duration) : Network :=
  { net with clock := ⟨net.clock.nanos + d.nanos⟩ }

theorem later_later (net : Network) (d d' : Duration) :
    (net.later d).later d' = net.later ⟨d.nanos + d'.nanos⟩ := by
  unfold later
  rw [Nat.add_assoc]

/-- Whether a limit set now ends after the last second that the clock can count. It counts seconds in
a signed word of 64 bits. -/
def clockOverflows (net : Network) (limit : Duration) : Bool :=
  9223372036854775808 ≤ (net.clock.nanos + limit.nanos) / 1000000000

theorem clockOverflows_eq_false_iff {net : Network} {limit : Duration} :
    net.clockOverflows limit = false ↔
      net.clock.nanos + limit.nanos < 9223372036854775808000000000 := by
  unfold clockOverflows
  rw [decide_eq_false_iff_not]
  omega

/-- Names that are not listed do not exist. -/
def lookup (net : Network) (host : String) : Delayed (Except ResolverError (List Ip)) :=
  (net.names.lookup host).getD ⟨.error .noName, ⟨0⟩⟩

/-- The error of a connect, if it fails; where nothing is listed it is refused. The interface of an
address plays no part. -/
def connect (net : Network) (peer : SocketAddress) : Delayed (Option SystemError) :=
  ((net.sockets.find? (·.1.unscoped = peer.unscoped)).map (·.2)).getD ⟨some .connectionRefused, ⟨0⟩⟩

def listenError? (net : Network) (on : SocketAddress) : Option SystemError :=
  (net.listeners.find? (·.1.unscoped = on.unscoped)).map (·.2)

end Network
end RelayRoster
