import RelayRoster.Address.HostPort
import RelayRoster.Address.Literal
import RelayRoster.Probe.Failure

namespace RelayRoster

/-- A dialled address: what came of it, the connects tried in order, those among them that failed,
and how long it all took. -/
structure Dial where
  result : Except ProbeFailure.Cause Unit
  attempts : List SocketAddress := []
  refused : List (SocketAddress × SystemError) := []
  elapsed : Duration := ⟨0⟩
  deriving Repr

namespace Dial

def lookup (net : Network) (address : String) :
    Delayed (Except LookupFailure (List SocketAddress)) :=
  match HostPort.splitLast? ':' address.toList with
  | none => ⟨.error .noColon, ⟨0⟩⟩
  | some (host, port) =>
    match HostPort.port? port with
    | none => ⟨.error .badPort, ⟨0⟩⟩
    | some port =>
      if host.contains '\x00' then ⟨.error .nulByte, ⟨0⟩⟩
      else
        let found := net.lookup (String.ofList host)
        match found.answer with
        | .ok ips => ⟨.ok (ips.map (⟨·, port, 0⟩)), found.delay⟩
        | .error e => ⟨.error (.resolver e), found.delay⟩

def exhausted (limit : Duration) : Option SystemError → ProbeFailure.Cause
  | none => .lookup .noAddresses
  | some .timedOut => .timeout limit
  | some e => .unreachable (.system e)

/-- Connects in order from the time `now` on. None is started at the limit or later, but one that
was started counts however long it takes. -/
def connectEach (net : Network) (limit : Duration) (last : Option SystemError) (now : Nat) :
    List SocketAddress → Dial
  | [] => { result := .error (exhausted limit last), elapsed := ⟨now⟩ }
  | peer :: rest =>
    if limit.nanos ≤ now then { result := .error (.timeout limit), elapsed := ⟨now⟩ }
    else
      let c := net.connect peer
      let now := now + c.delay.nanos
      match c.answer with
      | none => { result := .ok (), attempts := [peer], elapsed := ⟨now⟩ }
      | some e =>
        let d := connectEach net limit (some e) now rest
        { d with attempts := peer :: d.attempts, refused := (peer, e) :: d.refused }

/-- A lookup has to answer before the limit. -/
def run (net : Network) (address : String) (limit : Duration) : Dial :=
  match SocketAddress.ofText? address with
  | some peer => connectEach net limit none 0 [peer]
  | none =>
    let found := lookup net address
    if limit.nanos ≤ found.delay.nanos then { result := .error (.timeout limit), elapsed := limit }
    else match found.answer with
      | .error failure => { result := .error (.lookup failure), elapsed := found.delay }
      | .ok targets => connectEach net limit none found.delay.nanos targets

end Dial
end RelayRoster
