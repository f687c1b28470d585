namespace RelayRoster

inductive Ip where
  | v4 (octets : Vector UInt8 4)
  | v6 (groups : Vector UInt16 8)
  deriving DecidableEq, Repr, Inhabited

namespace Ip

/-- Where the longest run of zeros starts and how long it is; of two equal ones the first. -/
def longestZeros (groups : List UInt16) : Nat × Nat :=
  (List.range groups.length).foldl (fun best i =>
    let n := ((groups.drop i).takeWhile (· = 0)).length
    if best.2 < n then (i, n) else best) (0, 0)

def octetsText (octets : List UInt8) : String :=
  ".".intercalate (octets.map fun o => toString o.toNat)

def groupsText (groups : List UInt16) : String :=
  ":".intercalate (groups.map fun g => String.ofList (Nat.toDigits 16 g.toNat))

/-- Octets in decimal; groups in hexadecimal with the longest run of two or more zeros left out,
except that an embedded version 4 address keeps its octets. -/
def text : Ip → String
  | .v4 octets => octetsText octets.toList
  | .v6 groups =>
    match groups.toList with
    | [0, 0, 0, 0, 0, 0xffff, high, low] =>
      "::ffff:" ++ octetsText [(high >>> 8).toUInt8, high.toUInt8, (low >>> 8).toUInt8, low.toUInt8]
    | gs =>
      let (start, len) := longestZeros gs
      if 1 < len then groupsText (gs.take start) ++ "::" ++ groupsText (gs.drop (start + len))
      else groupsText gs

end Ip

/-- An address and a port; a version 6 address may name the interface it is reached through. -/
structure SocketAddress where
  ip : Ip
  port : UInt16
  scope : UInt32 := 0
  deriving DecidableEq, Repr, Inhabited

namespace SocketAddress

def text (a : SocketAddress) : String :=
  match a.ip with
  | .v4 _ => s!"{a.ip.text}:{a.port.toNat}"
  | .v6 _ =>
    let scope := if a.scope = 0 then "" else s!"%{a.scope.toNat}"
    s!"[{a.ip.text}{scope}]:{a.port.toNat}"

def unscoped (a : SocketAddress) : SocketAddress := ⟨a.ip, a.port, 0⟩

end SocketAddress
end RelayRoster
