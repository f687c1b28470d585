import RelayRoster.Text.Blank
import RelayRoster.Text.Numeral

namespace RelayRoster.HostPort
open Text

def splitLast? (c : Char) : List Char → Option (List Char × List Char)
  | [] => none
  | x :: xs =>
    match splitLast? c xs with
    | some (before, after) => some (x :: before, after)
    | none => if x = c then some ([], xs) else none

/-- A port: decimal digits with any number of leading zeros, after an optional plus sign. -/
def port? : List Char → Option UInt16
  | '+' :: ds => (decimalBelow? 65536 ds).map UInt16.ofNat
  | ds => (decimalBelow? 65536 ds).map UInt16.ofNat

/-- The name between brackets, or the whole text if it has no colon and opens no bracket. -/
def bareHost? (host : List Char) : Option (List Char) :=
  match host with
  | '[' :: inner => if inner.getLast? = some ']' then some inner.dropLast else none
  | _ => if host.contains ':' then none else some host

/-- Whether an address is `host:port` or `[address]:port` with a port other than zero and a host
that is neither empty nor has white space. -/
def wellFormed (address : String) : Bool :=
  match splitLast? ':' address.toList with
  | none => false
  | some (host, port) =>
    match port? port, bareHost? host with
    | some p, some h => p != 0 && !h.isEmpty && !h.any isBlank
    | _, _ => false

theorem eq_append_of_splitLast? {c : Char} {s before after : List Char}
    (h : splitLast? c s = some (before, after)) : s = before ++ c :: after ∧ c ∉ after := by
  induction s generalizing before with
  | nil => simp [splitLast?] at h
  | cons x xs ih =>
    unfold splitLast? at h
    split at h
    · rename_i b a hs
      obtain ⟨rfl, rfl⟩ : x :: b = before ∧ a = after := by simpa using h
      obtain ⟨rfl, hc⟩ := ih hs
      exact ⟨rfl, hc⟩
    · rename_i hs
      split at h <;> simp at h
      obtain ⟨rfl, rfl⟩ := h
      rename_i hx
      refine ⟨by simp [hx], fun hc => ?_⟩
      clear ih hx
      induction xs with
      | nil => simp at hc
      | cons y ys ih =>
        unfold splitLast? at hs
        split at hs <;> simp_all

end RelayRoster.HostPort
