namespace RelayRoster.Text

/-- The white space of Unicode: the ASCII controls from tab to carriage return, the spaces, the
next-line control and the two separators. -/
def isBlank (c : Char) : Bool :=
  (0x09 ≤ c.toNat && c.toNat ≤ 0x0d) || (0x2000 ≤ c.toNat && c.toNat ≤ 0x200a) ||
    [0x20, 0x85, 0xa0, 0x1680, 0x2028, 0x2029, 0x202f, 0x205f, 0x3000].contains c.toNat

end RelayRoster.Text
