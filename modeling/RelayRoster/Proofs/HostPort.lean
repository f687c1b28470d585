import Mathlib
import RelayRoster.Address.HostPort

namespace RelayRoster

namespace Text

def decimalValue (ds : List Char) : Nat :=
  Nat.ofDigits 10 (ds.reverse.map fun d => d.toNat - '0'.toNat)

theorem toNat_le_of_le {c d : Char} (h : c ≤ d) : c.toNat ≤ d.toNat := UInt32.le_iff_toNat_le.mp h

theorem toNat_of_isDigit {c : Char} (h : c.isDigit = true) : 48 ≤ c.toNat ∧ c.toNat ≤ 57 := by
  obtain ⟨h₀, h₉⟩ := Bool.and_eq_true_iff.mp h
  exact ⟨toNat_le_of_le (of_decide_eq_true h₀), toNat_le_of_le (of_decide_eq_true h₉)⟩

theorem digit?_ten (c : Char) :
    digit? 10 c = if c.isDigit then some (c.toNat - '0'.toNat) else none := by
  unfold digit?
  dsimp only
  by_cases hd : c.isDigit = true
  · have hlt := (toNat_of_isDigit hd).2
    rw [if_pos hd, if_pos hd, if_pos (by omega : c.toNat - 48 < 10)]
    rfl
  · rw [if_neg hd, if_neg hd, if_neg]
    -- The letters stand for ten and more.
    split_ifs with hl hu
    · have h : 97 ≤ c.toNat := toNat_le_of_le hl.1
      omega
    · have h : 65 ≤ c.toNat := toNat_le_of_le hu.1
      omega
    · omega

theorem isDigitOf_ten (c : Char) : isDigitOf 10 c = c.isDigit := by
  unfold isDigitOf
  rw [digit?_ten]
  split <;> simp_all

theorem ofDigits_eq_value {ds : List Char} (h : ∀ d ∈ ds, d.isDigit = true) :
    ofDigits 10 ds = decimalValue ds := by
  induction ds using List.reverseRecOn with
  | nil => rfl
  | append_singleton ds d ih =>
    rw [List.forall_mem_append, List.forall_mem_singleton] at h
    have hd : ofDigits 10 (ds ++ [d]) = ofDigits 10 ds * 10 + (digit? 10 d).getD 0 := by
      simp [ofDigits]
    have hv : decimalValue (ds ++ [d]) = (d.toNat - '0'.toNat) + 10 * decimalValue ds := by
      simp [decimalValue, Nat.ofDigits_cons]
    rw [hd, hv, ih h.1, digit?_ten, if_pos h.2, Option.getD_some]
    omega

theorem decimalBelow?_eq_some_iff {bound n : Nat} {ds : List Char} :
    decimalBelow? bound ds = some n ↔
      ds ≠ [] ∧ (∀ d ∈ ds, d.isDigit = true) ∧ decimalValue ds = n ∧ n < bound := by
  rw [decimalBelow?_eq_some]
  simp only [isDigitOf_ten]
  constructor
  · rintro ⟨hne, hd, rfl, hn⟩
    exact ⟨hne, hd, (ofDigits_eq_value hd).symm, hn⟩
  · rintro ⟨hne, hd, rfl, hn⟩
    exact ⟨hne, hd, ofDigits_eq_value hd, hn⟩

end Text

namespace HostPort
open Text

/-- A port other than zero: decimal digits, with any number of zeros in front, after a plus sign or
without one. -/
def WrittenPort (p : List Char) : Prop :=
  ∃ ds, (p = ds ∨ p = '+' :: ds) ∧ ds ≠ [] ∧ (∀ d ∈ ds, d.isDigit = true) ∧
    1 ≤ decimalValue ds ∧ decimalValue ds ≤ 65535

/-- A name without colons that opens no bracket, or anything in brackets; never empty, and without
white space. -/
def WrittenHost (h : List Char) : Prop :=
  (h ≠ [] ∧ ':' ∉ h ∧ h.head? ≠ some '[' ∧ ∀ c ∈ h, isBlank c = false) ∨
    ∃ inner, h = '[' :: inner ++ [']'] ∧ inner ≠ [] ∧ ∀ c ∈ inner, isBlank c = false

def Written (s : List Char) : Prop := ∃ h p, s = h ++ ':' :: p ∧ WrittenHost h ∧ WrittenPort p

theorem splitLast?_eq_none {c : Char} {s : List Char} (h : c ∉ s) : splitLast? c s = none := by
  induction s with
  | nil => rfl
  | cons x s ih =>
    rw [List.mem_cons, not_or] at h
    unfold splitLast?
    rw [ih h.2]
    exact if_neg (Ne.symm h.1)

theorem splitLast?_append {c : Char} {after : List Char} (h : c ∉ after) (before : List Char) :
    splitLast? c (before ++ c :: after) = some (before, after) := by
  induction before with
  | nil =>
    rw [List.nil_append]
    unfold splitLast?
    rw [splitLast?_eq_none h]
    exact if_pos rfl
  | cons x before ih =>
    rw [List.cons_append]
    unfold splitLast?
    rw [ih]

theorem splitLast?_eq_some_iff {c : Char} {s before after : List Char} :
    splitLast? c s = some (before, after) ↔ s = before ++ c :: after ∧ c ∉ after := by
  constructor
  · exact eq_append_of_splitLast?
  · rintro ⟨rfl, h⟩
    exact splitLast?_append h before

theorem port?_of_digits {ds : List Char} (h : ds.head? ≠ some '+') :
    port? ds = (decimalBelow? 65536 ds).map UInt16.ofNat := by
  unfold port?
  split
  next => exact absurd rfl h
  next => rfl

theorem port?_eq_some_iff {p : List Char} {n : UInt16} :
    port? p = some n ↔ ∃ ds, (p = ds ∨ p = '+' :: ds) ∧ ds ≠ [] ∧
      (∀ d ∈ ds, d.isDigit = true) ∧ decimalValue ds = n.toNat := by
  have hnum (ds : List Char) : (decimalBelow? 65536 ds).map UInt16.ofNat = some n ↔
      ds ≠ [] ∧ (∀ d ∈ ds, d.isDigit = true) ∧ decimalValue ds = n.toNat := by
    simp only [Option.map_eq_some_iff, decimalBelow?_eq_some_iff]
    constructor
    · rintro ⟨m, ⟨hne, hd, rfl, hlt⟩, rfl⟩
      exact ⟨hne, hd, (UInt16.toNat_ofNat_of_lt' hlt).symm⟩
    · rintro ⟨hne, hd, hv⟩
      exact ⟨n.toNat, ⟨hne, hd, hv, n.toNat_lt⟩, UInt16.ofNat_toNat⟩
  by_cases hp : p.head? = some '+'
  · obtain ⟨ds, rfl⟩ := List.head?_eq_some_iff.mp hp
    change (decimalBelow? 65536 ds).map UInt16.ofNat = some n ↔ _
    rw [hnum]
    constructor
    · exact fun h => ⟨ds, .inr rfl, h⟩
    · rintro ⟨es, rfl | he, h⟩
      · -- A plus sign is no digit.
        exact absurd (h.2.1 '+' List.mem_cons_self) (by decide)
      · obtain rfl := List.tail_eq_of_cons_eq he
        exact h
  · rw [port?_of_digits hp, hnum]
    constructor
    · exact fun h => ⟨p, .inl rfl, h⟩
    · rintro ⟨ds, rfl | rfl, h⟩
      · exact h
      · exact absurd rfl hp

theorem bareHost?_eq_some_iff {h b : List Char} :
    bareHost? h = some b ↔ h = '[' :: b ++ [']'] ∨ h.head? ≠ some '[' ∧ ':' ∉ h ∧ b = h := by
  -- In brackets anything may stand; without them a colon is not allowed.
  by_cases hh : h.head? = some '['
  · obtain ⟨inner, rfl⟩ := List.head?_eq_some_iff.mp hh
    change (if inner.getLast? = some ']' then some inner.dropLast else none) = some b ↔ _
    constructor
    · intro hb
      split at hb
      next hl =>
        cases hb
        exact .inl (congrArg ('[' :: ·) (List.dropLast_append_getLast? _ hl).symm)
      next => cases hb
    · rintro (he | ⟨hn, -⟩)
      · obtain rfl : inner = b ++ [']'] := List.tail_eq_of_cons_eq he
        rw [if_pos List.getLast?_concat, List.dropLast_concat]
      · exact absurd rfl hn
  · have he : bareHost? h = if h.contains ':' then none else some h := by
      unfold bareHost?
      split
      next => exact absurd rfl hh
      next => rfl
    rw [he]
    constructor
    · intro hb
      split at hb
      next => cases hb
      next hc =>
        cases hb
        exact .inr ⟨hh, by simpa using hc, rfl⟩
    · rintro (rfl | ⟨-, hc, rfl⟩)
      · exact absurd rfl hh
      · exact if_neg (by simpa using hc)

theorem writtenHost_iff {h : List Char} :
    WrittenHost h ↔ ∃ b, bareHost? h = some b ∧ b ≠ [] ∧ ∀ c ∈ b, isBlank c = false := by
  simp only [bareHost?_eq_some_iff]
  constructor
  · rintro (⟨hne, hc, hh, hb⟩ | ⟨inner, rfl, hne, hb⟩)
    · exact ⟨h, .inr ⟨hh, hc, rfl⟩, hne, hb⟩
    · exact ⟨inner, .inl rfl, hne, hb⟩
  · rintro ⟨b, rfl | ⟨hh, hc, rfl⟩, hne, hb⟩
    · exact .inr ⟨b, rfl, hne, hb⟩
    · exact .inl ⟨hne, hc, hh, hb⟩

theorem writtenPort_iff {p : List Char} : WrittenPort p ↔ ∃ n, port? p = some n ∧ n ≠ 0 := by
  simp only [port?_eq_some_iff]
  constructor
  · rintro ⟨ds, hp, hne, hd, hpos, hle⟩
    have hv : (UInt16.ofNat (decimalValue ds)).toNat = decimalValue ds :=
      UInt16.toNat_ofNat_of_lt' (Nat.lt_succ_of_le hle)
    refine ⟨UInt16.ofNat (decimalValue ds), ⟨ds, hp, hne, hd, hv.symm⟩, fun h0 => ?_⟩
    rw [h0] at hv
    change 0 = decimalValue ds at hv
    omega
  · rintro ⟨n, ⟨ds, hp, hne, hd, hv⟩, hn⟩
    have hlt := n.toNat_lt
    have hpos : n.toNat ≠ 0 := fun h => hn (UInt16.toNat_inj.mp h)
    exact ⟨ds, hp, hne, hd, by omega, by omega⟩

theorem notMem_colon_of_port? {p : List Char} {n : UInt16} (h : port? p = some n) : ':' ∉ p := by
  obtain ⟨ds, hp, -, hd, -⟩ := port?_eq_some_iff.mp h
  have hds : ':' ∉ ds := fun hc => absurd (hd _ hc) (by decide)
  rcases hp with rfl | rfl
  · exact hds
  · simpa using hds

theorem wellFormed_of_parts {s : String} {h p b : List Char} {n : UInt16}
    (hs : s.toList = h ++ ':' :: p) (hp : port? p = some n) (hb : bareHost? h = some b) :
    wellFormed s = true ↔ n ≠ 0 ∧ b ≠ [] ∧ ∀ c ∈ b, isBlank c = false := by
  unfold wellFormed
  rw [hs, splitLast?_append (notMem_colon_of_port? hp)]
  dsimp only
  rw [hp, hb]
  simp [and_assoc]

theorem exists_parts_of_wellFormed {s : String} (hw : wellFormed s = true) :
    ∃ h p n b, s.toList = h ++ ':' :: p ∧ port? p = some n ∧ bareHost? h = some b := by
  unfold wellFormed at hw
  split at hw
  next => cases hw
  next h p hs =>
    split at hw
    next n b hp hb => exact ⟨h, p, n, b, (splitLast?_eq_some_iff.mp hs).1, hp, hb⟩
    next => cases hw

/-- The well-formed addresses are those that are written as a host and a port. -/
theorem wellFormed_iff_written {s : String} : wellFormed s = true ↔ Written s.toList := by
  constructor
  · intro hw
    obtain ⟨h, p, n, b, hs, hp, hb⟩ := exists_parts_of_wellFormed hw
    obtain ⟨hn, hne, hblank⟩ := (wellFormed_of_parts hs hp hb).mp hw
    exact ⟨h, p, hs, writtenHost_iff.mpr ⟨b, hb, hne, hblank⟩, writtenPort_iff.mpr ⟨n, hp, hn⟩⟩
  · rintro ⟨h, p, hs, hh, hp⟩
    obtain ⟨b, hb, hne, hblank⟩ := writtenHost_iff.mp hh
    obtain ⟨n, hp, hn⟩ := writtenPort_iff.mp hp
    exact (wellFormed_of_parts hs hp hb).mpr ⟨hn, hne, hblank⟩

end HostPort

end RelayRoster
