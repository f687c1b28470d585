import RelayRoster.Proofs.TomlText
import RelayRoster.Toml.Document

namespace RelayRoster.Toml
open Text

def Leaves {α : Type} (f : Reader α) : Prop := ∀ s v w, f s = some (v, w) → w <:+ s

theorem moreDigits_cons {base : Nat} {c : Char} {r : List Char} (hc : c ≠ '_') :
    moreDigits base (c :: r) =
      if isDigitOf base c then consText c (moreDigits base r) else some ([], c :: r) := by
  rw [moreDigits]
  · exact fun _ _ h => absurd h hc
  · exact fun h => absurd h hc

theorem ne_underscore {c : Char} {r : List Char}
    (h : ∀ (d : Char) (t : List Char), c = '_' → r = d :: t → False)
    (h' : c = '_' → r = [] → False) : c ≠ '_' := by
  rintro rfl
  cases r with
  | nil => exact h' rfl rfl
  | cons d t => exact h d t rfl rfl

theorem moreDigits_open (base : Nat) : Open (moreDigits base) := by
  intro s v w h hw x
  induction s using moreDigits.induct base generalizing v with
  | case1 c r hc ih =>
    simp only [moreDigits, if_pos hc] at h
    simp only [List.cons_append, moreDigits, if_pos hc]
    exact consText_append h ih
  | case2 c r hc => simp only [moreDigits, if_neg hc] at h; cases h
  | case3 => cases h
  | case4 c r h₁ h₂ hd ih =>
    have hc := ne_underscore h₁ h₂
    rw [moreDigits_cons hc, if_pos hd] at h
    rw [List.cons_append, moreDigits_cons hc, if_pos hd]
    exact consText_append h ih
  | case5 c r h₁ h₂ hd =>
    have hc := ne_underscore h₁ h₂
    rw [moreDigits_cons hc, if_neg hd] at h
    cases h
    rw [List.cons_append, moreDigits_cons hc, if_neg hd]
  | case6 => cases h; exact absurd rfl hw

theorem moreDigits_leaves (base : Nat) : Leaves (moreDigits base) := by
  intro s v w h
  induction s using moreDigits.induct base generalizing v with
  | case1 c r hc ih =>
    simp only [moreDigits, if_pos hc] at h
    obtain ⟨u, hu, -⟩ := consText_eq_some.mp h
    exact ((ih u hu).trans (List.suffix_cons c r)).trans (List.suffix_cons '_' _)
  | case2 c r hc => simp only [moreDigits, if_neg hc] at h; cases h
  | case3 => cases h
  | case4 c r h₁ h₂ hd ih =>
    rw [moreDigits_cons (ne_underscore h₁ h₂), if_pos hd] at h
    obtain ⟨u, hu, -⟩ := consText_eq_some.mp h
    exact (ih u hu).trans (List.suffix_cons c r)
  | case5 c r h₁ h₂ hd =>
    rw [moreDigits_cons (ne_underscore h₁ h₂), if_neg hd] at h
    cases h
    exact List.suffix_refl _
  | case6 => cases h; exact List.suffix_refl _

theorem digits_eq_some {base : Nat} {s v w : List Char} :
    digits base s = some (v, w) ↔ ∃ c r, s = c :: r ∧ isDigitOf base c = true ∧
      consText c (moreDigits base r) = some (v, w) := by
  cases s with
  | nil => simp [digits]
  | cons c r =>
    unfold digits
    dsimp only
    split
    next h => simp [h]
    next h => simp [h]

theorem digits_open (base : Nat) : Open (digits base) := by
  intro s v w h hw x
  obtain ⟨c, r, rfl, hd, hr⟩ := digits_eq_some.mp h
  refine digits_eq_some.mpr ⟨c, r ++ x, rfl, hd, consText_append hr fun u hu => ?_⟩
  exact moreDigits_open base _ _ _ hu hw x

theorem digits_leaves (base : Nat) : Leaves (digits base) := by
  intro s v w h
  obtain ⟨c, r, rfl, -, hr⟩ := digits_eq_some.mp h
  obtain ⟨u, hu, -⟩ := consText_eq_some.mp hr
  exact (moreDigits_leaves base _ _ _ hu).trans (List.suffix_cons c r)

theorem wholeDigits_of_ne {s : List Char} (h : ∀ r, s ≠ '0' :: r) :
    wholeDigits s = digits 10 s := by
  unfold wholeDigits
  split
  next r => exact absurd rfl (h r)
  next => rfl

theorem wholeDigits_open : Open wholeDigits := by
  intro s v w h hw x
  by_cases hs : ∃ r, s = '0' :: r
  · obtain ⟨r, rfl⟩ := hs
    cases h
    rfl
  · rw [wholeDigits_of_ne fun r he => hs ⟨r, he⟩] at h
    obtain ⟨c, r, rfl, -⟩ := digits_eq_some.mp h
    rw [wholeDigits_of_ne]
    · exact digits_open 10 _ _ _ h hw x
    · rintro t he
      cases he
      exact hs ⟨r, rfl⟩

theorem wholeDigits_leaves : Leaves wholeDigits := by
  intro s v w h
  by_cases hs : ∃ r, s = '0' :: r
  · obtain ⟨r, rfl⟩ := hs
    cases h
    exact List.suffix_cons _ _
  · rw [wholeDigits_of_ne fun r he => hs ⟨r, he⟩] at h
    exact digits_leaves 10 _ _ _ h

theorem sign_append {s : List Char} (hs : s ≠ []) (x : List Char) :
    sign (s ++ x) = ((sign s).1, (sign s).2 ++ x) := by
  match s with
  | [] => exact absurd rfl hs
  | c :: r =>
    rw [List.cons_append]
    unfold sign
    split <;> simp_all

theorem sign_leaves (s : List Char) : (sign s).2 <:+ s := by
  unfold sign
  split
  · exact List.suffix_cons _ _
  · exact List.suffix_cons _ _
  · exact List.suffix_refl _

/-- A value that is made of what was read, or refused. -/
theorem map_append {o : Option Value} {v : Value} {r w x : List Char}
    (h : o.map (·, r) = some (v, w)) : o.map (·, r ++ x) = some (v, w ++ x) := by
  obtain ⟨u, rfl, he⟩ := Option.map_eq_some_iff.mp h
  cases he
  rfl

theorem eq_of_map {o : Option Value} {v : Value} {r w : List Char}
    (h : o.map (·, r) = some (v, w)) : r = w := by
  obtain ⟨u, -, he⟩ := Option.map_eq_some_iff.mp h
  cases he
  rfl

theorem based_open (base : Nat) : Open (based base) := by
  intro s v w h hw x
  unfold based at h ⊢
  split at h
  next ds r hd =>
    have hr : r ≠ [] := eq_of_map h ▸ hw
    rw [digits_open base _ _ _ hd hr x]
    exact map_append h
  next => cases h

theorem based_leaves (base : Nat) : Leaves (based base) := by
  intro s v w h
  unfold based at h
  split at h
  next ds r hd => exact eq_of_map h ▸ digits_leaves base _ _ _ hd
  next => cases h

theorem exponent_open (negative : Bool) (ds : List Char) (places : Nat) :
    Open (exponent negative ds places) := by
  intro s v w h hw x
  unfold exponent at h ⊢
  dsimp only at h ⊢
  split at h
  next es r hd =>
    have hr : r ≠ [] := eq_of_map h ▸ hw
    have hs : s ≠ [] := by
      rintro rfl
      cases hd
    rw [sign_append hs]
    dsimp only
    rw [digits_open 10 _ _ _ hd hr x]
    exact map_append h
  next => cases h

theorem exponent_leaves (negative : Bool) (ds : List Char) (places : Nat) :
    Leaves (exponent negative ds places) := by
  intro s v w h
  unfold exponent at h
  dsimp only at h
  split at h
  next es r hd => exact eq_of_map h ▸ (digits_leaves 10 _ _ _ hd).trans (sign_leaves s)
  next => cases h

section

variable {negative : Bool} {s ds fs r t : List Char} {c : Char}

theorem decimal_of_fraction (hd : wholeDigits s = some (ds, '.' :: r))
    (hf : digits 10 r = some (fs, c :: t)) :
    decimal negative s =
      if isExponentMark c then exponent negative (ds ++ fs) fs.length t
      else (float? negative (ds ++ fs) (-fs.length)).map (·, c :: t) := by
  unfold decimal
  rw [hd]
  simp only [hf]

theorem decimal_of_whole (hd : wholeDigits s = some (ds, c :: r)) (hc : c ≠ '.') :
    decimal negative s =
      if isExponentMark c then exponent negative ds 0 r
      else (integer? negative (ofDigits 10 ds)).map (·, c :: r) := by
  unfold decimal
  rw [hd]
  simp only

end

theorem decimal_open (negative : Bool) : Open (decimal negative) := by
  intro s v w h hw x
  unfold decimal at h
  split at h
  next => cases h
  next ds r hd =>
    have hd' := wholeDigits_open _ _ _ hd (List.cons_ne_nil _ _) x
    split at h
    next => cases h
    next fs c t hf =>
      have hf' := digits_open 10 _ _ _ hf (List.cons_ne_nil _ _) x
      rw [decimal_of_fraction hd' hf']
      split at h
      next hm =>
        rw [if_pos hm]
        exact exponent_open _ _ _ _ _ _ h hw x
      next hm =>
        rw [if_neg hm]
        exact map_append (r := c :: t) h
    next fs hf => exact absurd (eq_of_map h).symm hw
  next ds c r hne hd =>
    have hd' := wholeDigits_open _ _ _ hd (List.cons_ne_nil _ _) x
    rw [decimal_of_whole hd' hne]
    split at h
    next hm =>
      rw [if_pos hm]
      exact exponent_open _ _ _ _ _ _ h hw x
    next hm =>
      rw [if_neg hm]
      exact map_append (r := c :: r) h
  next ds hd => exact absurd (eq_of_map h).symm hw

theorem decimal_leaves (negative : Bool) : Leaves (decimal negative) := by
  intro s v w h
  unfold decimal at h
  split at h
  next => cases h
  next ds r hd =>
    have hr := (List.suffix_cons '.' r).trans (wholeDigits_leaves _ _ _ hd)
    split at h
    next => cases h
    next fs c t hf =>
      have ht := (digits_leaves 10 _ _ _ hf).trans hr
      split at h
      next => exact (exponent_leaves _ _ _ _ _ _ h).trans ((List.suffix_cons c t).trans ht)
      next => exact eq_of_map h ▸ ht
    next fs hf => exact eq_of_map h ▸ List.nil_suffix
  next ds c r hne hd =>
    have hr := wholeDigits_leaves _ _ _ hd
    split at h
    next => exact (exponent_leaves _ _ _ _ _ _ h).trans ((List.suffix_cons c r).trans hr)
    next => exact eq_of_map h ▸ hr
  next ds hd => exact eq_of_map h ▸ List.nil_suffix

theorem exists_digit_of_decimal {negative : Bool} {s w : List Char} {v : Value}
    (h : decimal negative s = some (v, w)) : ∃ c r, s = c :: r ∧ isDigitOf 10 c = true := by
  unfold decimal at h
  cases hd : wholeDigits s with
  | none => rw [hd] at h; cases h
  | some found =>
    by_cases hs : ∃ r, s = '0' :: r
    · obtain ⟨r, rfl⟩ := hs
      exact ⟨'0', r, rfl, by decide⟩
    · rw [wholeDigits_of_ne fun r he => hs ⟨r, he⟩] at hd
      obtain ⟨c, r, hc, hdig, -⟩ := digits_eq_some.mp hd
      exact ⟨c, r, hc, hdig⟩

/-- What stands after the sign of a number without a base: a name or a number of base ten. -/
def unsigned (negative : Bool) : Reader Value
  | 'i' :: 'n' :: 'f' :: t => some (.float (.infinite negative), t)
  | 'n' :: 'a' :: 'n' :: t => some (.float .nan, t)
  | r => decimal negative r

theorem unsigned_of_digit {negative : Bool} {c : Char} {r : List Char}
    (hc : isDigitOf 10 c = true) : unsigned negative (c :: r) = decimal negative (c :: r) := by
  unfold unsigned
  split
  next he => cases he; exact absurd hc (by decide)
  next he => cases he; exact absurd hc (by decide)
  next => rfl

theorem unsigned_open (negative : Bool) : Open (unsigned negative) := by
  intro s v w h hw x
  unfold unsigned at h
  split at h
  next => cases h; rfl
  next => cases h; rfl
  next =>
    obtain ⟨c, r, rfl, hc⟩ := exists_digit_of_decimal h
    rw [List.cons_append, unsigned_of_digit hc]
    exact decimal_open _ _ _ _ h hw x

theorem unsigned_leaves (negative : Bool) : Leaves (unsigned negative) := by
  intro s v w h
  unfold unsigned at h
  split at h
  next t => cases h; exact List.suffix_append ['i', 'n', 'f'] _
  next t => cases h; exact List.suffix_append ['n', 'a', 'n'] _
  next => exact decimal_leaves _ _ _ _ h

theorem number_of_unsigned {s : List Char}
    (h : ∀ c r, s = '0' :: c :: r → c ≠ 'x' ∧ c ≠ 'o' ∧ c ≠ 'b') :
    number s = unsigned (sign s).1 (sign s).2 := by
  unfold number
  split
  next r => exact absurd rfl (h 'x' r rfl).1
  next r => exact absurd rfl (h 'o' r rfl).2.1
  next r => exact absurd rfl (h 'b' r rfl).2.2
  next => rfl

theorem number_eq_some {s w : List Char} {v : Value} (h : number s = some (v, w)) :
    (∃ c base, (∀ t, number ('0' :: c :: t) = based base t) ∧
      ∃ r, s = '0' :: c :: r ∧ based base r = some (v, w)) ∨
    (∀ c r, s = '0' :: c :: r → c ≠ 'x' ∧ c ≠ 'o' ∧ c ≠ 'b') ∧
      unsigned (sign s).1 (sign s).2 = some (v, w) := by
  unfold number at h
  split at h
  next r => exact .inl ⟨'x', 16, fun _ => rfl, r, rfl, h⟩
  next r => exact .inl ⟨'o', 8, fun _ => rfl, r, rfl, h⟩
  next r => exact .inl ⟨'b', 2, fun _ => rfl, r, rfl, h⟩
  next hx ho hb =>
    refine .inr ⟨fun c r he => ?_, h⟩
    subst he
    refine ⟨?_, ?_, ?_⟩
    · rintro rfl; exact hx r rfl
    · rintro rfl; exact ho r rfl
    · rintro rfl; exact hb r rfl

theorem number_open : Open number := by
  intro s v w h hw x
  rcases number_eq_some h with ⟨c, base, hnum, r, rfl, hb⟩ | ⟨hplain, hu⟩
  · rw [List.cons_append, List.cons_append, hnum]
    exact based_open base _ _ _ hb hw x
  · have hs : s ≠ [] := by rintro rfl; cases hu
    have hplain' : ∀ c r, s ++ x = '0' :: c :: r → c ≠ 'x' ∧ c ≠ 'o' ∧ c ≠ 'b' := by
      intro c r he
      match s, hs with
      | [d], _ =>
        -- A zero with nothing behind it is read to the end of the text.
        cases he
        change (integer? false (ofDigits 10 ['0'])).map (·, []) = some (v, w) at hu
        exact absurd (eq_of_map hu).symm hw
      | d :: e :: t, _ =>
        cases he
        exact hplain c t rfl
    rw [number_of_unsigned hplain', sign_append hs]
    exact unsigned_open _ _ _ _ hu hw x

theorem number_leaves : Leaves number := by
  intro s v w h
  rcases number_eq_some h with ⟨c, base, hnum, r, rfl, hb⟩ | ⟨-, hu⟩
  · exact (based_leaves base _ _ _ hb).trans (List.suffix_append ['0', c] r)
  · exact (unsigned_leaves _ _ _ _ hu).trans (sign_leaves s)

theorem fixedNumber_eq_some {width n : Nat} {s r : List Char} :
    fixedNumber width s = some (n, r) ↔ ∃ ds : List Char, ds.length = width ∧
      (∀ d ∈ ds, isDigitOf 10 d = true) ∧ s = ds ++ r ∧ n = ofDigits 10 ds := by
  unfold fixedNumber
  dsimp only
  constructor
  · intro h
    split at h
    next hd =>
      rw [Bool.and_eq_true, decide_eq_true_eq, List.all_eq_true] at hd
      cases h
      exact ⟨s.take width, hd.1, hd.2, (List.take_append_drop width s).symm, rfl⟩
    next => cases h
  · rintro ⟨ds, hl, hd, rfl, rfl⟩
    rw [List.take_append_of_le_length hl.ge, List.drop_append_of_le_length hl.ge,
      List.take_of_length_le hl.le, List.drop_of_length_le hl.le, if_pos]
    · rfl
    · rw [Bool.and_eq_true, decide_eq_true_eq, List.all_eq_true]
      exact ⟨hl, hd⟩

theorem fixedNumber_closed (width : Nat) : Closed (fixedNumber width) := by
  intro s n w h _ x
  obtain ⟨ds, hl, hd, rfl, hn⟩ := fixedNumber_eq_some.mp h
  exact fixedNumber_eq_some.mpr ⟨ds, hl, hd, List.append_assoc .., hn⟩

theorem pair_closed (lo hi : Nat) : Closed (pair lo hi) := by
  intro s n w h _ x
  unfold pair at h ⊢
  split at h
  next m r hf =>
    rw [fixedNumber_closed 2 _ _ _ hf trivial x]
    dsimp only
    split at h
    next hb => cases h; exact if_pos hb
    next => cases h
  next => cases h

theorem mark_append {c : Char} {s r : List Char} (h : mark c s = some r) (x : List Char) :
    mark c (s ++ x) = some (r ++ x) := by
  unfold mark at h
  split at h
  next d t =>
    split at h
    next hd => cases h; exact if_pos hd
    next => cases h
  next => cases h

theorem date?_append {s r : List Char} (h : date? s = some r) (x : List Char) :
    date? (s ++ x) = some (r ++ x) := by
  unfold date? at h ⊢
  simp only [bind, Option.bind_eq_some_iff] at h ⊢
  obtain ⟨⟨year, s₁⟩, h₁, s₂, h₂, ⟨month, s₃⟩, h₃, s₄, h₄, ⟨day, s₅⟩, h₅, h⟩ := h
  refine ⟨(year, s₁ ++ x), fixedNumber_closed 4 _ _ _ h₁ trivial x, s₂ ++ x, mark_append h₂ x,
    (month, s₃ ++ x), pair_closed 1 12 _ _ _ h₃ trivial x, s₄ ++ x, mark_append h₄ x,
    (day, s₅ ++ x), pair_closed 1 31 _ _ _ h₅ trivial x, ?_⟩
  dsimp only at h ⊢
  split at h
  next hd => cases h; exact if_pos hd
  next => cases h

def afterSeconds? : List Char → Option (List Char)
  | '.' :: r =>
    if (r.head?.map (isDigitOf 10)).getD false then some (r.dropWhile (isDigitOf 10)) else none
  | s => some s

theorem time?_eq (s : List Char) :
    time? s = (do
      let (_, s) ← pair 0 23 s
      let s ← mark ':' s
      let (_, s) ← pair 0 59 s
      let s ← mark ':' s
      let (_, s) ← pair 0 60 s
      afterSeconds? s) := rfl

theorem afterSeconds?_append {s w : List Char} (h : afterSeconds? s = some w) (hw : w ≠ [])
    (x : List Char) : afterSeconds? (s ++ x) = some (w ++ x) := by
  unfold afterSeconds? at h
  split at h
  next r =>
    split at h
    next hd =>
      cases h
      cases r with
      | nil => cases hd
      | cons c r =>
        rw [← dropWhile_append_of_ne hw]
        exact if_pos hd
    next => cases h
  next hne =>
    cases h
    cases s with
    | nil => exact absurd rfl hw
    | cons c r =>
      unfold afterSeconds?
      split
      next he => cases he; exact absurd rfl (hne r)
      next => rfl

theorem time?_append {s w : List Char} (h : time? s = some w) (hw : w ≠ []) (x : List Char) :
    time? (s ++ x) = some (w ++ x) := by
  rw [time?_eq] at h ⊢
  simp only [bind, Option.bind_eq_some_iff] at h ⊢
  obtain ⟨⟨hour, s₁⟩, h₁, s₂, h₂, ⟨minute, s₃⟩, h₃, s₄, h₄, ⟨second, s₅⟩, h₅, h⟩ := h
  exact ⟨(hour, s₁ ++ x), pair_closed 0 23 _ _ _ h₁ trivial x, s₂ ++ x, mark_append h₂ x,
    (minute, s₃ ++ x), pair_closed 0 59 _ _ _ h₃ trivial x, s₄ ++ x, mark_append h₄ x,
    (second, s₅ ++ x), pair_closed 0 60 _ _ _ h₅ trivial x, afterSeconds?_append h hw x⟩

theorem offset?_append {s w : List Char} (h : offset? s = some w) (hw : w ≠ []) (x : List Char) :
    offset? (s ++ x) = some (w ++ x) := by
  unfold offset? at h
  -- An offset is a letter for none, or a sign with hours and minutes; it may also be left out.
  split at h
  next => cases h; rfl
  next => cases h; rfl
  next c r hZ hz =>
    have hne : offset? (c :: (r ++ x)) =
        if c = '+' || c = '-' then do
          let (_, r) ← pair 0 23 (r ++ x)
          let r ← mark ':' r
          let (_, r) ← pair 0 59 r
          some r
        else some (c :: (r ++ x)) := by
      rw [offset?]
      · exact hZ
      · exact hz
    rw [List.cons_append, hne]
    split at h
    next hs =>
      rw [if_pos hs]
      simp only [bind, Option.bind_eq_some_iff] at h ⊢
      obtain ⟨⟨hour, s₁⟩, h₁, s₂, h₂, ⟨minute, s₃⟩, h₃, h⟩ := h
      cases h
      exact ⟨(hour, s₁ ++ x), pair_closed 0 23 _ _ _ h₁ trivial x, s₂ ++ x, mark_append h₂ x,
        (minute, s₃ ++ x), pair_closed 0 59 _ _ _ h₃ trivial x, rfl⟩
    next hs =>
      cases h
      exact if_neg hs
  next => cases h; exact absurd rfl hw

theorem afterDate?_append {s t : List Char} (h : afterDate? s = some t) (x : List Char) :
    afterDate? (s ++ x) = some (t ++ x) := by
  unfold afterDate? at h
  split at h
  next c d r =>
    split at h
    next hc => cases h; exact if_pos hc
    next => cases h
  next => cases h

def isStop (c : Char) : Bool := isSpace c || ['#', '\n', '\r', ',', ']', '\x7d'].contains c

/-- Whether a value that leaves a text ends there whatever else follows. After a date a single space
does not decide, since a time may come. -/
def Firm : List Char → Prop
  | [] => False
  | c :: r => isStop c = true ∧ (c = ' ' → r ≠ [])

theorem Firm.ne_nil {w : List Char} (h : Firm w) : w ≠ [] := by
  rintro rfl
  exact h

theorem afterDate?_append_of_firm {w : List Char} (h : afterDate? w = none) (hw : Firm w)
    (x : List Char) : afterDate? (w ++ x) = none := by
  match w, hw with
  | c :: r, ⟨hc, hr⟩ =>
    match r with
    | d :: r =>
      unfold afterDate? at h
      dsimp only at h
      split at h
      next => cases h
      next hn => exact if_neg hn
    | [] =>
      have hne : c ≠ 'T' ∧ c ≠ 't' := by
        constructor
        · rintro rfl; exact absurd hc (by decide)
        · rintro rfl; exact absurd hc (by decide)
      have hs : c ≠ ' ' := fun he => hr he rfl
      cases x with
      | nil => rfl
      | cons d x => exact if_neg (by simp [hne, hs])

theorem mark_eq_some {c : Char} {s r : List Char} : mark c s = some r ↔ s = c :: r := by
  unfold mark
  split
  · split <;> simp_all
  · simp

/-- What begins with a time of day is no date. -/
theorem date?_eq_none_of_time? {s w : List Char} (h : time? s = some w) (x : List Char) :
    date? (s ++ x) = none := by
  rw [time?_eq] at h
  simp only [bind, Option.bind_eq_some_iff] at h
  obtain ⟨⟨hour, s₁⟩, h₁, s₂, h₂, -⟩ := h
  obtain rfl := mark_eq_some.mp h₂
  have hds : ∃ ds : List Char, ds.length = 2 ∧ s = ds ++ ':' :: s₂ := by
    unfold pair at h₁
    split at h₁
    next n r hn =>
      split at h₁
      next =>
        cases h₁
        obtain ⟨ds, hl, -, hs, -⟩ := fixedNumber_eq_some.mp hn
        exact ⟨ds, hl, hs⟩
      next => cases h₁
    next => cases h₁
  obtain ⟨ds, hl, rfl⟩ := hds
  have hf : fixedNumber 4 (ds ++ ':' :: s₂ ++ x) = none := by
    rw [Option.eq_none_iff_forall_ne_some]
    rintro ⟨n, r⟩ hn
    obtain ⟨ds', hl', hdig, he, -⟩ := fixedNumber_eq_some.mp hn
    -- The third character would be a colon and a digit.
    have hc : ':' ∈ ds' := by
      have h2 : (ds ++ (':' :: s₂ ++ x))[2]? = (ds' ++ r)[2]? := by rw [← he, List.append_assoc]
      have hlt : 2 < ds'.length := by omega
      rw [List.getElem?_append_right hl.le, hl, List.getElem?_append_left hlt] at h2
      exact List.mem_of_getElem? h2.symm
    exact absurd (hdig ':' hc) (by decide)
  unfold date?
  rw [hf]
  rfl

theorem moment?_append {s w : List Char} (h : moment? s = some w) (hw : Firm w) (x : List Char) :
    moment? (s ++ x) = some (w ++ x) := by
  unfold moment? at h ⊢
  -- What has no date in front has a time there, and more text does not turn it into a date.
  cases hd : date? s with
  | some r =>
    rw [hd] at h
    rw [date?_append hd x]
    dsimp only at h ⊢
    cases ha : afterDate? r with
    | some t =>
      rw [ha] at h
      rw [afterDate?_append ha x]
      obtain ⟨u, hu, ho⟩ := Option.bind_eq_some_iff.mp h
      have hne : u ≠ [] := by
        rintro rfl
        cases ho
        exact hw.ne_nil rfl
      exact Option.bind_eq_some_iff.mpr
        ⟨u ++ x, time?_append hu hne x, offset?_append ho hw.ne_nil x⟩
    | none =>
      rw [ha] at h
      cases h
      rw [afterDate?_append_of_firm ha hw x]
  | none =>
    rw [hd] at h
    rw [date?_eq_none_of_time? h x]
    exact time?_append h hw.ne_nil x

def isMarked (width : Nat) (c : Char) (s : List Char) : Bool :=
  ((fixedNumber width s).bind fun (_, r) => mark c r).isSome

theorem looksLikeMoment_eq (s : List Char) :
    looksLikeMoment s = (isMarked 4 '-' s || isMarked 2 ':' s) := rfl

theorem isMarked_iff {width : Nat} {c : Char} {s : List Char} :
    isMarked width c s = true ↔ ∃ ds r : List Char, ds.length = width ∧
      (∀ d ∈ ds, isDigitOf 10 d = true) ∧ s = ds ++ c :: r := by
  unfold isMarked
  rw [Option.isSome_iff_exists]
  constructor
  · rintro ⟨r, hr⟩
    obtain ⟨⟨n, t⟩, hn, ht⟩ := Option.bind_eq_some_iff.mp hr
    obtain ⟨ds, hl, hd, rfl, -⟩ := fixedNumber_eq_some.mp hn
    exact ⟨ds, r, hl, hd, by rw [mark_eq_some.mp ht]⟩
  · rintro ⟨ds, r, hl, hd, rfl⟩
    exact ⟨r, Option.bind_eq_some_iff.mpr
      ⟨(ofDigits 10 ds, c :: r), fixedNumber_eq_some.mpr ⟨ds, hl, hd, rfl, rfl⟩,
        mark_eq_some.mpr rfl⟩⟩

theorem isMarked_mono {width : Nat} {c : Char} {s : List Char} (h : isMarked width c s = true)
    (x : List Char) : isMarked width c (s ++ x) = true := by
  obtain ⟨ds, r, hl, hds, rfl⟩ := isMarked_iff.mp h
  exact isMarked_iff.mpr ⟨ds, r ++ x, hl, hds, List.append_assoc ..⟩

/-- More text does not make a mark come up behind a character that is neither a digit nor the mark. -/
theorem isMarked_append {width : Nat} {c e : Char} {s : List Char} (he : e ∈ s)
    (hd : isDigitOf 10 e = false) (hc : e ≠ c) (x : List Char) :
    isMarked width c (s ++ x) = isMarked width c s := by
  rw [Bool.eq_iff_iff]
  refine ⟨fun h => ?_, fun h => isMarked_mono h x⟩
  obtain ⟨ds, r, hl, hds, hs⟩ := isMarked_iff.mp h
  have hp : s <+: ds ++ c :: r := ⟨x, hs⟩
  have hq : ds ++ [c] <+: ds ++ c :: r := ⟨r, by simp⟩
  rcases List.prefix_or_prefix_of_prefix hp hq with hsub | ⟨t, ht⟩
  · -- All of the text would be digits and the mark.
    rcases List.mem_append.mp (hsub.subset he) with hmem | hmem
    · rw [hds e hmem] at hd
      cases hd
    · exact absurd (List.mem_singleton.mp hmem) hc
  · exact isMarked_iff.mpr ⟨ds, t, hl, hds, by rw [← ht, List.append_assoc]; rfl⟩

theorem looksLikeMoment_mono {s : List Char} (h : looksLikeMoment s = true) (x : List Char) :
    looksLikeMoment (s ++ x) = true := by
  rw [looksLikeMoment_eq, Bool.or_eq_true] at h ⊢
  exact h.imp (isMarked_mono · x) (isMarked_mono · x)

theorem looksLikeMoment_append {s w : List Char} (hw : w <:+ s) (hf : Firm w) (x : List Char) :
    looksLikeMoment (s ++ x) = looksLikeMoment s := by
  match w, hf with
  | c :: r, ⟨hc, _⟩ =>
    have hm : c ∈ s := hw.subset (List.mem_cons_self ..)
    have hstop : isDigitOf 10 c = false ∧ c ≠ '-' ∧ c ≠ ':' := by
      simp only [isStop, isSpace, List.contains_eq_mem, List.mem_cons, Bool.or_eq_true,
        decide_eq_true_eq, List.not_mem_nil, or_false] at hc
      rcases hc with (rfl | rfl) | rfl | rfl | rfl | rfl | rfl | rfl <;> decide
    rw [looksLikeMoment_eq, looksLikeMoment_eq, isMarked_append hm hstop.1 hstop.2.1,
      isMarked_append hm hstop.1 hstop.2.2]

end RelayRoster.Toml
