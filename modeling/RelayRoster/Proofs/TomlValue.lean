import RelayRoster.Proofs.TomlNumber

namespace RelayRoster.Toml
open Text

theorem firm_of_skipSpace {s r : List Char} {c : Char} (h : skipSpace s = c :: r)
    (hc : isStop c = true) : Firm s := by
  cases s with
  | nil => cases h
  | cons d t =>
    by_cases hd : isSpace d = true
    · refine ⟨by simp [isStop, hd], ?_⟩
      rintro rfl rfl
      cases h
    · unfold skipSpace at h
      rw [List.dropWhile_cons_of_neg hd] at h
      cases h
      refine ⟨hc, ?_⟩
      rintro rfl
      exact absurd rfl hd

theorem exists_of_afterNewline? {s r : List Char}
    (h : afterNewline? (afterComment s) = some r) : ∃ c t, s = c :: t ∧ isStop c = true := by
  cases s with
  | nil => cases h
  | cons c t =>
    refine ⟨c, t, rfl, ?_⟩
    by_cases hc : c = '#'
    · subst hc; decide
    · rw [afterComment_of_ne hc] at h
      unfold afterNewline? at h
      split at h
      next he => cases he; decide
      next he => cases he; decide
      next => cases h

theorem firm_of_skipLines {s r : List Char} {c : Char} (h : skipLines s = c :: r)
    (hc : isStop c = true) : Firm s := by
  cases hn : afterNewline? (afterComment (skipSpace s)) with
  | some u =>
    obtain ⟨d, t, hs, hd⟩ := exists_of_afterNewline? hn
    exact firm_of_skipSpace hs hd
  | none =>
    rw [skipLines_of_item hn] at h
    exact firm_of_skipSpace h hc

/-- A reader of values that reads the same where more text follows, and never begins in blank lines
or comments. -/
structure ReadsValues (item : Reader Value) : Prop where
  stable : Stable Firm item
  front : ∀ s v w, item s = some (v, w) → ∃ c r, s = c :: r ∧ c ≠ '#' ∧ c ≠ '\r'

section

variable {item : Reader Value} {s r u w : List Char} {v : Value}

theorem items_of_close (h : skipLines s = ']' :: r) : items item s = some ([], r) := by
  rw [items.eq_def]
  simp only [h]

theorem items_of_last (hs : ∀ t, skipLines s ≠ ']' :: t) (hv : item (skipLines s) = some (v, r))
    (hr : skipLines r = ']' :: u) : items item s = some ([v], u) := by
  rw [items.eq_def]
  split
  next t he => exact absurd he (hs t)
  next => simp only [hv, hr]

theorem items_of_comma (hs : ∀ t, skipLines s ≠ ']' :: t) (hv : item (skipLines s) = some (v, r))
    (hr : skipLines r = ',' :: u) (hu : u.length < s.length) :
    items item s = (items item u).map fun (vs, w) => (v :: vs, w) := by
  rw [items.eq_def]
  split
  next t he => exact absurd he (hs t)
  next =>
    simp only [hv, hr, if_pos hu]
    cases items item u <;> rfl

/-- The front of an item, as more text leaves it. -/
theorem ReadsValues.skipLines_append (hi : ReadsValues item) (hs : ∀ t, skipLines s ≠ ']' :: t)
    (hv : item (skipLines s) = some (v, r)) (hr : Firm r) (x : List Char) :
    (∀ t, skipLines (s ++ x) ≠ ']' :: t) ∧ item (skipLines (s ++ x)) = some (v, r ++ x) := by
  obtain ⟨c, t, hc, hne, hne'⟩ := hi.front _ _ _ hv
  have ha : skipLines (s ++ x) = skipLines s ++ x := by
    rw [Toml.skipLines_append hc hne hne', hc]
  rw [ha]
  refine ⟨fun y he => ?_, hi.stable _ _ _ hv hr x⟩
  rw [hc] at he
  cases he
  exact hs t hc

theorem ReadsValues.items (hi : ReadsValues item) : Closed (items item) := by
  intro s vs w h _ x
  have hclose {r u : List Char} (hr : skipLines r = ']' :: u) :
      skipLines (r ++ x) = ']' :: (u ++ x) :=
    Toml.skipLines_append hr (by decide) (by decide) x
  -- By the recursion of the reader. It reads something in three of its cases: the array is closed,
  -- or an item is the last one, or has a comma behind it.
  induction s using items.induct item generalizing vs with
  | case1 s r hs =>
    rw [items_of_close hs] at h
    cases h
    exact items_of_close (hclose hs)
  | case2 s hs hv =>
    rw [items.eq_def] at h
    split at h
    next t he => exact (hs t he).elim
    next => rw [hv] at h; cases h
  | case3 s v r u hr hs hv =>
    rw [items_of_last hs hv hr] at h
    cases h
    obtain ⟨hs', hv'⟩ := hi.skipLines_append hs hv (firm_of_skipLines hr (by decide)) x
    exact items_of_last hs' hv' (hclose hr)
  | case4 s v r u hr hu vs' w' hi' hs hv ih =>
    rw [items_of_comma hs hv hr hu, hi'] at h
    cases h
    obtain ⟨hs', hv'⟩ := hi.skipLines_append hs hv (firm_of_skipLines hr (by decide)) x
    have hr' : skipLines (r ++ x) = ',' :: (u ++ x) :=
      Toml.skipLines_append hr (by decide) (by decide) x
    rw [items_of_comma hs' hv' hr' (by simpa using hu), ih _ hi']
    rfl
  | case5 s v r u hr hu hi' hs hv =>
    rw [items_of_comma hs hv hr hu, hi'] at h
    cases h
  | case6 s v r u hr hu hs hv =>
    rw [items.eq_def] at h
    split at h
    next t he => exact (hs t he).elim
    next =>
      simp only [hv, hr, if_neg hu] at h
      cases h
  | case7 s v r hr hr' hs hv =>
    rw [items.eq_def] at h
    split at h
    next t he => exact (hs t he).elim
    next =>
      simp only [hv] at h
      cases h

theorem pairAt_eq_some {path : List String} {last : String} :
    pairAt item s = some ((path, last, v), w) ↔
      ∃ r, key s = some ((path, last), '=' :: r) ∧ item (skipSpace r) = some (v, w) := by
  unfold pairAt
  constructor
  · intro h
    split at h
    next path last r hk =>
      obtain ⟨⟨v, w⟩, hv, he⟩ := Option.map_eq_some_iff.mp h
      cases he
      exact ⟨r, hk, hv⟩
    next => cases h
  · rintro ⟨r, hk, hv⟩
    rw [hk]
    simp [hv]

theorem ReadsValues.skipSpace_append (hi : ReadsValues item) (hv : item (skipSpace s) = some (v, r))
    (x : List Char) : skipSpace (s ++ x) = skipSpace s ++ x := by
  obtain ⟨c, t, hc, -⟩ := hi.front _ _ _ hv
  rw [skipSpace_cons_append hc, hc]
  rfl

theorem ReadsValues.pairAt (hi : ReadsValues item) : Stable Firm (pairAt item) := by
  rintro s ⟨path, last, v⟩ w h hw x
  obtain ⟨r, hk, hv⟩ := pairAt_eq_some.mp h
  refine pairAt_eq_some.mpr ⟨r ++ x, key_open _ _ _ hk (List.cons_ne_nil _ _) x, ?_⟩
  rw [hi.skipSpace_append hv]
  exact hi.stable _ _ _ hv hw x

end

section

variable {item : Reader Value} {es es' : Entries} {s r u : List Char} {path : List String}
  {last : String} {v : Value}

theorem pairs_of_close (hp : pairAt item s = some ((path, last, v), r))
    (he : es.insert .braces path last v = some es') (hr : skipSpace r = '\x7d' :: u) :
    pairs item es s = some (es', u) := by
  rw [pairs.eq_def]
  simp only [hp, he, hr]

theorem pairs_of_comma (hp : pairAt item s = some ((path, last, v), r))
    (he : es.insert .braces path last v = some es') (hr : skipSpace r = ',' :: u)
    (hu : u.length < s.length) : pairs item es s = pairs item es' u := by
  rw [pairs.eq_def]
  simp only [hp, he, hr, if_pos hu]

theorem ne_nil_of_pairs {item : Reader Value} {es fs : Entries} {s w : List Char}
    (h : pairs item es s = some (fs, w)) : skipSpace s ≠ [] := by
  rw [pairs.eq_def] at h
  split at h
  next => cases h
  next hp =>
    obtain ⟨r, hk, -⟩ := pairAt_eq_some.mp hp
    exact ne_nil_of_key hk

theorem ReadsValues.pairs (hi : ReadsValues item) (es : Entries) : Closed (pairs item es) := by
  intro s fs w h _ x
  induction es, s using pairs.induct item with
  | case1 es s hp =>
    rw [pairs.eq_def] at h
    simp only [hp] at h
    cases h
  | case2 es s path last v r hp he =>
    rw [pairs.eq_def] at h
    simp only [hp, he] at h
    cases h
  | case3 es s path last v r hp es' he u hr =>
    rw [pairs_of_close hp he hr] at h
    cases h
    exact pairs_of_close (hi.pairAt _ _ _ hp (firm_of_skipSpace hr (by decide)) x) he
      (skipSpace_cons_append hr x)
  | case4 es s path last v r hp es' he u hr hu ih =>
    rw [pairs_of_comma hp he hr hu] at h
    rw [pairs_of_comma (hi.pairAt _ _ _ hp (firm_of_skipSpace hr (by decide)) x) he
      (skipSpace_cons_append hr x) (by simpa using hu)]
    exact ih h
  | case5 es s path last v r hp es' he u hr hu =>
    rw [pairs.eq_def] at h
    simp only [hp, he, hr, if_neg hu] at h
    cases h
  | case6 es s path last v r hp es' he hr hr' =>
    rw [pairs.eq_def] at h
    simp only [hp, he] at h
    cases h

end

theorem afterWord?_append {ws s r : List Char} (h : afterWord? ws s = some r) (x : List Char) :
    afterWord? ws (s ++ x) = some (r ++ x) := by
  induction ws generalizing s with
  | nil => cases h; rfl
  | cons c ws ih =>
    cases s with
    | nil => cases h
    | cons d s =>
      unfold afterWord? at h
      split at h
      next hd =>
        unfold afterWord?
        rw [List.cons_append]
        dsimp only
        rw [if_pos hd]
        exact ih h
      next => cases h

/-- Whether a value is told by its first character to be no string, no truth value and nothing in
brackets. -/
def StartsBare (s : List Char) : Prop :=
  ∀ c r, s = c :: r → c ≠ '"' ∧ c ≠ '\'' ∧ c ≠ '[' ∧ c ≠ '\x7b' ∧ c ≠ 't' ∧ c ≠ 'f'

def bareValue (s : List Char) : Option (Value × List Char) :=
  if looksLikeMoment s then (moment? s).map (.moment, ·) else number s

theorem value_of_bare {s : List Char} (h : StartsBare s) (depth : Nat) :
    value depth s = bareValue s := by
  rw [value.eq_def]
  split
  next r => exact absurd rfl (h _ _ rfl).1
  next r => exact absurd rfl (h _ _ rfl).2.1
  next r => exact absurd rfl (h _ _ rfl).2.2.1
  next r => exact absurd rfl (h _ _ rfl).2.2.2.1
  next r => exact absurd rfl (h _ _ rfl).2.2.2.2.1
  next r => exact absurd rfl (h _ _ rfl).2.2.2.2.2
  next => rfl

theorem value_of_quote {s : List Char} (hq : ∃ r, s = '"' :: r ∨ s = '\'' :: r) (depth : Nat) :
    value depth s = (stringAt s).map fun (a, w) => (.text a, w) := by
  obtain ⟨r, rfl | rfl⟩ := hq
  · rw [value]
  · rw [value]

inductive Reading (depth : Nat) : List Char → Value → List Char → Prop
  | text {s w : List Char} {a : String} (hq : ∃ r, s = '"' :: r ∨ s = '\'' :: r)
      (h : stringAt s = some (a, w)) : Reading depth s (.text a) w
  | array {r w : List Char} {vs : List Value} (d : Nat) (hd : depth = d + 1)
      (h : items (value d) r = some (vs, w)) : Reading depth ('[' :: r) (.array vs) w
  | empty {r w : List Char} (hd : 0 < depth) (h : skipSpace r = '\x7d' :: w) :
      Reading depth ('\x7b' :: r) (.table .braces []) w
  | table {r w : List Char} {es : Entries} (d : Nat) (hd : depth = d + 1)
      (hne : ∀ u, skipSpace r ≠ '\x7d' :: u) (h : pairs (value d) [] r = some (es, w)) :
      Reading depth ('\x7b' :: r) (.table .braces es) w
  | truth {r w : List Char} (h : afterWord? ['r', 'u', 'e'] r = some w) :
      Reading depth ('t' :: r) (.boolean true) w
  | falsity {r w : List Char} (h : afterWord? ['a', 'l', 's', 'e'] r = some w) :
      Reading depth ('f' :: r) (.boolean false) w
  | bare {s w : List Char} {v : Value} (hs : StartsBare s) (h : bareValue s = some (v, w)) :
      Reading depth s v w

theorem reading_of_value {depth : Nat} {s w : List Char} {v : Value}
    (h : value depth s = some (v, w)) : Reading depth s v w := by
  rw [value.eq_def] at h
  -- One case for each first character that decides what the value is, and one for all others.
  split at h
  next r =>
    obtain ⟨⟨a, u⟩, ha, he⟩ := Option.map_eq_some_iff.mp h
    cases he
    exact .text ⟨r, .inl rfl⟩ ha
  next r =>
    obtain ⟨⟨a, u⟩, ha, he⟩ := Option.map_eq_some_iff.mp h
    cases he
    exact .text ⟨r, .inr rfl⟩ ha
  next r =>
    split at h
    next => cases h
    next d =>
      obtain ⟨⟨vs, u⟩, hi, he⟩ := Option.map_eq_some_iff.mp h
      cases he
      exact .array d rfl hi
  next r =>
    split at h
    next => cases h
    next u hd hs =>
      cases h
      exact .empty (Nat.pos_of_ne_zero hd) hs
    next d hne =>
      obtain ⟨⟨es, u⟩, hi, he⟩ := Option.map_eq_some_iff.mp h
      cases he
      exact .table d rfl hne hi
  next r =>
    obtain ⟨u, hu, he⟩ := Option.map_eq_some_iff.mp h
    cases he
    exact .truth hu
  next r =>
    obtain ⟨u, hu, he⟩ := Option.map_eq_some_iff.mp h
    cases he
    exact .falsity hu
  next h₁ h₂ h₃ h₄ h₅ h₆ =>
    refine .bare (fun c r hs => ⟨?_, ?_, ?_, ?_, ?_, ?_⟩) h
    · rintro rfl; exact h₁ r hs
    · rintro rfl; exact h₂ r hs
    · rintro rfl; exact h₃ r hs
    · rintro rfl; exact h₄ r hs
    · rintro rfl; exact h₅ r hs
    · rintro rfl; exact h₆ r hs

theorem Reading.value {depth : Nat} {s w : List Char} {v : Value} (h : Reading depth s v w) :
    value depth s = some (v, w) := by
  cases h with
  | text hq h => rw [value_of_quote hq, h]; rfl
  | array d hd h => subst hd; rw [Toml.value, h]; rfl
  | empty hd h =>
    obtain ⟨d, rfl⟩ := Nat.exists_eq_add_one_of_ne_zero hd.ne'
    rw [value.eq_def]
    simp only [h]
  | @table r _ es d hd hne h =>
    subst hd
    rw [value.eq_def]
    split
    next he => cases he
    next he => cases he
    next he => cases he
    next t he =>
      cases he
      split
      next hz => cases hz
      next u hu _ => exact absurd hu (hne u)
      next d' he _ => cases he; rw [h]; rfl
    next he => cases he
    next he => cases he
    next ht _ _ => exact absurd rfl (ht r)
  | truth h => rw [Toml.value, h]; rfl
  | falsity h => rw [Toml.value, h]; rfl
  | bare hs h => rw [value_of_bare hs, h]

def Value.IsBare : Value → Prop
  | .integer _ | .float _ | .moment => True
  | _ => False

theorem forall_of_map {P : Value → Prop} {o : Option Value} {v : Value} {r w : List Char}
    (h : o.map (·, r) = some (v, w)) (ho : ∀ u, o = some u → P u) : P v := by
  obtain ⟨u, hu, he⟩ := Option.map_eq_some_iff.mp h
  cases he
  exact ho v hu

theorem isBare_of_integer? {negative : Bool} {n : Nat} (v : Value)
    (h : integer? negative n = some v) : v.IsBare := by
  obtain ⟨-, rfl⟩ := Option.ite_some_none_eq_some.mp h
  trivial

theorem isBare_of_float? {negative : Bool} {ds : List Char} {e : Int} (v : Value)
    (h : float? negative ds e = some v) : v.IsBare := by
  unfold float? at h
  split at h
  · cases h
  · cases h; trivial

theorem isBare_of_exponent {negative : Bool} {ds s w : List Char} {places : Nat} {v : Value}
    (h : exponent negative ds places s = some (v, w)) : v.IsBare := by
  unfold exponent at h
  dsimp only at h
  split at h
  · exact forall_of_map h isBare_of_float?
  · cases h

theorem isBare_of_decimal {negative : Bool} {s w : List Char} {v : Value}
    (h : decimal negative s = some (v, w)) : v.IsBare := by
  unfold decimal at h
  split at h
  next => cases h
  next =>
    split at h
    next => cases h
    next =>
      split at h
      · exact isBare_of_exponent h
      · exact forall_of_map h isBare_of_float?
    next => exact forall_of_map h isBare_of_float?
  next =>
    split at h
    · exact isBare_of_exponent h
    · exact forall_of_map h isBare_of_integer?
  next => exact forall_of_map h isBare_of_integer?

theorem isBare_of_number {s w : List Char} {v : Value} (h : number s = some (v, w)) : v.IsBare := by
  rcases number_eq_some h with ⟨c, base, -, r, -, hb⟩ | ⟨-, hu⟩
  · unfold based at hb
    split at hb
    · exact forall_of_map hb isBare_of_integer?
    · cases hb
  · unfold unsigned at hu
    split at hu
    · cases hu; trivial
    · cases hu; trivial
    · exact isBare_of_decimal hu

theorem isBare_of_bareValue {s w : List Char} {v : Value} (h : bareValue s = some (v, w)) :
    v.IsBare := by
  unfold bareValue at h
  split at h
  · obtain ⟨u, -, he⟩ := Option.map_eq_some_iff.mp h
    cases he
    trivial
  · exact isBare_of_number h

theorem bareValue_append {s w : List Char} {v : Value} (h : bareValue s = some (v, w))
    (hw : Firm w) (x : List Char) : bareValue (s ++ x) = some (v, w ++ x) := by
  unfold bareValue at h ⊢
  split at h
  next hm =>
    obtain ⟨u, hu, he⟩ := Option.map_eq_some_iff.mp h
    cases he
    rw [if_pos (looksLikeMoment_mono hm x), moment?_append hu hw x]
    rfl
  next hm =>
    rw [looksLikeMoment_append (number_leaves _ _ _ h) hw, if_neg hm]
    exact number_open _ _ _ h hw.ne_nil x

theorem isMarked_of_ne {width : Nat} {c d : Char} {r : List Char} (hw : 0 < width)
    (hd : isDigitOf 10 d = false) : isMarked width c (d :: r) = false := by
  rw [Bool.eq_false_iff]
  intro h
  obtain ⟨ds, t, hl, hds, he⟩ := isMarked_iff.mp h
  cases ds with
  | nil => simp at hl; omega
  | cons e ds =>
    cases he
    rw [hds d (List.mem_cons_self ..)] at hd
    cases hd

/-- A date, a time or a number begins neither like a comment nor like a newline. -/
theorem front_of_bareValue {s w : List Char} {v : Value} (h : bareValue s = some (v, w)) :
    ∃ c r, s = c :: r ∧ c ≠ '#' ∧ c ≠ '\r' := by
  cases s with
  | nil => cases h
  | cons c r =>
    have hnone (hd : isDigitOf 10 c = false) (hn : number (c :: r) = none) : False := by
      unfold bareValue at h
      rw [looksLikeMoment_eq, isMarked_of_ne (by decide) hd, isMarked_of_ne (by decide) hd, hn] at h
      cases h
    refine ⟨c, r, rfl, ?_, ?_⟩
    · rintro rfl; exact hnone (by decide) rfl
    · rintro rfl; exact hnone (by decide) rfl

/-- What may be left of a value where the text was cut off: all of it, a part of a string, or another
bare value. -/
inductive Curtailed : Value → Value → Prop
  | same (v : Value) : Curtailed v v
  | text {a b : String} (h : Curtails a b) : Curtailed (.text a) (.text b)
  | bare {v v' : Value} (h : v.IsBare) (h' : v'.IsBare) : Curtailed v v'

/-- More text leaves a value as it is unless the value comes at the end of the text, and then it is
what was left of the value that is read with more text. -/
theorem Reading.append {depth : Nat} {s w : List Char} {v : Value}
    (ih : ∀ d < depth, ReadsValues (Toml.value d)) (h : Reading depth s v w) (x : List Char) :
    Reading depth (s ++ x) v (w ++ x) ∨ ¬ Firm w ∧
      ∀ v' w', Toml.value depth (s ++ x) = some (v', w') → Curtailed v v' := by
  cases h with
  | @text _ _ a hq h =>
    have hq' : ∃ r, s ++ x = '"' :: r ∨ s ++ x = '\'' :: r := by
      obtain ⟨r, rfl | rfl⟩ := hq
      · exact ⟨r ++ x, .inl rfl⟩
      · exact ⟨r ++ x, .inr rfl⟩
    -- A string knows its end, unless its quotes came last of all.
    rcases stringAt_reread h x with he | ⟨rfl, hc⟩
    · exact .inl (.text hq' he)
    · refine .inr ⟨id, fun v' w' hv => ?_⟩
      rw [value_of_quote hq'] at hv
      obtain ⟨⟨b, y⟩, hb, he⟩ := Option.map_eq_some_iff.mp hv
      cases he
      exact .text (hc b w' hb)
  | array d hd h =>
    exact .inl (.array d hd ((ih d (by omega)).items _ _ _ h trivial x))
  | empty hd h => exact .inl (.empty hd (skipSpace_cons_append h x))
  | table d hd hne h =>
    refine .inl (.table d hd (fun u he => ?_) ((ih d (by omega)).pairs [] _ _ _ h trivial x))
    obtain ⟨c, t, hs⟩ := List.exists_cons_of_ne_nil (ne_nil_of_pairs h)
    rw [List.append_eq, skipSpace_cons_append hs] at he
    cases he
    exact hne t hs
  | truth h => exact .inl (.truth (afterWord?_append h x))
  | falsity h => exact .inl (.falsity (afterWord?_append h x))
  | bare hs h =>
    obtain ⟨c, r, rfl, -⟩ := front_of_bareValue h
    have hs' : StartsBare (c :: r ++ x) := by
      intro d t he
      cases he
      exact hs c r rfl
    -- A bare value ends by what follows it, which settles it only where the rest is firm.
    by_cases hw : Firm w
    · exact .inl (.bare hs' (bareValue_append h hw x))
    · refine .inr ⟨hw, fun v' w' hv => ?_⟩
      rw [value_of_bare hs'] at hv
      exact .bare (isBare_of_bareValue h) (isBare_of_bareValue hv)

theorem readsValues (depth : Nat) : ReadsValues (value depth) := by
  induction depth using Nat.strong_induction_on with
  | _ depth ih =>
    constructor
    · intro s v w h hw x
      rcases (reading_of_value h).append ih x with h' | ⟨hn, -⟩
      · exact h'.value
      · exact absurd hw hn
    · intro s v w h
      cases reading_of_value h with
      | text hq _ =>
        obtain ⟨r, rfl | rfl⟩ := hq
        · exact ⟨_, _, rfl, by decide, by decide⟩
        · exact ⟨_, _, rfl, by decide, by decide⟩
      | array | empty | table | truth | falsity => exact ⟨_, _, rfl, by decide, by decide⟩
      | bare _ h => exact front_of_bareValue h

end RelayRoster.Toml
