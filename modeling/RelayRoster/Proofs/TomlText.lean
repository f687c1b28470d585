import Mathlib
import RelayRoster.Toml.Text

namespace RelayRoster.Toml
open Text

/-- Whether more text at the end leaves what a reader has read as it is, where the rest of the text
has a property. -/
def Stable {α : Type} (P : List Char → Prop) (f : Reader α) : Prop :=
  ∀ s v w, f s = some (v, w) → P w → ∀ x, f (s ++ x) = some (v, w ++ x)

/-- Of any rest: the reader knows its end when it sees it. -/
abbrev Closed {α : Type} (f : Reader α) : Prop := Stable (fun _ => True) f

/-- Of a rest that is not empty: the reader looks one character ahead. -/
abbrev Open {α : Type} (f : Reader α) : Prop := Stable (· ≠ []) f

theorem Closed.open {α : Type} {f : Reader α} (h : Closed f) : Open f :=
  fun s v w hs _ => h s v w hs trivial

theorem takeWhile_append_of_ne {p : Char → Bool} {s : List Char} (h : s.dropWhile p ≠ [])
    (x : List Char) : (s ++ x).takeWhile p = s.takeWhile p := by
  rw [List.takeWhile_append]
  have hl := congrArg List.length (List.takeWhile_append_dropWhile (p := p) (l := s))
  rw [List.length_append] at hl
  have hp := List.length_pos_of_ne_nil h
  rw [if_neg (by omega)]

theorem dropWhile_append_of_ne {p : Char → Bool} {s : List Char} (h : s.dropWhile p ≠ [])
    (x : List Char) : (s ++ x).dropWhile p = s.dropWhile p ++ x := by
  rw [List.dropWhile_append, if_neg (by simpa using h)]

theorem skipSpace_append {s : List Char} (h : skipSpace s ≠ []) (x : List Char) :
    skipSpace (s ++ x) = skipSpace s ++ x := dropWhile_append_of_ne h x

theorem skipSpace_cons_append {s r : List Char} {c : Char} (h : skipSpace s = c :: r)
    (x : List Char) : skipSpace (s ++ x) = c :: (r ++ x) := by
  rw [skipSpace_append (by rw [h]; exact List.cons_ne_nil _ _), h]
  rfl

theorem afterNewline?_append {s r : List Char} (h : afterNewline? s = some r) (x : List Char) :
    afterNewline? (s ++ x) = some (r ++ x) := by
  unfold afterNewline? at h
  split at h
  · cases h; rfl
  · cases h; rfl
  · cases h

theorem afterComment_of_ne {c : Char} {r : List Char} (h : c ≠ '#') :
    afterComment (c :: r) = c :: r := by
  unfold afterComment
  split
  next he => cases he; exact absurd rfl h
  next => rfl

theorem afterComment_append {s : List Char} (h : afterComment s ≠ []) (x : List Char) :
    afterComment (s ++ x) = afterComment s ++ x := by
  cases s with
  | nil => exact absurd rfl h
  | cons c r =>
    by_cases hc : c = '#'
    · subst hc
      exact dropWhile_append_of_ne h x
    · rw [afterComment_of_ne hc, List.cons_append, afterComment_of_ne hc]

theorem afterNewline?_eq_none {c : Char} {r : List Char} (hn : c ≠ '\n') (hr : c ≠ '\r') :
    afterNewline? (c :: r) = none := by
  unfold afterNewline?
  split
  next he => cases he; exact absurd rfl hn
  next he => cases he; exact absurd rfl hr
  next => rfl

theorem ne_nil_of_afterNewline? {s r : List Char} (h : afterNewline? s = some r) : s ≠ [] := by
  rintro rfl
  cases h

/-- What follows an item on its line ends with the text or with a newline. -/
theorem afterItem?_eq_some {s w : List Char} :
    afterItem? s = some w ↔ afterComment (skipSpace s) = [] ∧ w = [] ∨
      afterNewline? (afterComment (skipSpace s)) = some w := by
  unfold afterItem? afterLine?
  split
  next he =>
    rw [he]
    simp [afterNewline?, eq_comm]
  next hne =>
    constructor
    · exact .inr
    · rintro (⟨he, -⟩ | h)
      · exact absurd he hne
      · exact h

/-- A newline that is found is found with more text as well. -/
theorem newline_append {s r : List Char}
    (h : afterNewline? (afterComment (skipSpace s)) = some r) (x : List Char) :
    skipSpace (s ++ x) = skipSpace s ++ x ∧
      afterNewline? (afterComment (skipSpace (s ++ x))) = some (r ++ x) := by
  have hne := ne_nil_of_afterNewline? h
  have hs : skipSpace s ≠ [] := fun he => hne (by rw [he]; rfl)
  rw [skipSpace_append hs, afterComment_append hne]
  exact ⟨rfl, afterNewline?_append h x⟩

theorem skipLines_of_newline {s r : List Char}
    (h : afterNewline? (afterComment (skipSpace s)) = some r) :
    skipLines s = if r.length < s.length then skipLines r else skipSpace s := by
  rw [skipLines.eq_def]
  dsimp only
  rw [h]

theorem skipLines_of_item {s : List Char}
    (h : afterNewline? (afterComment (skipSpace s)) = none) : skipLines s = skipSpace s := by
  rw [skipLines.eq_def]
  dsimp only
  rw [h]

theorem skipLines_append {s r : List Char} {c : Char} (h : skipLines s = c :: r) (hc : c ≠ '#')
    (hr : c ≠ '\r') (x : List Char) : skipLines (s ++ x) = c :: r ++ x := by
  induction s using skipLines.induct with
  | case1 s t u hu hlt ih =>
    rw [skipLines_of_newline hu, if_pos hlt] at h
    rw [skipLines_of_newline (newline_append hu x).2, if_pos (by simpa using hlt)]
    exact ih h
  | case2 s t u hu hlt =>
    rw [skipLines_of_newline hu, if_neg hlt] at h
    obtain ⟨hspace, hu'⟩ := newline_append hu x
    rw [skipLines_of_newline hu', if_neg (by simpa using hlt), hspace, h]
  | case3 s t hu =>
    rw [skipLines_of_item hu] at h
    have hs : skipSpace (s ++ x) = c :: r ++ x := skipSpace_cons_append h x
    have hn : c ≠ '\n' := by
      rintro rfl
      change afterNewline? (afterComment (skipSpace s)) = none at hu
      rw [h] at hu
      cases hu
    have hnone : afterNewline? (afterComment (skipSpace (s ++ x))) = none := by
      rw [hs, List.cons_append, afterComment_of_ne hc]
      exact afterNewline?_eq_none hn hr
    rw [skipLines_of_item hnone, hs]

theorem consText_eq_some {c : Char} {o : Option (List Char × List Char)} {v w : List Char} :
    consText c o = some (v, w) ↔ ∃ u, o = some (u, w) ∧ v = c :: u := by
  unfold consText
  split
  · simp [eq_comm, and_comm]
  · simp

theorem consText_append {c : Char} {o o' : Option (List Char × List Char)} {v w x : List Char}
    (h : consText c o = some (v, w)) (ih : ∀ u, o = some (u, w) → o' = some (u, w ++ x)) :
    consText c o' = some (v, w ++ x) := by
  obtain ⟨u, hu, rfl⟩ := consText_eq_some.mp h
  exact consText_eq_some.mpr ⟨u, ih u hu, rfl⟩

theorem basic_cons {c : Char} {r : List Char} (hq : c ≠ '"') (hb : c ≠ '\\') :
    basic (c :: r) = if isPrintable c then consText c (basic r) else none := by
  rw [basic]
  · simp [hb]
  all_goals simp_all

theorem basic_closed : Closed basic := by
  intro s v w h _ x
  -- The quote at the end is read last, so no case looks at what is behind it.
  induction s using basic.induct generalizing v with
  | case1 r => cases h; rfl
  | case2 r ih | case3 r ih | case4 r ih | case5 r ih | case6 r ih | case7 r ih | case8 r ih =>
    exact consText_append h ih
  | case9 a b c d r y hy ih =>
    simp only [basic, hy] at h
    simp only [List.cons_append, basic, hy]
    exact consText_append h ih
  | case10 a b c d r hy => simp only [basic, hy] at h; cases h
  | case11 a b c d e f g k r y hy ih =>
    simp only [basic, hy] at h
    simp only [List.cons_append, basic, hy]
    exact consText_append h ih
  | case12 a b c d e f g k r hy => simp only [basic, hy] at h; cases h
  | case13 c r hq _ _ _ _ _ _ _ _ _ hp ih =>
    rw [Bool.and_eq_true, decide_eq_true_eq] at hp
    rw [basic_cons hq hp.1, if_pos hp.2] at h
    rw [List.cons_append, basic_cons hq hp.1, if_pos hp.2]
    exact consText_append h ih
  | case14 c r hq _ _ _ _ _ _ _ _ _ hp =>
    rw [basic] at h
    · rw [if_neg hp] at h
      cases h
    all_goals assumption
  | case15 => cases h

theorem literal_cons {c : Char} {r : List Char} (hq : c ≠ '\'') :
    literal (c :: r) = if isPrintable c then consText c (literal r) else none := by
  rw [literal]
  exact hq

theorem literal_closed : Closed literal := by
  intro s v w h _ x
  induction s using literal.induct generalizing v with
  | case1 r => cases h; rfl
  | case2 c r hq hp ih =>
    rw [literal_cons hq, if_pos hp] at h
    rw [List.cons_append, literal_cons hq, if_pos hp]
    exact consText_append h ih
  | case3 c r hq hp =>
    rw [literal_cons hq, if_neg hp] at h
    cases h
  | case4 => cases h

/-- How a string is read again with more text behind it: as before, or, if the text was over, with
quotes added at its end. -/
def Reread (quote : Char) (v w x : List Char) (o : Option (List Char × List Char)) : Prop :=
  o = some (v, w ++ x) ∨ w = [] ∧ ∃ u y, o = some (u, y) ∧ u.getLast? = some quote

theorem consText_reread {quote c : Char} {o o' : Option (List Char × List Char)}
    {v w x : List Char} (h : consText c o = some (v, w))
    (ih : ∀ u, o = some (u, w) → Reread quote u w x o') : Reread quote v w x (consText c o') := by
  obtain ⟨u, hu, rfl⟩ := consText_eq_some.mp h
  rcases ih u hu with ho | ⟨hw, u', y, ho, hq⟩
  · exact .inl (consText_eq_some.mpr ⟨u, ho, rfl⟩)
  · refine .inr ⟨hw, c :: u', y, consText_eq_some.mpr ⟨u', ho, rfl⟩, ?_⟩
    rw [List.getLast?_cons, hq]
    rfl

theorem closing?_eq_none_iff {quote : Char} {s : List Char} :
    closing? quote s = none ↔ (s.takeWhile (· = quote)).length < 3 := by
  unfold closing?
  dsimp only
  split <;> simp_all

/-- More text lengthens a run in front only if the run is all of the text. -/
theorem length_takeWhile_append (p : Char → Bool) (s x : List Char) :
    (s ++ x).takeWhile p = s.takeWhile p ∨ (s.takeWhile p).length = s.length ∧
      (s.takeWhile p).length ≤ ((s ++ x).takeWhile p).length := by
  rw [List.takeWhile_append]
  split
  next he => exact .inr ⟨he, by rw [List.length_append]; omega⟩
  next => exact .inl rfl

/-- The quotes at the end of a string are still its end with more text, but may have become more. -/
theorem closing?_reread {quote : Char} {s v w : List Char} (h : closing? quote s = some (v, w))
    (x : List Char) :
    ∃ found, closing? quote (s ++ x) = some found ∧ Reread quote v w x (some found) := by
  have hle := (List.takeWhile_prefix (p := (· = quote)) (l := s)).length_le
  have hrun := length_takeWhile_append (· = quote) s x
  unfold closing? at h ⊢
  dsimp only at h ⊢
  generalize (s.takeWhile (· = quote)) = run at h hle hrun
  split at h
  next => cases h
  next hn =>
    cases h
    have hdrop {k : Nat} (hk : k ≤ s.length) : (s ++ x).drop k = s.drop k ++ x :=
      List.drop_append_of_le_length hk
    rcases hrun with he | ⟨hall, hle'⟩
    · rw [he, if_neg hn, hdrop (by omega)]
      exact ⟨_, rfl, .inl rfl⟩
    · generalize ((s ++ x).takeWhile (· = quote)) = run' at hle'
      rw [if_neg (by omega)]
      by_cases he : min (run'.length - 3) 2 = min (run.length - 3) 2
      · rw [he, hdrop (by omega)]
        exact ⟨_, rfl, .inl rfl⟩
      · -- The text was over after fewer than two quotes more.
        refine ⟨_, rfl, .inr ⟨List.drop_eq_nil_of_le (by omega), _, _, rfl, ?_⟩⟩
        rw [List.getLast?_replicate, if_neg (by omega)]

theorem closing?_cons_of_ne {quote c : Char} {r : List Char} (h : c ≠ quote) :
    closing? quote (c :: r) = none := by
  rw [closing?_eq_none_iff, List.takeWhile_cons_of_neg (by simpa using h)]
  exact Nat.zero_lt_succ _

theorem eq_of_closing? {quote c : Char} {r : List Char} {found : List Char × List Char}
    (h : closing? quote (c :: r) = some found) : c = quote := by
  by_contra hne
  rw [closing?_cons_of_ne hne] at h
  cases h

/-- One quote or two within a string end it neither with more text nor without, if the text goes on
after them. -/
theorem closing?_append_of_none {quote : Char} {s : List Char} (h : closing? quote s = none)
    (hs : s.dropWhile (· = quote) ≠ []) (x : List Char) : closing? quote (s ++ x) = none := by
  rw [closing?_eq_none_iff] at h ⊢
  rwa [takeWhile_append_of_ne hs]

/-- A text that a reader reads to the end of a string is not just one quote or two. -/
theorem dropWhile_ne_nil_of_reads {quote : Char} {f : Reader (List Char)} (h₀ : f [] = none)
    (h₁ : f [quote] = none) (h₂ : f [quote, quote] = none) {s v w : List Char}
    (h : f s = some (v, w)) (hc : closing? quote s = none) : s.dropWhile (· = quote) ≠ [] := by
  intro hd
  have hall : ∀ c ∈ s, c = quote := by simpa [List.dropWhile_eq_nil_iff] using hd
  have hs : s = List.replicate s.length quote := List.eq_replicate_iff.mpr ⟨rfl, hall⟩
  rw [closing?_eq_none_iff, List.takeWhile_eq_self_iff.mpr (by simpa using hall)] at hc
  have hn : f (List.replicate s.length quote) = none := by
    obtain he | he | he : s.length = 0 ∨ s.length = 1 ∨ s.length = 2 := by omega
    · rw [he]; exact h₀
    · rw [he]; exact h₁
    · rw [he]; exact h₂
  rw [hs, hn] at h
  cases h

theorem multiLiteral_cons {c : Char} {r : List Char} (hc : c ≠ '\r') :
    multiLiteral (c :: r) =
      match closing? '\'' (c :: r) with
      | some found => some found
      | none => if c = '\n' || isPrintable c then consText c (multiLiteral r) else none := by
  rw [multiLiteral.eq_def]
  split
  next he => cases he; exact absurd rfl hc
  next he => cases he; rfl
  next he => cases he

theorem multiLiteral_reread {s v w : List Char} (h : multiLiteral s = some (v, w)) (x : List Char) :
    Reread '\'' v w x (multiLiteral (s ++ x)) := by
  induction s using multiLiteral.induct generalizing v with
  | case1 r ih => exact consText_reread h fun u hu => ih hu
  -- The closing quotes, of which there may be more in the longer text.
  | case2 c r _ found hf =>
    have hc : c ≠ '\r' := by rw [eq_of_closing? hf]; decide
    rw [multiLiteral_cons hc, hf] at h
    cases h
    obtain ⟨found, hf', hr⟩ := closing?_reread hf x
    rw [List.cons_append] at hf' ⊢
    rw [multiLiteral_cons hc, hf']
    exact hr
  | case3 c r _ hn hp ih =>
    have hc : c ≠ '\r' := by
      rintro rfl
      exact absurd hp (by decide)
    have hd := dropWhile_ne_nil_of_reads (f := multiLiteral) rfl (by decide) (by decide) h hn
    rw [multiLiteral_cons hc, hn] at h
    dsimp only at h
    rw [if_pos hp] at h
    have hn' := closing?_append_of_none hn hd x
    rw [List.cons_append] at hn' ⊢
    rw [multiLiteral_cons hc, hn']
    dsimp only
    rw [if_pos hp]
    exact consText_reread h fun u hu => ih hu
  | case4 c r hc hn hp =>
    rw [multiLiteral, hn] at h
    · dsimp only at h
      rw [if_neg hp] at h
      cases h
    · exact hc
  | case5 => cases h

theorem multiBasic_cons {c : Char} {r : List Char} (continued : Bool) (hn : c ≠ '\n') (hr : c ≠ '\r')
    (hb : c ≠ '\\') :
    multiBasic continued (c :: r) =
      match closing? '"' (c :: r) with
      | some found => some found
      | none =>
        if continued && isSpace c then multiBasic true r
        else if isPrintable c then consText c (multiBasic false r) else none := by
  rw [multiBasic]
  all_goals first | rfl | simp_all

/-- What follows a line that goes on is no escape. -/
theorem multiBasic_of_continues {r : List Char} (continued : Bool) (h : continues r = true) :
    multiBasic continued ('\\' :: r) = multiBasic true r := by
  cases r with
  | nil => cases h
  | cons c r =>
    have hc : c = ' ' ∨ c = '\t' ∨ c = '\n' ∨ c = '\r' := by
      by_contra hne
      simp only [not_or] at hne
      obtain ⟨hs, ht, hn, hr⟩ := hne
      unfold continues skipSpace at h
      rw [List.dropWhile_cons_of_neg (by simp [isSpace, hs, ht]), afterNewline?_eq_none hn hr] at h
      cases h
    rw [multiBasic]
    · rw [if_pos h]
    all_goals
      intros
      simp_all

theorem continues_append {r : List Char} (h : continues r = true) (x : List Char) :
    continues (r ++ x) = true := by
  unfold continues at h ⊢
  obtain ⟨u, hu⟩ := Option.isSome_iff_exists.mp h
  rw [skipSpace_append (ne_nil_of_afterNewline? hu), afterNewline?_append hu]
  rfl

theorem multiBasic_reread {continued : Bool} {s v w : List Char}
    (h : multiBasic continued s = some (v, w)) (x : List Char) :
    Reread '"' v w x (multiBasic continued (s ++ x)) := by
  -- By the recursion of the reader itself: each case is one way in which it reads on or stops.
  induction continued, s using multiBasic.induct generalizing v with
  | case1 r ih | case3 r ih => exact ih h
  | case2 continued r hc ih | case4 continued r hc ih =>
    rw [multiBasic, if_neg hc] at h
    simp only [List.cons_append, multiBasic, if_neg hc]
    exact consText_reread h fun u hu => ih hu
  | case5 _ r ih | case6 _ r ih | case7 _ r ih | case8 _ r ih | case9 _ r ih | case10 _ r ih
  | case11 _ r ih =>
    exact consText_reread h fun u hu => ih hu
  -- An escape by number takes its digits at once, so that they are all there.
  | case12 _ a b c d r y hy ih =>
    simp only [multiBasic, hy] at h
    simp only [List.cons_append, multiBasic, hy]
    exact consText_reread h fun u hu => ih hu
  | case13 _ a b c d r hy => simp only [multiBasic, hy] at h; cases h
  | case14 _ a b c d e f g k r y hy ih =>
    simp only [multiBasic, hy] at h
    simp only [List.cons_append, multiBasic, hy]
    exact consText_reread h fun u hu => ih hu
  | case15 _ a b c d e f g k r hy => simp only [multiBasic, hy] at h; cases h
  -- The line goes on, and stays so with more text.
  | case16 continued r _ _ _ _ _ _ _ _ _ hc ih =>
    rw [multiBasic_of_continues continued hc] at h
    rw [List.cons_append, multiBasic_of_continues continued (continues_append hc x)]
    exact ih h
  | case17 continued r _ _ _ _ _ _ _ _ _ hc =>
    rw [multiBasic] at h
    · rw [if_neg hc] at h
      cases h
    all_goals assumption
  -- The closing quotes, of which there may be more in the longer text.
  | case18 continued c r hn _ _ _ _ _ _ _ _ _ _ hb found hf =>
    have hr : c ≠ '\r' := by rw [eq_of_closing? hf]; decide
    rw [multiBasic_cons continued hn hr hb, hf] at h
    cases h
    obtain ⟨found, hf', hre⟩ := closing?_reread hf x
    rw [List.cons_append] at hf' ⊢
    rw [multiBasic_cons continued hn hr hb, hf']
    exact hre
  | case19 continued c r hn _ _ _ _ _ _ _ _ _ _ hb hf hs ih =>
    obtain ⟨-, hspace⟩ := Bool.and_eq_true_iff.mp hs
    have hr : c ≠ '\r' := by rintro rfl; exact absurd hspace (by decide)
    have hq : c ≠ '"' := by rintro rfl; exact absurd hspace (by decide)
    rw [multiBasic_cons continued hn hr hb, hf] at h
    rw [List.cons_append, multiBasic_cons continued hn hr hb, closing?_cons_of_ne hq]
    dsimp only at h ⊢
    rw [if_pos hs] at h ⊢
    exact ih h
  -- Any other character. The text is not just one quote or two, which more text could complete.
  | case20 continued c r hn _ _ _ _ _ _ _ _ _ _ hb hf hs hp ih =>
    have hr : c ≠ '\r' := by rintro rfl; exact absurd hp (by decide)
    have hd := dropWhile_ne_nil_of_reads (f := multiBasic continued) (by cases continued <;> rfl)
      (by cases continued <;> decide) (by cases continued <;> decide) h hf
    have hf' := closing?_append_of_none hf hd x
    rw [multiBasic_cons continued hn hr hb, hf] at h
    rw [List.cons_append] at hf' ⊢
    rw [multiBasic_cons continued hn hr hb, hf']
    dsimp only at h ⊢
    rw [if_neg hs, if_pos hp] at h ⊢
    exact consText_reread h fun u hu => ih hu
  | case21 continued c r _ _ _ _ _ _ _ _ _ _ _ _ hf hs hp =>
    rw [multiBasic, hf] at h
    · dsimp only at h
      rw [if_neg hs, if_neg hp] at h
      cases h
    all_goals assumption
  | case22 => cases h

theorem trimNewline_append {s : List Char} (hs : s ≠ []) (hr : s ≠ ['\r']) (x : List Char) :
    trimNewline (s ++ x) = trimNewline s ++ x := by
  unfold trimNewline
  cases hn : afterNewline? s with
  | some u => rw [afterNewline?_append hn]; rfl
  | none =>
    cases s with
    | nil => exact absurd rfl hs
    | cons c r =>
      have hc : c ≠ '\n' := by rintro rfl; cases hn
      have hnone : afterNewline? (c :: (r ++ x)) = none := by
        by_cases hcr : c = '\r'
        · subst hcr
          cases r with
          | nil => exact absurd rfl hr
          | cons d r =>
            unfold afterNewline? at hn ⊢
            split at hn
            all_goals simp_all
        · exact afterNewline?_eq_none hc hcr
      rw [List.cons_append, hnone]
      rfl

theorem asString_eq_some {o : Option (List Char × List Char)} {a : String} {w : List Char} :
    asString o = some (a, w) ↔ ∃ cs, o = some (cs, w) ∧ a = String.ofList cs := by
  unfold asString
  split
  · simp [eq_comm, and_comm]
  · simp

def EndsInQuote (a : String) : Prop :=
  a.toList.getLast? = some '"' ∨ a.toList.getLast? = some '\''

/-- What may be left of a string where the text was cut off: nothing at all, or all of it but quotes
at its end. -/
def Curtails (a b : String) : Prop := a = b ∨ a = "" ∨ EndsInQuote b

/-- A string at the end of the text is the one read with more text behind it, or it is what is left
of that one. -/
def StringReread (a : String) (w x : List Char) (o : Option (String × List Char)) : Prop :=
  o = some (a, w ++ x) ∨ w = [] ∧ ∀ b y, o = some (b, y) → Curtails a b

theorem asString_reread {quote : Char} (hq : quote = '"' ∨ quote = '\'')
    {o o' : Option (List Char × List Char)} {a : String} {w x : List Char}
    (h : asString o = some (a, w)) (ih : ∀ v, o = some (v, w) → Reread quote v w x o') :
    StringReread a w x (asString o') := by
  obtain ⟨v, hv, rfl⟩ := asString_eq_some.mp h
  rcases ih v hv with ho | ⟨hw, u, y, ho, hl⟩
  · exact .inl (asString_eq_some.mpr ⟨v, ho, rfl⟩)
  · refine .inr ⟨hw, fun b z hb => .inr (.inr ?_)⟩
    obtain ⟨u', hu', rfl⟩ := asString_eq_some.mp hb
    rw [ho] at hu'
    cases hu'
    unfold EndsInQuote
    rw [String.toList_ofList]
    rcases hq with rfl | rfl
    · exact .inl hl
    · exact .inr hl

/-- A string of several lines, which may begin with a newline that is not part of it. -/
theorem asString_reread_of_trimmed {quote : Char} (hq : quote = '"' ∨ quote = '\'')
    {f : Reader (List Char)} (h₀ : f [] = none) (h₁ : f ['\r'] = none)
    (hf : ∀ s v w, f s = some (v, w) → ∀ x, Reread quote v w x (f (s ++ x)))
    {r w : List Char} {a : String} (h : asString (f (trimNewline r)) = some (a, w))
    (x : List Char) : StringReread a w x (asString (f (trimNewline (r ++ x)))) := by
  have hread (hnone : f (trimNewline r) = none) : False := by
    rw [hnone] at h
    cases h
  have hr : r ≠ [] := by rintro rfl; exact hread h₀
  have hr' : r ≠ ['\r'] := by rintro rfl; exact hread h₁
  rw [trimNewline_append hr hr']
  exact asString_reread hq h fun v hv => hf _ v w hv x

theorem asString_append {f : Reader (List Char)} (hf : Closed f) {s w : List Char} {a : String}
    (h : asString (f s) = some (a, w)) (x : List Char) :
    asString (f (s ++ x)) = some (a, w ++ x) := by
  obtain ⟨v, hv, rfl⟩ := asString_eq_some.mp h
  exact asString_eq_some.mpr ⟨v, hf _ _ _ hv trivial x, rfl⟩

theorem stringAt_of_basic {r : List Char} (h : ∀ t, r ≠ '"' :: '"' :: t) :
    stringAt ('"' :: r) = asString (basic r) := by
  rw [stringAt]
  exact h

theorem stringAt_of_literal {r : List Char} (h : ∀ t, r ≠ '\'' :: '\'' :: t) :
    stringAt ('\'' :: r) = asString (literal r) := by
  rw [stringAt]
  exact h

/-- A text that does not begin with two quotes does so with more text only if it is one quote. -/
theorem append_ne_of_ne {q : Char} {r : List Char} (hr : r ≠ []) (hr' : r ≠ [q])
    (h : ∀ t, r ≠ q :: q :: t) (x t : List Char) : r ++ x ≠ q :: q :: t := by
  intro he
  match r with
  | [] => exact hr rfl
  | [c] => cases he; exact hr' rfl
  | c :: d :: r => cases he; exact h r rfl

theorem stringAt_reread {s w : List Char} {a : String} (h : stringAt s = some (a, w))
    (x : List Char) : StringReread a w x (stringAt (s ++ x)) := by
  unfold stringAt at h
  split at h
  next r =>
    exact asString_reread_of_trimmed (.inl rfl) rfl (by decide)
      (fun _ _ _ hv => multiBasic_reread hv) h x
  next r hne =>
    by_cases hr : r = ['"']
    · -- The empty string, or the beginning of three quotes.
      subst hr
      cases h
      exact .inr ⟨rfl, fun b y _ => .inr (.inl rfl)⟩
    · have hnil : r ≠ [] := by rintro rfl; cases h
      rw [List.cons_append, stringAt_of_basic (append_ne_of_ne hnil hr hne x)]
      exact .inl (asString_append basic_closed h x)
  next r =>
    exact asString_reread_of_trimmed (.inr rfl) rfl (by decide)
      (fun _ _ _ hv => multiLiteral_reread hv) h x
  next r hne =>
    by_cases hr : r = ['\'']
    · subst hr
      cases h
      exact .inr ⟨rfl, fun b y _ => .inr (.inl rfl)⟩
    · have hnil : r ≠ [] := by rintro rfl; cases h
      rw [List.cons_append, stringAt_of_literal (append_ne_of_ne hnil hr hne x)]
      exact .inl (asString_append literal_closed h x)
  next => cases h

theorem simpleKey_open : Open simpleKey := by
  intro s a w h hw x
  unfold simpleKey at h
  split at h
  next r => exact asString_append basic_closed h x
  next r => exact asString_append literal_closed h x
  next hq hq' =>
    dsimp only at h
    split at h
    · cases h
    next hb =>
      cases h
      cases s with
      | nil => exact absurd rfl hb
      | cons c r =>
        rw [simpleKey]
        · rw [takeWhile_append_of_ne hw, dropWhile_append_of_ne hw, if_neg hb]
        · rintro r' he
          cases he
          exact hq r rfl
        · rintro r' he
          cases he
          exact hq' r rfl

section

variable {s r t : List Char} {k : String}

theorem keyParts_of_dot (hk : simpleKey (skipSpace s) = some (k, r)) (hr : skipSpace r = '.' :: t)
    (ht : t.length < s.length) :
    keyParts s = (keyParts t).map fun (keys, u) => (k :: keys, u) := by
  rw [keyParts.eq_def, hk]
  dsimp only
  simp only [hr]
  rw [if_pos ht]
  cases keyParts t <;> rfl

theorem keyParts_of_end (hk : simpleKey (skipSpace s) = some (k, r))
    (hr : ∀ t, skipSpace r ≠ '.' :: t) : keyParts s = some ([k], skipSpace r) := by
  rw [keyParts.eq_def, hk]
  dsimp only
  split
  next t he => exact absurd he (hr t)
  next => rfl

end

theorem ne_nil_of_skipSpace {s : List Char} (h : skipSpace s ≠ []) : s ≠ [] := by
  rintro rfl
  exact h rfl

theorem simpleKey_append {s r : List Char} {k : String}
    (h : simpleKey (skipSpace s) = some (k, r)) (hr : r ≠ []) (x : List Char) :
    simpleKey (skipSpace (s ++ x)) = some (k, r ++ x) := by
  have hs : skipSpace s ≠ [] := by
    intro he
    rw [he] at h
    cases h
  rw [skipSpace_append hs]
  exact simpleKey_open _ _ _ h hr x

theorem keyParts_open : Open keyParts := by
  intro s parts w h hw x
  induction s using keyParts.induct generalizing parts with
  | case1 s hk => rw [keyParts.eq_def, hk] at h; cases h
  | case2 s k r hk t hr ht keys u hu ih =>
    have hne : skipSpace r ≠ [] := by rw [hr]; exact List.cons_ne_nil _ _
    rw [keyParts_of_dot hk hr ht, hu] at h
    cases h
    rw [keyParts_of_dot (simpleKey_append hk (ne_nil_of_skipSpace hne) x)
      (skipSpace_cons_append hr x) (by simpa using ht), ih keys hu]
    rfl
  | case3 s k r hk t hr ht hu ih =>
    rw [keyParts_of_dot hk hr ht, hu] at h
    cases h
  | case4 s k r hk t hr ht =>
    rw [keyParts.eq_def, hk] at h
    dsimp only at h
    simp only [hr] at h
    rw [if_neg ht] at h
    cases h
  -- No dot follows here, nor does one where the text goes on, since the rest is not empty.
  | case5 s k r hk hr =>
    rw [keyParts_of_end hk hr] at h
    cases h
    have hr' (t : List Char) : skipSpace (r ++ x) ≠ '.' :: t := by
      rw [skipSpace_append hw]
      cases hs : skipSpace r with
      | nil => exact absurd hs hw
      | cons c u =>
        intro he
        cases he
        exact hr u hs
    rw [keyParts_of_end (simpleKey_append hk (ne_nil_of_skipSpace hw) x) hr', skipSpace_append hw]

theorem ne_nil_of_key {s w : List Char} {v : List String × String} (h : key s = some (v, w)) :
    skipSpace s ≠ [] := by
  intro hs
  have hk : keyParts s = none := by
    rw [keyParts.eq_def, hs]
    rfl
  unfold key at h
  rw [hk] at h
  cases h

/-- No key begins with a character that is neither space nor a quote nor of a bare key. -/
theorem key_eq_none {c : Char} {r : List Char} (hs : isSpace c = false) (hq : c ≠ '"')
    (hq' : c ≠ '\'') (hb : isBare c = false) : key (c :: r) = none := by
  have hspace : skipSpace (c :: r) = c :: r :=
    List.dropWhile_cons_of_neg (by rw [hs]; exact Bool.false_ne_true)
  have hk : simpleKey (c :: r) = none := by
    rw [simpleKey]
    · rw [List.takeWhile_cons_of_neg (by rw [hb]; exact Bool.false_ne_true)]
      rfl
    · rintro t he
      cases he
      exact hq rfl
    · rintro t he
      cases he
      exact hq' rfl
  unfold key
  rw [keyParts.eq_def, hspace, hk]

theorem key_open : Open key := by
  intro s v w h hw x
  unfold key at h ⊢
  cases hp : keyParts s with
  | none => rw [hp] at h; cases h
  | some found =>
    obtain ⟨parts, r⟩ := found
    rw [hp] at h
    dsimp only at h
    cases hl : parts.getLast? with
    | none => rw [hl] at h; cases h
    | some last =>
      rw [hl] at h
      dsimp only at h
      split at h
      next hlt =>
        cases h
        rw [keyParts_open _ _ _ hp hw x]
        dsimp only
        rw [hl]
        exact if_pos hlt
      next => cases h

end RelayRoster.Toml
