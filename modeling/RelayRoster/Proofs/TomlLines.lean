import RelayRoster.Proofs.TomlValue

namespace RelayRoster.Toml
open Text

/-- What may be left of a line where the text was cut off. -/
inductive Line.Curtailed : Line → Line → Prop
  | same (l : Line) : Curtailed l l
  | pair (path : List String) (key : String) {v v' : Value} (h : Toml.Curtailed v v') :
      Curtailed (.pair path key v) (.pair path key v')

inductive Cut : List Line → List Line → Prop
  | stop (ls : List Line) : Cut [] ls
  | last {l l' : Line} (h : l.Curtailed l') (ls : List Line) : Cut [l] (l' :: ls)
  | line (l : Line) {ls ls' : List Line} (h : Cut ls ls') : Cut (l :: ls) (l :: ls')

section

variable {s r t u : List Char} {path : List String} {last : String} {v : Value}

theorem lineAt_of_block (hk : key r = some ((path, last), ']' :: ']' :: t)) :
    lineAt ('[' :: '[' :: r) = (afterItem? t).map (.block path last, ·) := by
  unfold lineAt
  simp only [hk]

theorem lineAt_of_table (hr : ∀ u, r ≠ '[' :: u) (hk : key r = some ((path, last), ']' :: t)) :
    lineAt ('[' :: r) = (afterItem? t).map (.table path last, ·) := by
  unfold lineAt
  split
  next he => cases he; exact absurd rfl (hr _)
  next he => cases he; simp only [hk]
  next he => exact absurd rfl (he _)

theorem lineAt_of_pair (hs : ∀ u, s ≠ '[' :: u) :
    lineAt s = match pairAt (value 79) s with
      | some ((path, last, v), t) => (afterItem? t).map (.pair path last v, ·)
      | none => none := by
  unfold lineAt
  split
  next => exact absurd rfl (hs _)
  next => exact absurd rfl (hs _)
  next => rfl

inductive LineReading : List Char → Line → List Char → Prop
  | block {r t : List Char} {path : List String} {last : String}
      (hk : key r = some ((path, last), ']' :: ']' :: t)) :
      LineReading ('[' :: '[' :: r) (.block path last) t
  | table {r t : List Char} {path : List String} {last : String} (hr : ∀ u, r ≠ '[' :: u)
      (hk : key r = some ((path, last), ']' :: t)) : LineReading ('[' :: r) (.table path last) t
  | pair {s t : List Char} {path : List String} {last : String} {v : Value}
      (hs : ∀ u, s ≠ '[' :: u) (hp : pairAt (value 79) s = some ((path, last, v), t)) :
      LineReading s (.pair path last v) t

theorem LineReading.lineAt {l : Line} (h : LineReading s l t) :
    lineAt s = (afterItem? t).map (l, ·) := by
  cases h with
  | block hk => exact lineAt_of_block hk
  | table hr hk => exact lineAt_of_table hr hk
  | pair hs hp => rw [lineAt_of_pair hs, hp]

theorem exists_lineReading {l : Line} {w : List Char} (h : Toml.lineAt s = some (l, w)) :
    ∃ t, LineReading s l t ∧ afterItem? t = some w := by
  unfold Toml.lineAt at h
  split at h
  next r =>
    split at h
    next path last t hk =>
      obtain ⟨u, hu, he⟩ := Option.map_eq_some_iff.mp h
      cases he
      exact ⟨t, .block hk, hu⟩
    next => cases h
  next r hr =>
    split at h
    next path last t hk =>
      obtain ⟨u, hu, he⟩ := Option.map_eq_some_iff.mp h
      cases he
      exact ⟨t, .table hr hk, hu⟩
    next => cases h
  next h₁ h₂ =>
    split at h
    next path last v t hp =>
      obtain ⟨u, hu, he⟩ := Option.map_eq_some_iff.mp h
      cases he
      exact ⟨t, .pair h₂ hp, hu⟩
    next => cases h

theorem ne_nil_of_lineReading {l : Line} (h : LineReading s l t) : s ≠ [] := by
  rintro rfl
  cases h with
  | pair _ hp =>
    obtain ⟨r, hk, -⟩ := pairAt_eq_some.mp hp
    exact ne_nil_of_key hk rfl

/-- With more text the line is the same, or it comes at the end of the text and its value is what was
left of that of the whole line. -/
theorem LineReading.append {l : Line} (h : LineReading s l t) (x : List Char) :
    LineReading (s ++ x) l (t ++ x) ∨
      ¬ Firm t ∧ ∀ l' w, Toml.lineAt (s ++ x) = some (l', w) → l.Curtailed l' := by
  cases h with
  | block hk => exact .inl (.block (key_open _ _ _ hk (List.cons_ne_nil _ _) x))
  | @table r _ path last hr hk =>
    refine .inl (.table (fun u he => ?_) (key_open _ _ _ hk (List.cons_ne_nil _ _) x))
    cases r with
    | nil => exact ne_nil_of_key hk rfl
    | cons c r =>
      cases he
      exact hr r rfl
  | @pair _ _ path last v hs hp =>
    have hs' (u : List Char) : s ++ x ≠ '[' :: u := by
      intro he
      cases s with
      | nil => exact ne_nil_of_lineReading (.pair hs hp) rfl
      | cons c r =>
        cases he
        exact hs r rfl
    -- The key knows its end, so that only the value may be read in another way.
    obtain ⟨r, hk, hv⟩ := pairAt_eq_some.mp hp
    have hk' := key_open _ _ _ hk (List.cons_ne_nil _ _) x
    have hspace := (readsValues 79).skipSpace_append hv x
    rcases (reading_of_value hv).append (fun d _ => readsValues d) x with h' | ⟨hn, hc⟩
    · refine .inl (.pair hs' (pairAt_eq_some.mpr ⟨r ++ x, hk', ?_⟩))
      rw [hspace]
      exact h'.value
    · refine .inr ⟨hn, fun l' w hl => ?_⟩
      rw [lineAt_of_pair hs'] at hl
      split at hl
      next path' last' v' t' hp' =>
        obtain ⟨w', -, he⟩ := Option.map_eq_some_iff.mp hl
        cases he
        obtain ⟨r', hkr, hvr⟩ := pairAt_eq_some.mp hp'
        rw [hk', List.cons_append] at hkr
        cases hkr
        rw [hspace] at hvr
        exact .pair _ _ (hc v' t' hvr)
      next => cases hl

theorem firm_of_newline {w : List Char}
    (h : afterNewline? (afterComment (skipSpace t)) = some w) : Firm t := by
  obtain ⟨c, r, hs, hc⟩ := exists_of_afterNewline? h
  exact firm_of_skipSpace hs hc

/-- A line that ends with a newline is the same with more text; one that ends with the text may go on
there. -/
theorem lineAt_append {l : Line} {w : List Char} (h : Toml.lineAt s = some (l, w))
    (x : List Char) :
    Toml.lineAt (s ++ x) = some (l, w ++ x) ∨
      w = [] ∧ ∀ l' w', Toml.lineAt (s ++ x) = some (l', w') → l.Curtailed l' := by
  obtain ⟨t, hl, ha⟩ := exists_lineReading h
  rcases hl.append x with hl' | ⟨hn, hc⟩
  · rcases afterItem?_eq_some.mp ha with ⟨-, rfl⟩ | hnl
    · refine .inr ⟨rfl, fun l' w' he => ?_⟩
      rw [hl'.lineAt] at he
      obtain ⟨u, -, he⟩ := Option.map_eq_some_iff.mp he
      cases he
      exact .same _
    · left
      rw [hl'.lineAt, afterItem?_eq_some.mpr (.inr (newline_append hnl x).2)]
      rfl
  · rcases afterItem?_eq_some.mp ha with ⟨-, rfl⟩ | hnl
    · exact .inr ⟨rfl, hc⟩
    · exact absurd (firm_of_newline hnl) hn

/-- A line that is neither blank nor a comment does not begin like one. -/
theorem front_of_lineAt {l : Line} {w : List Char} (h : Toml.lineAt s = some (l, w)) :
    ∃ c r, s = c :: r ∧ c ≠ '#' ∧ c ≠ '\n' ∧ c ≠ '\r' := by
  obtain ⟨t, hl, -⟩ := exists_lineReading h
  obtain ⟨c, r, rfl⟩ := List.exists_cons_of_ne_nil (ne_nil_of_lineReading hl)
  refine ⟨c, r, rfl, ?_⟩
  generalize hs : c :: r = s at hl
  cases hl with
  | block | table => cases hs; decide
  | pair _ hp =>
    subst hs
    obtain ⟨u, hk, -⟩ := pairAt_eq_some.mp hp
    have hnone (hd : key (c :: r) = none) : False := by
      rw [hd] at hk
      cases hk
    refine ⟨?_, ?_, ?_⟩
    · rintro rfl; exact hnone (key_eq_none rfl (by decide) (by decide) (by decide))
    · rintro rfl; exact hnone (key_eq_none rfl (by decide) (by decide) (by decide))
    · rintro rfl; exact hnone (key_eq_none rfl (by decide) (by decide) (by decide))

theorem lines_of_end (h : afterComment (skipSpace s) = []) : lines s = some [] := by
  rw [lines.eq_def, h]

theorem lines_of_newline (h : afterNewline? (afterComment (skipSpace s)) = some t)
    (ht : t.length < s.length) : lines s = lines t := by
  obtain ⟨c, r, hc⟩ := List.exists_cons_of_ne_nil (ne_nil_of_afterNewline? h)
  rw [hc] at h
  rw [lines.eq_def, hc]
  dsimp only
  rw [h]
  exact if_pos ht

theorem lines_of_line {l : Line} {w : List Char} (h : Toml.lineAt (skipSpace s) = some (l, w))
    (hw : w.length < s.length) : lines s = (lines w).map (l :: ·) := by
  obtain ⟨c, r, hs, hc, hn, hr⟩ := front_of_lineAt h
  have hcomment : afterComment (skipSpace s) = c :: r := by rw [hs, afterComment_of_ne hc]
  rw [lines.eq_def, hcomment]
  dsimp only
  rw [afterNewline?_eq_none hn hr, h]
  exact if_pos hw

/-- A text whose first line is no blank line and no comment begins with that line. -/
theorem exists_line_of_lines {c : Char} {ls : List Line} (h : lines s = some ls)
    (hs : skipSpace s = c :: r) (hc : c ≠ '#') (hn : c ≠ '\n') (hr : c ≠ '\r') :
    ∃ l w more, Toml.lineAt (skipSpace s) = some (l, w) ∧ ls = l :: more := by
  have hcomment : afterComment (skipSpace s) = c :: r := by rw [hs, afterComment_of_ne hc]
  rw [lines.eq_def, hcomment] at h
  dsimp only at h
  rw [afterNewline?_eq_none hn hr] at h
  dsimp only at h
  split at h
  next l w hl =>
    split at h
    next =>
      obtain ⟨more, -, he⟩ := Option.map_eq_some_iff.mp h
      exact ⟨l, w, more, hl, he.symm⟩
    next => cases h
  next => cases h

end

/-- How the lines of a text are read: blank lines and comments are passed over. -/
inductive LinesReading : List Char → List Line → Prop
  | stop {s : List Char} (hs : afterComment (skipSpace s) = []) : LinesReading s []
  | blank {s t : List Char} {ls : List Line}
      (hn : afterNewline? (afterComment (skipSpace s)) = some t) (ht : t.length < s.length)
      (h : LinesReading t ls) : LinesReading s ls
  | line {s w : List Char} {l : Line} {ls : List Line}
      (hl : lineAt (skipSpace s) = some (l, w)) (hw : w.length < s.length) (h : LinesReading w ls) :
      LinesReading s (l :: ls)

theorem linesReading_of_lines {s : List Char} {ls : List Line} (h : lines s = some ls) :
    LinesReading s ls := by
  induction s using lines.induct generalizing ls with
  | case1 s hs =>
    rw [lines_of_end hs] at h
    cases h
    exact .stop hs
  | case2 s c r hc t hn ht ih =>
    have hn' : afterNewline? (afterComment (skipSpace s)) = some t := by rw [hc, hn]
    rw [lines_of_newline hn' ht] at h
    exact .blank hn' ht (ih h)
  | case4 s c r hc hn l w hl hw ih =>
    rw [lines_of_line hl hw] at h
    obtain ⟨more, hm, rfl⟩ := Option.map_eq_some_iff.mp h
    exact .line hl hw (ih hm)
  -- In the other cases the reader gives up, or would not come further.
  | case3 s c r hc t hn ht =>
    rw [lines.eq_def, hc] at h
    dsimp only at h
    rw [hn] at h
    dsimp only at h
    rw [if_neg ht] at h
    cases h
  | case5 s c r hc hn l w hl hw =>
    rw [lines.eq_def, hc] at h
    dsimp only at h
    rw [hn, hl] at h
    dsimp only at h
    rw [if_neg hw] at h
    cases h
  | case6 s c r hc hn hl =>
    rw [lines.eq_def, hc] at h
    dsimp only at h
    rw [hn, hl] at h
    cases h

theorem LinesReading.cut {s x : List Char} {ls ls' : List Line} (h : LinesReading s ls)
    (h' : lines (s ++ x) = some ls') : Cut ls ls' := by
  induction h generalizing ls' with
  | stop => exact .stop _
  | blank hn ht _ ih =>
    rw [lines_of_newline (newline_append hn x).2 (by simpa using ht)] at h'
    exact ih h'
  | @line s w l ls hl hw h ih =>
    obtain ⟨d, u, hs, hd, hdn, hdr⟩ := front_of_lineAt hl
    have hs' := skipSpace_cons_append hs x
    have hspace : skipSpace (s ++ x) = skipSpace s ++ x := by rw [hs', hs]; rfl
    rcases lineAt_append hl x with he | ⟨rfl, hcur⟩
    · rw [← hspace] at he
      rw [lines_of_line he (by simpa using hw)] at h'
      obtain ⟨more, hm, rfl⟩ := Option.map_eq_some_iff.mp h'
      exact .line l (ih hm)
    · -- The line ends with the text, and no further one follows.
      have hnil : ls = [] := by
        cases h with
        | stop => rfl
        | blank hn => cases hn
        | line hl =>
          obtain ⟨c, r, hs, -⟩ := front_of_lineAt hl
          cases hs
      subst hnil
      obtain ⟨l', w', more, he, rfl⟩ := exists_line_of_lines h' hs' hd hdn hdr
      rw [hspace] at he
      exact .last (hcur l' w' he) more

def withoutMark : List Char → List Char
  | '\ufeff' :: r => r
  | cs => cs

theorem document?_eq (t : String) :
    document? t = (lines (withoutMark t.toList)).bind fun ls =>
      (ls.foldlM Draft.add {}).map Draft.root := rfl

theorem withoutMark_append (s x : List Char) :
    ∃ y, withoutMark (s ++ x) = withoutMark s ++ y := by
  cases s with
  | nil => exact ⟨_, rfl⟩
  | cons c r =>
    refine ⟨x, ?_⟩
    by_cases hc : c = '\ufeff'
    · subst hc; rfl
    · have hne (t : List Char) : withoutMark (c :: t) = c :: t := by
        unfold withoutMark
        split
        next he => cases he; exact absurd rfl hc
        next => rfl
      rw [List.cons_append, hne, hne]
      rfl

theorem exists_lines_of_document? {t : String} {es : Entries} (h : document? t = some es) :
    ∃ ls d, lines (withoutMark t.toList) = some ls ∧ ls.foldlM Draft.add {} = some d ∧
      es = d.root := by
  rw [document?_eq] at h
  obtain ⟨ls, hls, hm⟩ := Option.bind_eq_some_iff.mp h
  obtain ⟨d, hd, rfl⟩ := Option.map_eq_some_iff.mp hm
  exact ⟨ls, d, hls, hd, rfl⟩

theorem cut_of_front {t p : String} (hp : p.toList <+: t.toList) {ls ls' : List Line}
    (h : lines (withoutMark p.toList) = some ls) (h' : lines (withoutMark t.toList) = some ls') :
    Cut ls ls' := by
  obtain ⟨x, hx⟩ := hp
  obtain ⟨y, hy⟩ := withoutMark_append p.toList x
  rw [← hx, hy] at h'
  exact (linesReading_of_lines h).cut h'

end RelayRoster.Toml
