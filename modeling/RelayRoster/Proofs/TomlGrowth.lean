import RelayRoster.Proofs.Registry
import RelayRoster.Proofs.TomlLines

namespace RelayRoster.Toml

namespace Entries

variable {es : Entries} {key k : String} {v : Value}

theorem get?_append (h : es.get? k = none) :
    get? (es ++ [(k, v)]) key = if key = k then some v else es.get? key := by
  unfold get? at h ⊢
  rw [List.lookup_append, List.lookup_cons, List.lookup_nil]
  by_cases hk : key = k
  · subst hk
    simp [h]
  · simp [beq_false_of_ne hk, hk]

theorem get?_replace : (es.replace k v).get? key =
    if key = k then (es.get? k).map fun _ => v else es.get? key := by
  unfold get? replace
  induction es with
  | nil => simp
  | cons e es ih =>
    rw [List.map_cons, List.lookup_cons, ih, List.lookup_cons, List.lookup_cons]
    by_cases he : e.1 = k
    · subst he
      by_cases hk : key = e.1
      · simp [hk]
      · simp [beq_false_of_ne hk, hk]
    · rw [if_neg he]
      by_cases hk : key = k
      · subst hk
        simp [beq_false_of_ne (Ne.symm he)]
      · simp [hk]

theorem get?_erase : (es.erase k).get? key = if key = k then none else es.get? key :=
  lookup_filter_ne es k key

theorem get?_eq_none_iff : es.get? k = none ↔ k ∉ es.map (·.1) := by
  unfold get?
  rw [List.lookup_eq_none_iff, List.mem_map]
  constructor
  · rintro h ⟨e, he, rfl⟩
    simpa using h e he
  · intro h e he
    simpa using fun hk : k = e.1 => h ⟨e, he, hk.symm⟩

theorem get?_eq_none_of_not_or {p : Prop} (h : ¬ (p ∨ (es.get? k).isSome = true)) :
    es.get? k = none := by
  rw [not_or, Bool.not_eq_true, Option.isSome_eq_false_iff, Option.isNone_iff_eq_none] at h
  exact h.2

theorem keys_replace : (es.replace k v).map (·.1) = es.map (·.1) := by
  unfold replace
  rw [List.map_map]
  refine List.map_congr_left fun e _ => ?_
  dsimp only [Function.comp]
  split
  next he => exact he.symm
  next => rfl

theorem nodup_append (hn : (es.map (·.1)).Nodup) (h : es.get? k = none) :
    ((es ++ [(k, v)]).map (·.1)).Nodup := by
  rw [List.map_append, List.map_singleton, List.nodup_append]
  refine ⟨hn, List.nodup_singleton _, ?_⟩
  rintro a ha b hb rfl
  rw [List.mem_singleton] at hb
  subst hb
  exact get?_eq_none_iff.mp h ha

end Entries

/-- Tables in which no key is named twice, down to those that headers and dotted keys can reach. -/
inductive Tidy : Entries → Prop
  | intro {es : Entries} (nodup : (es.map (·.1)).Nodup)
      (tables : ∀ key o sub, es.get? key = some (.table o sub) → o ≠ .braces → Tidy sub)
      (blocks : ∀ key ts, es.get? key = some (.blocks ts) → ∀ t ∈ ts, Tidy t) : Tidy es

/-- What becomes of a value when more of the text is read: tables gain keys, lists of blocks gain
blocks, and anything else stays, or is what had been left of another value. -/
inductive Extends : Option Value → Option Value → Prop
  | absent (v? : Option Value) : Extends none v?
  | value {v v' : Value} (h : Curtailed v v') : Extends (some v) (some v')
  | table (o o' : Origin) {es es' : Entries} (h : ∀ key, Extends (es.get? key) (es'.get? key)) :
      Extends (some (.table o es)) (some (.table o' es'))
  | blocks {ts ts' : List Entries} (hl : ts.length ≤ ts'.length)
      (h : ∀ (i : Nat) (key : String),
        Extends ((ts[i]?.getD []).get? key) ((ts'[i]?.getD []).get? key)) :
      Extends (some (.blocks ts)) (some (.blocks ts'))

theorem Extends.refl (v? : Option Value) : Extends v? v? := by
  cases v? with
  | none => exact .absent _
  | some v => exact .value (.same v)

theorem EndsInQuote.ne_empty {a : String} (h : EndsInQuote a) : a ≠ "" := by
  rintro rfl
  rcases h with h | h <;> cases h

theorem Curtails.trans {a b c : String} (h : Curtails a b) (h' : Curtails b c) : Curtails a c := by
  rcases h with rfl | rfl | h
  · exact h'
  · exact .inr (.inl rfl)
  · rcases h' with rfl | rfl | h'
    · exact .inr (.inr h)
    · exact absurd rfl h.ne_empty
    · exact .inr (.inr h')

theorem Curtailed.trans {v v' v'' : Value} (h : Curtailed v v') (h' : Curtailed v' v'') :
    Curtailed v v'' := by
  cases h with
  | same => exact h'
  | text h =>
    cases h' with
    | same => exact .text h
    | text h' => exact .text (h.trans h')
    | bare hb => exact hb.elim
  | bare hb hb' =>
    cases h' with
    | same => exact .bare hb hb'
    | text => exact hb'.elim
    | bare _ hb'' => exact .bare hb hb''

theorem Extends.trans {v v' v'' : Option Value} (h : Extends v v') (h' : Extends v' v'') :
    Extends v v'' := by
  -- What a part of a value becomes first decides what it can become after that.
  induction h generalizing v'' with
  | absent => exact .absent _
  | @value v v' h =>
    cases h with
    | same => exact h'
    | text h =>
      cases h' with
      | value h' => exact .value ((Curtailed.text h).trans h')
    | bare hb hb' =>
      cases h' with
      | value h' => exact .value ((Curtailed.bare hb hb').trans h')
      | table => exact hb'.elim
      | blocks => exact hb'.elim
  | table o o' h ih =>
    cases h' with
    | value h' =>
      cases h' with
      | same => exact .table o o' h
      | bare hb => exact hb.elim
    | table _ o'' h' => exact .table o o'' fun key => ih key (h' key)
  | blocks hl h ih =>
    cases h' with
    | value h' =>
      cases h' with
      | same => exact .blocks hl h
      | bare hb => exact hb.elim
    | blocks hl' h' => exact .blocks (hl.trans hl') fun i key => ih i key (h' i key)

structure Grows (es es' : Entries) : Prop where
  tidy : Tidy es → Tidy es'
  adds : ∀ key, Extends (es.get? key) (es'.get? key)

/-- A value as a pair gives it: a table is written in braces, and blocks are not written at all. -/
def Value.Inline : Value → Prop
  | .table o _ => o = .braces
  | .blocks _ => False
  | _ => True

namespace Tidy

variable {es sub : Entries} {ts : List Entries} {k : String} {v : Value} {o : Origin}

theorem nil : Tidy [] := ⟨List.nodup_nil, nofun, nofun⟩

theorem nodup (h : Tidy es) : (es.map (·.1)).Nodup := by
  cases h with
  | intro h => exact h

theorem table (h : Tidy es) (hk : es.get? k = some (.table o sub)) (ho : o ≠ .braces) :
    Tidy sub := by
  cases h with
  | intro _ ht => exact ht k o sub hk ho

theorem blocks (h : Tidy es) (hk : es.get? k = some (.blocks ts)) : ∀ t ∈ ts, Tidy t := by
  cases h with
  | intro _ _ hb => exact hb k ts hk

def Fits (v : Value) : Prop :=
  (∀ o sub, v = .table o sub → o ≠ .braces → Tidy sub) ∧ ∀ ts, v = .blocks ts → ∀ t ∈ ts, Tidy t

theorem of_get? {es' : Entries} (h : Tidy es) (hn : (es'.map (·.1)).Nodup) (hv : Fits v)
    (hg : ∀ key, es'.get? key = some v ∨ es'.get? key = es.get? key ∨ es'.get? key = none) :
    Tidy es' := by
  refine ⟨hn, fun key o sub hk ho => ?_, fun key ts hk => ?_⟩
  · rcases hg key with he | he | he
    · rw [hk] at he
      exact hv.1 o sub (Option.some.inj he).symm ho
    · exact h.table (he ▸ hk) ho
    · rw [hk] at he
      cases he
  · rcases hg key with he | he | he
    · rw [hk] at he
      exact hv.2 ts (Option.some.inj he).symm
    · exact h.blocks (he ▸ hk)
    · rw [hk] at he
      cases he

theorem append (h : Tidy es) (hk : es.get? k = none) (hv : Fits v) : Tidy (es ++ [(k, v)]) := by
  refine h.of_get? (Entries.nodup_append h.nodup hk) hv fun key => ?_
  rw [Entries.get?_append hk]
  split
  · exact .inl rfl
  · exact .inr (.inl rfl)

theorem replace (h : Tidy es) (hv : Fits v) : Tidy (es.replace k v) := by
  refine h.of_get? (by rw [Entries.keys_replace]; exact h.nodup) hv fun key => ?_
  rw [Entries.get?_replace]
  split
  · cases es.get? k with
    | none => exact .inr (.inr rfl)
    | some _ => exact .inl rfl
  · exact .inr (.inl rfl)

theorem erase (h : Tidy es) : Tidy (es.erase k) := by
  have hn : ((es.erase k).map (·.1)).Nodup := h.nodup.sublist (List.filter_sublist.map _)
  refine h.of_get? (v := .moment) hn ⟨nofun, nofun⟩ fun key => ?_
  rw [Entries.get?_erase]
  split
  · exact .inr (.inr rfl)
  · exact .inr (.inl rfl)

theorem fits_table (h : Tidy sub) (o : Origin) : Fits (.table o sub) :=
  ⟨fun _ _ he _ => by cases he; exact h, nofun⟩

theorem fits_blocks (h : ∀ t ∈ ts, Tidy t) : Fits (.blocks ts) :=
  ⟨nofun, fun _ he => by cases he; exact h⟩

theorem fits_inline (h : v.Inline) : Fits v := by
  refine ⟨fun o sub he ho => ?_, fun ts he => ?_⟩
  · subst he; exact absurd h ho
  · subst he; exact h.elim

end Tidy

namespace Grows

variable {es es' sub sub' : Entries} {k : String} {v : Value} {o : Origin}

theorem append (hk : es.get? k = none) (hv : Tidy.Fits v) : Grows es (es ++ [(k, v)]) where
  tidy h := h.append hk hv
  adds key := by
    rw [Entries.get?_append hk]
    split
    next he => subst he; rw [hk]; exact .absent _
    next => exact .refl _

theorem replace {old : Value} (hk : es.get? k = some old) (hv : Tidy es → Tidy.Fits v)
    (h : Extends (some old) (some v)) : Grows es (es.replace k v) where
  tidy ht := ht.replace (hv ht)
  adds key := by
    rw [Entries.get?_replace]
    split
    next he => subst he; rw [hk]; exact h
    next => exact .refl _

end Grows

namespace Entries

variable {dotted : Bool} {origin : Origin} {es es' a b : Entries} {key : String}
  {path : List String} {f g : Origin → Entries → Option Entries}

def madeBy (dotted : Bool) : Origin := if dotted then .dotted else .implied

/-- Where a path goes from its first key: into a table that is made, into one that is there, or into
the last of a list of blocks. -/
theorem change_cons (h : es.change dotted origin (key :: path) f = some es') :
    (es.get? key = none ∧ ∃ sub, change dotted (madeBy dotted) [] path f = some sub ∧
      es' = es ++ [(key, .table (madeBy dotted) sub)]) ∨
    (∃ o old sub, es.get? key = some (.table o old) ∧ o ≠ .braces ∧
      change dotted o old path f = some sub ∧ es' = es.replace key (.table o sub)) ∨
    ∃ ts sub, es.get? key = some (.blocks ts) ∧
      change dotted .header (ts.getLast?.getD []) path f = some sub ∧
      es' = es.replace key (.blocks (ts.dropLast ++ [sub])) := by
  unfold change at h
  split at h
  next hk =>
    obtain ⟨sub, hs, rfl⟩ := Option.map_eq_some_iff.mp h
    exact .inl ⟨hk, sub, hs, rfl⟩
  next o old hk =>
    split at h
    next => cases h
    next ho =>
      obtain ⟨sub, hs, rfl⟩ := Option.map_eq_some_iff.mp h
      exact .inr (.inl ⟨o, old, sub, hk, fun he => ho (.inl he), hs, rfl⟩)
  next ts hk =>
    obtain ⟨sub, hs, rfl⟩ := Option.map_eq_some_iff.mp h
    exact .inr (.inr ⟨ts, sub, hk, hs, rfl⟩)
  next => cases h

end Entries

theorem Extends.concat {front : List Entries} {t t' : Entries}
    (h : ∀ key, Extends (t.get? key) (t'.get? key)) :
    Extends (some (.blocks (front ++ [t]))) (some (.blocks (front ++ [t']))) := by
  refine .blocks (by simp) fun i key => ?_
  rcases Nat.lt_trichotomy i front.length with hi | rfl | hi
  · rw [List.getElem?_append_left hi, List.getElem?_append_left hi]
    exact .refl _
  · rw [List.getElem?_concat_length, List.getElem?_concat_length]
    exact h key
  · rw [List.getElem?_eq_none (by simp; omega)]
    exact .absent _

/-- Blocks whose last one is extended. -/
theorem Extends.lastBlock {ts : List Entries} {sub : Entries}
    (h : ∀ key, Extends ((ts.getLast?.getD []).get? key) (sub.get? key)) :
    Extends (some (.blocks ts)) (some (.blocks (ts.dropLast ++ [sub]))) := by
  rcases List.eq_nil_or_concat' ts with rfl | ⟨front, t, rfl⟩
  · exact .blocks (Nat.zero_le _) fun i key => .absent _
  · rw [List.dropLast_concat]
    rw [List.getLast?_concat] at h
    exact .concat h

section

variable {dotted : Bool} {origin : Origin} {es es' a b : Entries} {path : List String}
  {f g : Origin → Entries → Option Entries}

/-- A change deep inside makes the whole grow if it makes what it changes grow. -/
theorem Grows.change (hf : ∀ o a b, f o a = some b → Grows a b)
    (h : es.change dotted origin path f = some es') : Grows es es' := by
  induction path generalizing origin es es' with
  | nil => exact hf origin es es' h
  | cons key path ih =>
    rcases Entries.change_cons h with ⟨hk, sub, hs, rfl⟩ | ⟨o, old, sub, hk, ho, hs, rfl⟩ |
      ⟨ts, sub, hk, hs, rfl⟩
    · exact .append hk (Tidy.fits_table ((ih hs).tidy .nil) _)
    · refine .replace hk (fun ht => ?_) (.table o o (ih hs).adds)
      exact Tidy.fits_table ((ih hs).tidy (ht.table hk ho)) o
    · refine .replace hk (fun ht => Tidy.fits_blocks fun t hmem => ?_) (.lastBlock (ih hs).adds)
      have hts := ht.blocks hk
      rcases List.mem_append.mp hmem with hmem | hmem
      · exact hts t (List.dropLast_subset ts hmem)
      · rw [List.mem_singleton.mp hmem]
        refine (ih hs).tidy ?_
        cases hl : ts.getLast? with
        | none => exact .nil
        | some last => exact hts last (List.mem_of_getLast? hl)

/-- Two changes at the same place that differ in what they make of it. -/
theorem extends_of_changes
    (hfg : ∀ o es a b, f o es = some a → g o es = some b → ∀ key, Extends (a.get? key) (b.get? key))
    (h : es.change dotted origin path f = some a) (h' : es.change dotted origin path g = some b)
    (key : String) : Extends (a.get? key) (b.get? key) := by
  induction path generalizing origin es a b key with
  | nil => exact hfg origin es a b h h' key
  | cons k path ih =>
    have hreplace {old v w : Value} (hk : es.get? k = some old) (hvw : Extends (some v) (some w)) :
        Extends ((es.replace k v).get? key) ((es.replace k w).get? key) := by
      rw [Entries.get?_replace, Entries.get?_replace, hk]
      split
      · exact hvw
      · exact .refl _
    rcases Entries.change_cons h with ⟨hk, sub, hs, rfl⟩ | ⟨o, old, sub, hk, -, hs, rfl⟩ |
      ⟨ts, sub, hk, hs, rfl⟩
    all_goals rcases Entries.change_cons h' with ⟨hk', sub', hs', rfl⟩ |
      ⟨o', old', sub', hk', -, hs', rfl⟩ | ⟨ts', sub', hk', hs', rfl⟩
    all_goals rw [hk] at hk'; cases hk'
    · rw [Entries.get?_append hk, Entries.get?_append hk]
      split
      · exact .table _ _ (ih hs hs')
      · exact .refl _
    · exact hreplace hk (.table _ _ (ih hs hs'))
    · exact hreplace hk (.concat (ih hs hs'))

end

section

variable {origin : Origin} {es es' : Entries} {path : List String} {key : String} {v v' : Value}

theorem Grows.insert (hv : v.Inline) (h : es.insert origin path key v = some es') :
    Grows es es' := by
  refine .change (fun o a b hab => ?_) h
  split at hab
  next => cases hab
  next hn =>
    cases hab
    exact .append (Entries.get?_eq_none_of_not_or hn) (Tidy.fits_inline hv)

theorem extends_of_inserts (hv : Curtailed v v') {a b : Entries}
    (h : es.insert origin path key v = some a) (h' : es.insert origin path key v' = some b)
    (k : String) : Extends (a.get? k) (b.get? k) := by
  refine extends_of_changes (fun o sub a b ha hb k => ?_) h h' k
  split at ha
  next => cases ha
  next hn =>
    rw [if_neg hn] at hb
    cases ha
    cases hb
    have hk := Entries.get?_eq_none_of_not_or hn
    rw [Entries.get?_append hk, Entries.get?_append hk]
    split
    · exact .value hv
    · exact .refl _

theorem Grows.openTable (h : es.openTable path key = some es') : Grows es es' := by
  refine .change (fun o a b hab => ?_) h
  split at hab
  next hk =>
    cases hab
    exact .append hk (Tidy.fits_table .nil _)
  next inner hk =>
    cases hab
    have hk' : (a.erase key).get? key = none := by rw [Entries.get?_erase, if_pos rfl]
    -- The implied table moves to the end with its header.
    refine ⟨fun ht => ?_, fun k => ?_⟩
    · exact ht.erase.append hk' (Tidy.fits_table (ht.table hk (by decide)) _)
    · rw [Entries.get?_append hk', Entries.get?_erase]
      split
      next he => subst he; rw [hk]; exact .table _ _ fun _ => .refl _
      next => exact .refl _
  next => cases hab

theorem Grows.openBlock (h : es.openBlock path key = some es') : Grows es es' := by
  refine .change (fun o a b hab => ?_) h
  split at hab
  next hk =>
    cases hab
    exact .append hk (Tidy.fits_blocks fun t ht => List.mem_singleton.mp ht ▸ .nil)
  next ts hk =>
    cases hab
    refine .replace hk (fun ht => Tidy.fits_blocks fun t hmem => ?_) (.blocks (by simp) ?_)
    · rcases List.mem_append.mp hmem with hmem | hmem
      · exact ht.blocks hk t hmem
      · rw [List.mem_singleton.mp hmem]
        exact .nil
    · intro i k
      by_cases hi : i < ts.length
      · rw [List.getElem?_append_left hi]
        exact .refl _
      · rw [List.getElem?_eq_none (by omega)]
        exact .absent _
  next => cases hab

end

def Line.Inline : Line → Prop
  | .pair _ _ v => v.Inline
  | _ => True

theorem Grows.add {d d' : Draft} {l : Line} (hl : l.Inline) (h : d.add l = some d') :
    Grows d.root d'.root := by
  cases l with
  | table path key =>
    obtain ⟨root, hr, rfl⟩ := Option.map_eq_some_iff.mp h
    exact .openTable hr
  | block path key =>
    obtain ⟨root, hr, rfl⟩ := Option.map_eq_some_iff.mp h
    exact .openBlock hr
  | pair path key v =>
    obtain ⟨root, hr, rfl⟩ := Option.map_eq_some_iff.mp h
    exact .change (fun o a b hab => .insert hl hab) hr

theorem extends_of_adds {d a b : Draft} {l l' : Line} (hl : l.Curtailed l') (h : d.add l = some a)
    (h' : d.add l' = some b) (k : String) : Extends (a.root.get? k) (b.root.get? k) := by
  cases hl with
  | same =>
    rw [h] at h'
    cases h'
    exact .refl _
  | pair path key hv =>
    obtain ⟨root, hr, rfl⟩ := Option.map_eq_some_iff.mp h
    obtain ⟨root', hr', rfl⟩ := Option.map_eq_some_iff.mp h'
    exact extends_of_changes (fun o sub a b ha hb => extends_of_inserts hv ha hb) hr hr' k

theorem Grows.addAll {ls : List Line} (hl : ∀ l ∈ ls, l.Inline) {d d' : Draft}
    (h : ls.foldlM Draft.add d = some d') : Grows d.root d'.root := by
  induction ls generalizing d with
  | nil => cases h; exact ⟨id, fun _ => .refl _⟩
  | cons l ls ih =>
    rw [List.forall_mem_cons] at hl
    rw [List.foldlM_cons] at h
    obtain ⟨e, he, h⟩ := Option.bind_eq_some_iff.mp h
    have hg := Grows.add hl.1 he
    have hr := ih hl.2 h
    exact ⟨fun ht => hr.tidy (hg.tidy ht), fun k => (hg.adds k).trans (hr.adds k)⟩

/-- The tables of a text that was cut off are extended by those of the whole text. -/
theorem Cut.extends {ls ls' : List Line} (hc : Cut ls ls') (hl : ∀ l ∈ ls', l.Inline)
    {d a b : Draft} (h : ls.foldlM Draft.add d = some a) (h' : ls'.foldlM Draft.add d = some b)
    (k : String) : Extends (a.root.get? k) (b.root.get? k) := by
  induction hc generalizing d with
  | stop ls =>
    cases h
    exact (Grows.addAll hl h').adds k
  | @last l l' hcur ls =>
    rw [List.forall_mem_cons] at hl
    rw [List.foldlM_cons] at h h'
    obtain ⟨e, he, h⟩ := Option.bind_eq_some_iff.mp h
    obtain ⟨e', he', h'⟩ := Option.bind_eq_some_iff.mp h'
    cases h
    exact (extends_of_adds hcur he he' k).trans ((Grows.addAll hl.2 h').adds k)
  | line l _ ih =>
    rw [List.forall_mem_cons] at hl
    rw [List.foldlM_cons] at h h'
    obtain ⟨e, he, h⟩ := Option.bind_eq_some_iff.mp h
    obtain ⟨e', he', h'⟩ := Option.bind_eq_some_iff.mp h'
    rw [he] at he'
    cases he'
    exact ih hl.2 h h'

theorem inline_of_value {depth : Nat} {s w : List Char} {v : Value}
    (h : value depth s = some (v, w)) : v.Inline := by
  cases reading_of_value h with
  | text | array | truth | falsity => trivial
  | empty | table => rfl
  | bare _ h =>
    have hb := isBare_of_bareValue h
    cases v with
    | integer | float | moment => trivial
    | _ => exact hb.elim

theorem inline_of_lineAt {s w : List Char} {l : Line} (h : lineAt s = some (l, w)) : l.Inline := by
  obtain ⟨t, hl, -⟩ := exists_lineReading h
  cases hl with
  | block | table => trivial
  | pair _ hp =>
    obtain ⟨r, -, hv⟩ := pairAt_eq_some.mp hp
    exact inline_of_value hv

theorem inline_of_linesReading {s : List Char} {ls : List Line} (h : LinesReading s ls) :
    ∀ l ∈ ls, l.Inline := by
  induction h with
  | stop => exact fun l hl => (List.not_mem_nil hl).elim
  | blank _ _ _ ih => exact ih
  | line hl _ _ ih => exact List.forall_mem_cons.mpr ⟨inline_of_lineAt hl, ih⟩

/-- The tables of a document and those that are left of it where its text is cut off. -/
theorem extends_of_cut {t p : String} (hp : p.toList <+: t.toList) {es es' : Entries}
    (h : document? p = some es) (h' : document? t = some es') :
    Tidy es ∧ Tidy es' ∧ ∀ k, Extends (es.get? k) (es'.get? k) := by
  obtain ⟨ls, d, hl, hd, rfl⟩ := exists_lines_of_document? h
  obtain ⟨ls', d', hl', hd', rfl⟩ := exists_lines_of_document? h'
  have hi' := inline_of_linesReading (linesReading_of_lines hl')
  have hi := inline_of_linesReading (linesReading_of_lines hl)
  exact ⟨(Grows.addAll hi hd).tidy .nil, (Grows.addAll hi' hd').tidy .nil,
    (cut_of_front hp hl hl').extends hi' hd hd'⟩

end RelayRoster.Toml
