import Mathlib
import RelayRoster.Address.Literal
import RelayRoster.Proofs.HostPort

namespace RelayRoster.Literal
open Text

/-- Whether a reader takes only such characters off the front of a text, and reads up to any other
one as if the text ended there. -/
structure Confined {α : Type} (P : Char → Bool) (f : List Char → Option (α × List Char)) :
    Prop where
  takes : ∀ s v r, f s = some (v, r) → ∃ t, s = t ++ r ∧ ∀ c ∈ t, P c = true
  stops : ∀ s c x, P c = false → f (s ++ c :: x) = (f s).map fun p => (p.1, p.2 ++ c :: x)

section

variable {α β : Type} {P Q : Char → Bool} {f : List Char → Option (α × List Char)}

theorem Confined.mono (h : Confined P f) (hPQ : ∀ c, P c = true → Q c = true) : Confined Q f where
  takes := by
    intro s v r hs
    obtain ⟨t, ht, hP⟩ := h.takes s v r hs
    exact ⟨t, ht, fun c hc => hPQ c (hP c hc)⟩
  stops := by
    intro s c x hc
    refine h.stops s c x (Bool.eq_false_iff.mpr fun hP => ?_)
    rw [hPQ c hP] at hc
    cases hc

theorem Confined.bind (h : Confined P f) {g : α → List Char → Option (β × List Char)}
    (hg : ∀ v, Confined P (g v)) : Confined P fun s => (f s).bind fun p => g p.1 p.2 where
  takes := by
    intro s v r hs
    obtain ⟨⟨u, r'⟩, hf, hu⟩ := Option.bind_eq_some_iff.mp hs
    obtain ⟨t, rfl, ht⟩ := h.takes s u r' hf
    obtain ⟨t', rfl, ht'⟩ := (hg u).takes r' v r hu
    exact ⟨t ++ t', (List.append_assoc _ _ _).symm, List.forall_mem_append.mpr ⟨ht, ht'⟩⟩
  stops := by
    intro s c x hc
    rw [h.stops s c x hc]
    cases f s with
    | none => rfl
    | some p => exact (hg p.1).stops p.2 c x hc

theorem char?_append {c d : Char} (h : d ≠ c) (s x : List Char) :
    char? d (s ++ c :: x) = (char? d s).map (· ++ c :: x) := by
  cases s with
  | nil => exact if_neg h.symm
  | cons e s =>
    change (if e = d then some (s ++ c :: x) else none) = (if e = d then some s else none).map _
    split <;> rfl

theorem char?_eq_some_iff {c : Char} {s r : List Char} : char? c s = some r ↔ s = c :: r := by
  cases s with
  | nil => simp [char?]
  | cons d s =>
    change (if d = c then some s else none) = some r ↔ _
    split <;> simp_all

/-- A character that has to come first. -/
theorem Confined.char {d : Char} (hd : P d = true) (h : Confined P f) :
    Confined P fun s => (char? d s).bind f where
  takes := by
    intro s v r hs
    obtain ⟨s', hc, hf⟩ := Option.bind_eq_some_iff.mp hs
    obtain rfl := char?_eq_some_iff.mp hc
    obtain ⟨t, rfl, ht⟩ := h.takes s' v r hf
    exact ⟨d :: t, rfl, List.forall_mem_cons.mpr ⟨hd, ht⟩⟩
  stops := by
    intro s c x hc
    have hne : d ≠ c := by
      rintro rfl
      rw [hd] at hc
      cases hc
    rw [char?_append hne]
    cases char? d s with
    | none => rfl
    | some s' => exact h.stops s' c x hc

theorem Confined.or (h : Confined P f) {g : List Char → Option (α × List Char)}
    (hg : Confined P g) : Confined P fun s => (f s).or (g s) where
  takes := by
    intro s v r hs
    rcases Option.or_eq_some_iff.mp hs with hf | ⟨-, hg'⟩
    · exact h.takes s v r hf
    · exact hg.takes s v r hg'
  stops := by
    intro s c x hc
    rw [h.stops s c x hc, hg.stops s c x hc, Option.map_or]

theorem confined_some (P : Char → Bool) (v : α) : Confined P fun s => some (v, s) where
  takes := by
    rintro s v' r hs
    cases hs
    exact ⟨[], rfl, by simp⟩
  stops := fun _ _ _ _ => rfl

end

theorem takeWhile_append_cons {p : Char → Bool} {c : Char} (hc : p c = false) (s x : List Char) :
    (s ++ c :: x).takeWhile p = s.takeWhile p := by
  induction s with
  | nil => simp [hc]
  | cons d s ih => simp only [List.cons_append, List.takeWhile_cons, ih]

theorem dropWhile_append_cons {p : Char → Bool} {c : Char} (hc : p c = false) (s x : List Char) :
    (s ++ c :: x).dropWhile p = s.dropWhile p ++ c :: x := by
  induction s with
  | nil => simp [hc]
  | cons d s ih =>
    simp only [List.cons_append, List.dropWhile_cons, ih]
    split <;> rfl

theorem numeral_confined (base width : Nat) (zeros : Bool) :
    Confined (isDigitOf base) (numeral? base width zeros) where
  takes := by
    intro s v r hs
    unfold numeral? at hs
    dsimp only at hs
    split at hs
    next => cases hs
    next =>
      cases hs
      exact ⟨_, List.takeWhile_append_dropWhile.symm, fun c => List.mem_takeWhile_imp⟩
  stops := by
    intro s c x hc
    unfold numeral?
    dsimp only
    rw [takeWhile_append_cons hc, dropWhile_append_cons hc]
    split <;> rfl

/-- A run of digits ends where no digit follows. -/
theorem bounded?_eq_some_iff {bound n : Nat} {s r : List Char} :
    bounded? bound s = some (n, r) ↔
      ∃ ds, s = ds ++ r ∧ decimalBelow? bound ds = some n ∧
        ∀ c, r.head? = some c → c.isDigit = false := by
  unfold bounded?
  rw [funext isDigitOf_ten, Option.map_eq_some_iff]
  constructor
  · rintro ⟨m, hm, he⟩
    cases he
    refine ⟨_, List.takeWhile_append_dropWhile.symm, hm, fun c hc => ?_⟩
    have hn := List.head?_dropWhile_not Char.isDigit s
    rwa [hc] at hn
  · rintro ⟨ds, rfl, hd, hr⟩
    have hall := (decimalBelow?_eq_some_iff.mp hd).2.1
    have htake : r.takeWhile Char.isDigit = [] := by
      cases r with
      | nil => rfl
      | cons c r => simp [hr c rfl]
    have hdrop : r.dropWhile Char.isDigit = r := by
      cases r with
      | nil => rfl
      | cons c r => simp [hr c rfl]
    refine ⟨n, ?_, ?_⟩
    · rw [List.takeWhile_append_of_pos hall, htake, List.append_nil, hd]
    · rw [List.dropWhile_append_of_pos hall, hdrop]

theorem confined_none {α : Type} (P : Char → Bool) :
    Confined P fun _ => (none : Option (α × List Char)) where
  takes := by
    rintro s v r hs
    cases hs
  stops := fun _ _ _ _ => rfl

def isPointed (c : Char) : Bool := c.isDigit || c = '.'

def isGrouped (c : Char) : Bool := isDigitOf 16 c || c = ':' || c = '.'

theorem isDigitOf_sixteen_of_isDigit {c : Char} (h : c.isDigit = true) : isDigitOf 16 c = true := by
  rw [← isDigitOf_ten] at h
  unfold isDigitOf digit? at h ⊢
  dsimp only at h ⊢
  split_ifs at h ⊢ <;> simp_all
  all_goals omega

theorem isGrouped_of_isPointed {c : Char} (h : isPointed c = true) : isGrouped c = true := by
  unfold isPointed at h
  unfold isGrouped
  rcases Bool.or_eq_true_iff.mp h with hd | hp
  · simp [isDigitOf_sixteen_of_isDigit hd]
  · simp [hp]

theorem octet_confined : Confined isPointed octet? := by
  have he : octet? = fun s => (numeral? 10 3 false s).bind fun p =>
      if p.1 < 256 then some (UInt8.ofNat p.1, p.2) else none := by
    funext s
    unfold octet?
    cases numeral? 10 3 false s <;> rfl
  rw [he]
  have hn := (numeral_confined 10 3 false).mono (Q := isPointed) fun c hc => by
    rw [isDigitOf_ten] at hc
    simp [isPointed, hc]
  refine hn.bind (g := fun n r => if n < 256 then some (UInt8.ofNat n, r) else none) fun n => ?_
  by_cases h : n < 256
  · simp only [if_pos h]
    exact confined_some _ _
  · simp only [if_neg h]
    exact confined_none _

theorem octets_confined : Confined isPointed octets? := by
  have hdot : isPointed '.' = true := by decide
  exact octet_confined.bind fun a => (octet_confined.bind fun b => (octet_confined.bind fun c =>
    (octet_confined.bind fun d => confined_some _ #v[a, b, c, d]).char hdot).char hdot).char hdot

theorem separated_confined {α : Type} {f : List Char → Option (α × List Char)}
    (h : Confined isGrouped f) (first : Bool) :
    Confined isGrouped fun s => (separated? first s).bind f := by
  cases first with
  | true => exact h
  | false => exact h.char (by decide)

def groupRun (limit : Nat) (first : Bool) (s : List Char) :
    Option ((List UInt16 × Bool) × List Char) :=
  some (((groups limit first s).1, (groups limit first s).2.1), (groups limit first s).2.2)

/-- One more group, or octets for the last two; which groups they make is of no account here. -/
theorem exists_groupRun_succ : ∃ pair : Vector UInt8 4 → List UInt16,
    ∀ (n : Nat) (first : Bool) (s : List Char), groupRun (n + 1) first s =
      ((if 0 < n then (separated? first s).bind octets? else none).bind fun p =>
        some ((pair p.1, true), p.2)).or
      ((((separated? first s).bind (numeral? 16 4 true)).bind fun p =>
        (groupRun n false p.2).bind fun q => some ((UInt16.ofNat p.1 :: q.1.1, q.1.2), q.2)).or
      (some (([], false), s))) := by
  refine ⟨fun o => [group o[0] o[1], group o[2] o[3]], fun n first s => ?_⟩
  unfold groupRun
  conv_lhs => unfold groups
  split
  next h => rw [h]; rfl
  next h =>
    rw [h]
    split
    next h' => rw [h']; rfl
    next h' => rw [h']; rfl

theorem groupRun_confined (limit : Nat) (first : Bool) :
    Confined isGrouped (groupRun limit first) := by
  obtain ⟨pair, hsucc⟩ := exists_groupRun_succ
  induction limit generalizing first with
  | zero => exact confined_some _ ([], false)
  | succ n ih =>
    rw [funext (hsucc n first)]
    refine Confined.or ?_ (Confined.or ?_ (confined_some _ ([], false)))
    · refine Confined.bind (f := fun s => if 0 < n then (separated? first s).bind octets? else none)
        ?_ fun o => confined_some _ (pair o, true)
      by_cases hn : 0 < n
      · simp only [if_pos hn]
        exact separated_confined (octets_confined.mono fun _ => isGrouped_of_isPointed) first
      · simp only [if_neg hn]
        exact confined_none _
    · have hd : Confined isGrouped (numeral? 16 4 true) :=
        (numeral_confined 16 4 true).mono fun c hc => by simp [isGrouped, hc]
      exact (separated_confined hd first).bind fun g => (ih false).bind fun q =>
        confined_some _ (UInt16.ofNat g :: q.1, q.2)

/-- What is made of the groups in front, all eight or those before a double colon. -/
def groupsBehind? (front : List UInt16 × Bool) (r : List Char) :
    Option (Vector UInt16 8 × List Char) :=
  if front.1.length = 8 then (eight? front.1).map (·, r)
  else if front.2 then none
  else (char? ':' r).bind fun r => (char? ':' r).bind fun r =>
    (groupRun (7 - front.1.length) true r).bind fun p =>
      (eight? (front.1 ++ List.replicate (8 - front.1.length - p.1.1.length) 0 ++ p.1.1)).map
        (·, p.2)

theorem groups?_eq :
    groups? = fun s => (groupRun 8 true s).bind fun p => groupsBehind? p.1 p.2 := by
  funext s
  unfold groups? groupsBehind? groupRun
  dsimp only [Option.bind_some]
  split
  · rfl
  · split
    · rfl
    · simp only [Option.map_eq_bind]
      rfl

theorem groups_confined : Confined isGrouped groups? := by
  have hcolon : isGrouped ':' = true := by decide
  have hmap (o : Option (Vector UInt16 8)) : Confined isGrouped fun s => o.map (·, s) := by
    cases o with
    | none => exact confined_none _
    | some v => exact confined_some _ v
  rw [groups?_eq]
  refine (groupRun_confined 8 true).bind fun front => ?_
  unfold groupsBehind?
  split
  · exact hmap _
  · split
    · exact confined_none _
    · exact (((groupRun_confined _ true).bind fun back => hmap
        (eight? (front.1 ++ List.replicate (8 - front.1.length - back.1.length) 0 ++ back.1))).char
          hcolon).char hcolon

section

variable {α : Type} {P : Char → Bool} {f : List Char → Option (α × List Char)}

/-- Where another character follows, a reader that stops there has read all that is before it. -/
theorem Confined.eq_some_cons_iff (h : Confined P f) {c : Char} (hc : P c = false) {s x : List Char}
    {v : α} : f s = some (v, c :: x) ↔ ∃ t, s = t ++ c :: x ∧ f t = some (v, []) := by
  constructor
  · intro hs
    obtain ⟨t, rfl, -⟩ := h.takes s v (c :: x) hs
    rw [h.stops t c x hc, Option.map_eq_some_iff] at hs
    obtain ⟨⟨u, r⟩, ht, he⟩ := hs
    cases r with
    | nil =>
      cases he
      exact ⟨t, rfl, ht⟩
    | cons d r =>
      have hl := congrArg (fun p : α × List Char => p.2.length) he
      simp only [List.length_append, List.length_cons] at hl
      omega
  · rintro ⟨t, rfl, ht⟩
    rw [h.stops t c x hc, ht]
    rfl

theorem Confined.forall_mem (h : Confined P f) {t : List Char} {v : α} (ht : f t = some (v, [])) :
    ∀ c ∈ t, P c = true := by
  obtain ⟨t', rfl, hP⟩ := h.takes t v [] ht
  rwa [List.append_nil]

end

theorem port?_eq_some_iff {s : List Char} {p : UInt16} :
    port? s = some (p, []) ↔ ∃ ds, s = ':' :: ds ∧ decimalBelow? 65536 ds = some p.toNat := by
  have he : port? s = (char? ':' s).bind fun r => (bounded? 65536 r).bind fun q =>
      some (UInt16.ofNat q.1, q.2) := rfl
  rw [he]
  constructor
  · intro h
    obtain ⟨r, hc, h⟩ := Option.bind_eq_some_iff.mp h
    obtain ⟨⟨n, r'⟩, hb, h⟩ := Option.bind_eq_some_iff.mp h
    cases h
    obtain ⟨ds, rfl, hd, -⟩ := bounded?_eq_some_iff.mp hb
    obtain ⟨-, -, -, hlt⟩ := decimalBelow?_eq_some_iff.mp hd
    refine ⟨ds, by rw [char?_eq_some_iff.mp hc, List.append_nil], ?_⟩
    rw [hd, UInt16.toNat_ofNat_of_lt' hlt]
  · rintro ⟨ds, rfl, hd⟩
    have hb : bounded? 65536 ds = some (p.toNat, []) :=
      bounded?_eq_some_iff.mpr ⟨ds, (List.append_nil ds).symm, hd, nofun⟩
    rw [char?_eq_some_iff.mpr rfl, Option.bind_some, hb, Option.bind_some, UInt16.ofNat_toNat]

/-- The interface that an address is reached through: nothing for interface zero, or a percent sign
and its number. -/
def WrittenScope (z : List Char) (i : UInt32) : Prop :=
  z = [] ∧ i = 0 ∨ ∃ ds, z = '%' :: ds ∧ decimalBelow? 4294967296 ds = some i.toNat

theorem scope_eq_iff {s x : List Char} {i : UInt32} :
    scope s = (i, ']' :: x) ↔ ∃ z, s = z ++ ']' :: x ∧ WrittenScope z i := by
  -- The bracket behind it is no digit, so the number ends there.
  constructor
  · intro h
    unfold scope at h
    split at h
    next n r hb =>
      cases h
      obtain ⟨t, hc, hb⟩ := Option.bind_eq_some_iff.mp hb
      obtain rfl := char?_eq_some_iff.mp hc
      obtain ⟨ds, rfl, hd, -⟩ := bounded?_eq_some_iff.mp hb
      obtain ⟨-, -, -, hlt⟩ := decimalBelow?_eq_some_iff.mp hd
      refine ⟨'%' :: ds, rfl, .inr ⟨ds, rfl, ?_⟩⟩
      rw [hd, UInt32.toNat_ofNat_of_lt' hlt]
    next =>
      cases h
      exact ⟨[], rfl, .inl ⟨rfl, rfl⟩⟩
  · rintro ⟨z, rfl, ⟨rfl, rfl⟩ | ⟨ds, rfl, hd⟩⟩
    · rfl
    · have hb : bounded? 4294967296 (ds ++ ']' :: x) = some (i.toNat, ']' :: x) := by
        refine bounded?_eq_some_iff.mpr ⟨ds, rfl, hd, ?_⟩
        rintro c hc
        cases hc
        rfl
      unfold scope
      rw [List.cons_append, char?_eq_some_iff.mpr rfl, Option.bind_some, hb]
      dsimp only
      rw [UInt32.ofNat_toNat]

theorem socketV4?_eq_some_iff {s : List Char} {a : SocketAddress} :
    socketV4? s = some (a, []) ↔ ∃ ip o ds, s = ip ++ ':' :: ds ∧ octets? ip = some (o, []) ∧
      decimalBelow? 65536 ds = some a.port.toNat ∧ a = ⟨.v4 o, a.port, 0⟩ := by
  have hcolon : isPointed ':' = false := by decide
  have he : socketV4? s = (octets? s).bind fun p => (port? p.2).bind fun q =>
      some (⟨.v4 p.1, q.1, 0⟩, q.2) := rfl
  rw [he]
  constructor
  · intro h
    obtain ⟨⟨o, r⟩, ho, h⟩ := Option.bind_eq_some_iff.mp h
    obtain ⟨⟨p, r'⟩, hp, h⟩ := Option.bind_eq_some_iff.mp h
    cases h
    obtain ⟨ds, rfl, hd⟩ := port?_eq_some_iff.mp hp
    obtain ⟨ip, rfl, hip⟩ := (octets_confined.eq_some_cons_iff hcolon).mp ho
    exact ⟨ip, o, ds, rfl, hip, hd, rfl⟩
  · rintro ⟨ip, o, ds, rfl, hip, hd, ha⟩
    rw [(octets_confined.eq_some_cons_iff hcolon).mpr ⟨ip, rfl, hip⟩, Option.bind_some,
      port?_eq_some_iff.mpr ⟨ds, rfl, hd⟩, Option.bind_some, ← ha]

theorem socketV6?_eq_some_iff {s : List Char} {a : SocketAddress} :
    socketV6? s = some (a, []) ↔ ∃ ip g z ds, s = '[' :: (ip ++ z) ++ ']' :: ':' :: ds ∧
      groups? ip = some (g, []) ∧ WrittenScope z a.scope ∧
        decimalBelow? 65536 ds = some a.port.toNat ∧ a.ip = .v6 g := by
  have he : socketV6? s = (char? '[' s).bind fun r => (groups? r).bind fun p =>
      (char? ']' (scope p.2).2).bind fun r => (port? r).bind fun q =>
        some (⟨.v6 p.1, q.1, (scope p.2).1⟩, q.2) := rfl
  -- The groups end at the percent sign of an interface, or else at the bracket.
  have hgroups (ip z x : List Char) (i : UInt32) (hz : WrittenScope z i) (g : Vector UInt16 8) :
      groups? ip = some (g, []) →
        groups? (ip ++ z ++ ']' :: x) = some (g, z ++ ']' :: x) := by
    intro hip
    rw [List.append_assoc]
    rcases hz with ⟨rfl, -⟩ | ⟨ds, rfl, -⟩
    · exact (groups_confined.eq_some_cons_iff (by decide)).mpr ⟨ip, rfl, hip⟩
    · exact (groups_confined.eq_some_cons_iff (by decide)).mpr ⟨ip, rfl, hip⟩
  rw [he]
  constructor
  · intro h
    obtain ⟨r₁, h₁, h⟩ := Option.bind_eq_some_iff.mp h
    obtain ⟨⟨g, r₂⟩, hg, h⟩ := Option.bind_eq_some_iff.mp h
    obtain ⟨r₄, h₃, h⟩ := Option.bind_eq_some_iff.mp h
    obtain ⟨⟨p, r₅⟩, hp, h⟩ := Option.bind_eq_some_iff.mp h
    cases h
    obtain rfl := char?_eq_some_iff.mp h₁
    obtain ⟨ds, rfl, hd⟩ := port?_eq_some_iff.mp hp
    obtain ⟨z, rfl, hz⟩ := scope_eq_iff.mp
      (Prod.ext rfl (char?_eq_some_iff.mp h₃) : scope r₂ = ((scope r₂).1, ']' :: ':' :: ds))
    obtain ⟨ip, rfl, hip⟩ :
        ∃ ip, r₁ = ip ++ (z ++ ']' :: ':' :: ds) ∧ groups? ip = some (g, []) := by
      rcases hz with ⟨rfl, -⟩ | ⟨es, rfl, -⟩
      · exact (groups_confined.eq_some_cons_iff (by decide)).mp hg
      · exact (groups_confined.eq_some_cons_iff (by decide)).mp hg
    exact ⟨ip, g, z, ds, by simp, hip, hz, hd, rfl⟩
  · rintro ⟨ip, g, z, ds, rfl, hip, hz, hd, ha⟩
    have hs : scope (z ++ ']' :: ':' :: ds) = (a.scope, ']' :: ':' :: ds) :=
      scope_eq_iff.mpr ⟨z, rfl, hz⟩
    rw [List.cons_append, char?_eq_some_iff.mpr rfl, Option.bind_some, hgroups ip z _ _ hz g hip,
      Option.bind_some]
    dsimp only
    rw [hs]
    dsimp only
    rw [char?_eq_some_iff.mpr rfl, Option.bind_some, port?_eq_some_iff.mpr ⟨ds, rfl, hd⟩,
      Option.bind_some, ← ha]

theorem whole_eq_some_iff {α : Type} {o : Option (α × List Char)} {a : α} :
    whole o = some a ↔ o = some (a, []) := by
  unfold whole
  split <;> simp_all

end RelayRoster.Literal

namespace RelayRoster
open Literal

/-- An address of a socket is four octets or, in brackets, eight groups with or without an
interface; and a port. -/
theorem SocketAddress.ofText?_eq_some_iff {s : String} {a : SocketAddress} :
    ofText? s = some a ↔
      (∃ ip o ds, s.toList = ip ++ ':' :: ds ∧ octets? ip = some (o, []) ∧
        Text.decimalBelow? 65536 ds = some a.port.toNat ∧ a = ⟨.v4 o, a.port, 0⟩) ∨
      ∃ ip g z ds, s.toList = '[' :: (ip ++ z) ++ ']' :: ':' :: ds ∧ groups? ip = some (g, []) ∧
        WrittenScope z a.scope ∧ Text.decimalBelow? 65536 ds = some a.port.toNat ∧
        a.ip = .v6 g := by
  unfold ofText?
  rw [whole_eq_some_iff, Option.or_eq_some_iff, socketV4?_eq_some_iff, socketV6?_eq_some_iff]
  refine or_congr_right ⟨And.right, fun h => ⟨?_, h⟩⟩
  obtain ⟨ip, g, z, ds, hs, -⟩ := h
  rw [hs]
  rfl

end RelayRoster
