import RelayRoster.File.Watch
import RelayRoster.Proofs.Faults
import RelayRoster.Proofs.TomlGrowth

namespace RelayRoster
open Toml

namespace Schema

variable {σ β : Type} (schema : Schema σ) (view : σ → β) {k : String} {Q : Value → β → Prop}

/-- What a table's entries make of one field of a record: nothing if its key is absent, else what its
value sets. -/
theorem fromEntries_field
    (hother : ∀ r e r', e.1 ≠ k → schema.assign r e = .ok r' → view r' = view r)
    (hset : ∀ r v r', schema.assign r (k, v) = .ok r' → Q v (view r')) {es : Entries}
    (hn : (es.map (·.1)).Nodup) {start r : σ} (h : schema.fromEntries start es = .ok r) :
    (es.get? k = none ∧ view r = view start) ∨ ∃ v, es.get? k = some v ∧ Q v (view r) := by
  induction es generalizing start with
  | nil => cases h; exact .inl ⟨rfl, rfl⟩
  | cons e es ih =>
    obtain ⟨key, v⟩ := e
    rw [List.map_cons, List.nodup_cons] at hn
    have hcons : schema.fromEntries start ((key, v) :: es) =
        (schema.assign start (key, v)).bind fun r => schema.fromEntries r es := rfl
    rw [hcons] at h
    cases ha : schema.assign start (key, v) with
    | error m => rw [ha] at h; cases h
    | ok r₁ =>
      rw [ha] at h
      have ih := ih hn.2 h
      -- No later entry has the same key, so this one decides or has no part in it.
      by_cases hk : key = k
      · subst hk
        have hnone : Entries.get? es key = none := Entries.get?_eq_none_iff.mpr hn.1
        rcases ih with ⟨-, hv⟩ | ⟨u, hu, -⟩
        · refine .inr ⟨v, by simp [Entries.get?], ?_⟩
          rw [hv]
          exact hset _ _ _ ha
        · rw [hnone] at hu
          cases hu
      · have hget : Entries.get? ((key, v) :: es) k = Entries.get? es k := by
          unfold Entries.get?
          rw [List.lookup_cons, beq_false_of_ne (Ne.symm hk)]
        rw [hget, ← hother _ (key, v) _ hk ha]
        exact ih

end Schema

namespace Decode

theorem exists_of_map {α β : Type} {o : Decoded α} {f : α → β} {b : β}
    (h : (do return f (← o)) = .ok b) : ∃ a, o = .ok a ∧ b = f a := by
  cases o with
  | error m => cases h
  | ok a => cases h; exact ⟨a, rfl, rfl⟩

theorem endpoints_of_assign {r r' : Settings} {e : String × Value} (hk : e.1 ≠ "endpoints")
    (h : settingsSchema.assign r e = .ok r') : r'.endpoints = r.endpoints := by
  unfold Schema.assign settingsSchema at h
  dsimp only at h
  rw [List.lookup_cons, beq_false_of_ne hk] at h
  dsimp only at h
  rw [List.lookup_cons, List.lookup_cons, List.lookup_nil] at h
  split at h
  next set hs =>
    split at hs
    next =>
      cases hs
      obtain ⟨x, -, rfl⟩ := exists_of_map h
      rfl
    next =>
      split at hs
      next =>
        cases hs
        obtain ⟨x, -, rfl⟩ := exists_of_map h
        rfl
      next => cases hs
  next => cases h; rfl

theorem endpoints_of_ofEntries {es : Entries} (hn : (es.map (·.1)).Nodup) {s : Settings}
    (h : Settings.ofEntries es = .ok s) :
    (es.get? "endpoints" = none ∧ s.endpoints = []) ∨
      ∃ v, es.get? "endpoints" = some v ∧ endpoints v = .ok s.endpoints := by
  refine Schema.fromEntries_field settingsSchema Settings.endpoints
    (Q := fun v as => endpoints v = .ok as) (fun r e r' hk h => endpoints_of_assign hk h)
    (fun r v r' h => ?_) hn h
  have hset : settingsSchema.assign r ("endpoints", v) =
      (do return { r with endpoints := ← endpoints v }) := rfl
  rw [hset] at h
  obtain ⟨as, ha, rfl⟩ := exists_of_map h
  exact ha

/-- The address of a block is the text under its key. -/
theorem address_of_endpoint {es : Entries} (hn : (es.map (·.1)).Nodup) {o : Origin} {a : String}
    (h : endpoint (.table o es) = .ok a) : es.get? "address" = some (.text a) := by
  change (endpointSchema.fromEntries none es).bind _ = .ok a at h
  cases hf : endpointSchema.fromEntries none es with
  | error m => rw [hf] at h; cases h
  | ok found =>
    rw [hf] at h
    cases found with
    | none => cases h
    | some b =>
      cases h
      -- Among the entries only the one under the address key sets what is found.
      have hfield := Schema.fromEntries_field endpointSchema id
        (Q := fun v o => ∃ a, v = .text a ∧ o = some a) (k := "address")
        (fun r e r' hk h => ?_) (fun r v r' h => ?_) hn hf
      · rcases hfield with ⟨-, hnone⟩ | ⟨v, hv, b, rfl, hb⟩
        · cases hnone
        · cases hb
          exact hv
      · unfold Schema.assign endpointSchema at h
        dsimp only at h
        rw [List.lookup_cons, beq_false_of_ne hk] at h
        cases h
        rfl
      · have hset : endpointSchema.assign r ("address", v) = some <$> string v := rfl
        rw [hset] at h
        cases v with
        | text b => cases h; exact ⟨b, rfl, rfl⟩
        | _ => cases h

theorem forall₂_of_mapM {α β : Type} {f : α → Decoded β} {as : List α} {bs : List β}
    (h : as.mapM f = .ok bs) : List.Forall₂ (fun a b => f a = .ok b) as bs := by
  induction as generalizing bs with
  | nil => cases h; exact .nil
  | cons a as ih =>
    rw [List.mapM_cons] at h
    cases ha : f a with
    | error m => rw [ha] at h; cases h
    | ok b =>
      rw [ha] at h
      obtain ⟨bs, hbs, rfl⟩ := exists_of_map (f := fun bs => b :: bs) h
      exact .cons ha (ih hbs)

end Decode

namespace HostPort
open Text

/-- A port ends with a digit. -/
theorem getLast?_of_port? {cs : List Char} {n : UInt16} (h : port? cs = some n) :
    ∃ c, cs.getLast? = some c ∧ isDigitOf 10 c = true := by
  have hlast {ds : List Char} {n : Nat} (hd : decimalBelow? 65536 ds = some n) :
      ∃ c, ds.getLast? = some c ∧ isDigitOf 10 c = true := by
    obtain ⟨hne, hall, -⟩ := decimalBelow?_eq_some.mp hd
    exact ⟨ds.getLast hne, List.getLast?_eq_getLast_of_ne_nil hne, hall _ (List.getLast_mem hne)⟩
  unfold port? at h
  split at h
  next ds =>
    obtain ⟨n, hn, -⟩ := Option.map_eq_some_iff.mp h
    obtain ⟨c, hc, hd⟩ := hlast hn
    exact ⟨c, by rw [List.getLast?_cons, hc]; rfl, hd⟩
  next =>
    obtain ⟨n, hn, -⟩ := Option.map_eq_some_iff.mp h
    exact hlast hn

theorem not_endsInQuote_of_wellFormed {a : String} (h : wellFormed a = true) :
    ¬ EndsInQuote a := by
  unfold wellFormed at h
  split at h
  next => cases h
  next host port hs =>
    obtain ⟨hsplit, -⟩ := eq_append_of_splitLast? hs
    split at h
    next p _ hp _ =>
      obtain ⟨c, hc, hd⟩ := getLast?_of_port? hp
      have hlast : a.toList.getLast? = some c := by
        rw [hsplit, List.getLast?_append, List.getLast?_cons, hc]
        rfl
      rintro (hq | hq)
      · rw [hlast] at hq
        cases hq
        exact absurd hd (by decide)
      · rw [hlast] at hq
        cases hq
        exact absurd hd (by decide)
    next => cases h

/-- Of two well-formed addresses none is left of the other where the text was cut off, unless they
are the same. -/
theorem eq_of_curtails {a b : String} (ha : wellFormed a = true) (hb : wellFormed b = true)
    (h : Curtails a b) : a = b := by
  rcases h with h | rfl | h
  · exact h
  · exact absurd ha (by decide)
  · exact absurd h (not_endsInQuote_of_wellFormed hb)

end HostPort

namespace Settings

theorem exists_of_ofText {t : String} {s : Settings} (h : ofText t = .ok s) :
    ∃ es, document? t = some es ∧ ofEntries es = .ok s ∧ s.Valid := by
  unfold ofText at h
  split at h
  next es hd =>
    unfold ofDocument at h
    split at h
    next s' he =>
      obtain ⟨hv, rfl⟩ := checked_eq_ok_iff.mp h
      exact ⟨es, hd, he, hv⟩
    next => cases h
  next => cases h

end Settings

namespace Decode

/-- The addresses of blocks, in their order. -/
theorem addresses_of_blocks {ts : List Entries} (ht : ∀ t ∈ ts, Tidy t) {as : List String}
    (h : endpoints (.blocks ts) = .ok as) :
    List.Forall₂ (fun t a => Entries.get? t "address" = some (.text a)) ts as := by
  have hf := forall₂_of_mapM (f := endpoint) h
  rw [List.forall₂_map_left_iff] at hf
  clear h
  induction hf with
  | nil => exact .nil
  | cons ha _ ih =>
    rw [List.forall_mem_cons] at ht
    exact .cons (address_of_endpoint ht.1.nodup ha) (ih ht.2)

end Decode

theorem text_of_extends {a : String} {v? : Option Value} (h : Extends (some (.text a)) v?) :
    ∃ b, v? = some (.text b) ∧ Curtails a b := by
  cases h with
  | value h =>
    cases h with
    | same => exact ⟨a, rfl, .inl rfl⟩
    | text h => exact ⟨_, rfl, h⟩
    | bare hb => exact hb.elim

/-- Blocks that are extended have the addresses that they had, as long as these are well-formed. -/
theorem prefix_of_blocks {ts ts' : List Entries} {as as' : List String}
    (hl : ts.length ≤ ts'.length)
    (hx : ∀ (i : Nat) (key : String),
      Extends ((ts[i]?.getD []).get? key) ((ts'[i]?.getD []).get? key))
    (h : List.Forall₂ (fun t a => Entries.get? t "address" = some (.text a)) ts as)
    (h' : List.Forall₂ (fun t a => Entries.get? t "address" = some (.text a)) ts' as')
    (hw : ∀ a ∈ as, HostPort.wellFormed a = true) (hw' : ∀ a ∈ as', HostPort.wellFormed a = true) :
    as <+: as' := by
  rw [List.prefix_iff_getElem?]
  intro i hi
  obtain ⟨hlen, hget⟩ := List.forall₂_iff_get.mp h
  obtain ⟨hlen', hget'⟩ := List.forall₂_iff_get.mp h'
  have hi' : i < as'.length := by omega
  have ha := hget i (by omega) hi
  have ha' := hget' i (by omega) hi'
  have hxi := hx i "address"
  rw [List.getElem?_eq_getElem (by omega), List.getElem?_eq_getElem (by omega), Option.getD_some,
    Option.getD_some] at hxi
  rw [List.get_eq_getElem, List.get_eq_getElem] at ha ha'
  rw [ha, ha'] at hxi
  obtain ⟨b, hb, hc⟩ := text_of_extends hxi
  cases hb
  rw [List.getElem?_eq_getElem hi', HostPort.eq_of_curtails (hw _ (List.getElem_mem hi))
    (hw' _ (List.getElem_mem hi')) hc]

namespace Settings

theorem endpoints_isPrefix {es es' : Entries} (ht : Tidy es) (ht' : Tidy es')
    (hx : ∀ k, Extends (es.get? k) (es'.get? k)) {s s' : Settings} (h : ofEntries es = .ok s)
    (h' : ofEntries es' = .ok s') (hv : s.Valid) (hv' : s'.Valid) :
    s.endpoints <+: s'.endpoints := by
  rcases Decode.endpoints_of_ofEntries ht.nodup h with ⟨-, hnil⟩ | ⟨v, hk, hd⟩
  · rw [hnil]
    exact List.nil_prefix
  · have hxe := hx "endpoints"
    rcases Decode.endpoints_of_ofEntries ht'.nodup h' with ⟨hk', -⟩ | ⟨v', hk', hd'⟩
    · rw [hk, hk'] at hxe
      cases hxe
    · rw [hk, hk'] at hxe
      cases hxe with
      | value hc =>
        cases hc with
        | same => rw [Except.ok.inj (hd.symm.trans hd')]
        | text => cases hd
        | bare hb => cases v <;> first | exact hb.elim | cases hd
      | table => cases hd
      | blocks hl hi =>
        exact prefix_of_blocks hl hi (Decode.addresses_of_blocks (ht.blocks hk) hd)
          (Decode.addresses_of_blocks (ht'.blocks hk') hd') (fun a ha => (hv.addresses a ha).2)
          fun a ha => (hv'.addresses a ha).2

end Settings

/-- A settings file that is read before it is written to its end is rejected, or what is passed on
lists the same endpoints up to some place and none after it. -/
theorem reread_of_cut {t p : String} (hp : p.toList <+: t.toList) {s : Settings}
    (ht : Settings.ofText t = .ok s) (path : Path) :
    (∃ e, Watch.reread path (Settings.ofText p) = (none, .reloadRejected path.text e)) ∨
      ∃ s', Watch.reread path (Settings.ofText p) =
          (some s', .settingsReloaded path.text s'.endpoints.length) ∧
        s'.endpoints <+: s.endpoints := by
  cases hs : Settings.ofText p with
  | error e => exact .inl ⟨_, rfl⟩
  | ok s' =>
    obtain ⟨es, hd, he, hv⟩ := Settings.exists_of_ofText ht
    obtain ⟨es', hd', he', hv'⟩ := Settings.exists_of_ofText hs
    obtain ⟨htidy', htidy, hx⟩ := extends_of_cut hp hd' hd
    exact .inr ⟨s', rfl, Settings.endpoints_isPrefix htidy' htidy hx he' he hv' hv⟩

def twoEndpoints : String :=
  "[[endpoints]]\naddress = \"a:1\"\n[[endpoints]]\naddress = \"b:1\"\n"

/-- The same file while its second half is not written yet. -/
def firstEndpoint : String := "[[endpoints]]\naddress = \"a:1\"\n"

theorem firstEndpoint_begins : firstEndpoint.toList <+: twoEndpoints.toList := by decide

set_option maxRecDepth 20000 in
theorem ofText_twoEndpoints :
    Settings.ofText twoEndpoints = .ok { endpoints := ["a:1", "b:1"] } := by cbv

theorem ofText_firstEndpoint :
    Settings.ofText firstEndpoint = .ok { endpoints := ["a:1"] } := by cbv

/-- Of two endpoints the first is passed on alone. -/
theorem reread_of_cut_of_two :
    firstEndpoint.toList <+: twoEndpoints.toList ∧
      Settings.ofText twoEndpoints = .ok { endpoints := ["a:1", "b:1"] } ∧
      ∃ s', Watch.reread ⟨"relay.toml"⟩ (Settings.ofText firstEndpoint) =
          (some s', .settingsReloaded "relay.toml" s'.endpoints.length) ∧
        s'.endpoints <+: ["a:1", "b:1"] := by
  refine ⟨firstEndpoint_begins, ofText_twoEndpoints, ?_⟩
  rcases reread_of_cut firstEndpoint_begins ofText_twoEndpoints ⟨"relay.toml"⟩ with
    ⟨e, he⟩ | hsent
  · rw [ofText_firstEndpoint] at he
    cases he
  · exact hsent

/-- A file that is half written is accepted, with an endpoint less. -/
theorem endpoint_lost_of_half_written :
    firstEndpoint.toList <+: twoEndpoints.toList ∧ firstEndpoint ≠ twoEndpoints ∧
      ∃ s s', Settings.ofText twoEndpoints = .ok s ∧ s.endpoints = ["a:1", "b:1"] ∧
        (Watch.reread ⟨"relay.toml"⟩ (Settings.ofText firstEndpoint)).1 = some s' ∧
        s'.endpoints = ["a:1"] := by
  rw [ofText_firstEndpoint]
  exact ⟨firstEndpoint_begins, by decide, _, _, ofText_twoEndpoints, rfl, rfl, rfl⟩

end RelayRoster
