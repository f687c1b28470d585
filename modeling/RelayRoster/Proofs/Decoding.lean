import Mathlib
import RelayRoster.Proofs.HalfWritten

namespace RelayRoster
open Toml

namespace Toml

namespace Value

def boolean? : Value → Option Bool
  | .boolean b => some b
  | _ => none

def text? : Value → Option String
  | .text s => some s
  | _ => none

def below? (bound : Int) : Value → Option Nat
  | .integer n => if 0 ≤ n ∧ n < bound then some n.toNat else none
  | _ => none

/-- Integers of a document end below `2 ^ 63`, so that this is any of them that is not negative. -/
def word64? (v : Value) : Option UInt64 := (v.below? 18446744073709551616).map .ofNat

def word32? (v : Value) : Option UInt32 := (v.below? 4294967296).map .ofNat

def logFormat? : Value → Option LogFormat
  | .text s => if s = "pretty" then some .pretty else if s = "json" then some .json else none
  | _ => none

def table? : Value → Option Entries
  | .table _ es => some es
  | _ => none

def items? : Value → Option (List Value)
  | .array items => some items
  | .blocks ts => some (ts.map (.table .header))
  | _ => none

def address? (v : Value) : Option String :=
  v.table?.bind fun es => (es.get? "address").bind text?

def addresses? (v : Value) : Option (List String) := v.items?.bind (·.mapM address?)

/-- Neither a list nor a date, and no table that names a key twice. -/
def Plain (v : Value) : Prop :=
  v.items? = none ∧ v ≠ .moment ∧ ∀ es, v.table? = some es → (es.map (·.1)).Nodup

end Value

namespace Entries

def given {α : Type} (es : Entries) (key : String) (read? : Value → Option α) (default : α) : α :=
  ((es.get? key).bind read?).getD default

/-- Whether what stands under a key, if anything does, is of the kind wanted. -/
def Fits {α : Type} (es : Entries) (key : String) (read? : Value → Option α) : Prop :=
  ∀ v, es.get? key = some v → (read? v).isSome = true

instance {α : Type} (es : Entries) (key : String) (read? : Value → Option α) :
    Decidable (es.Fits key read?) :=
  decidable_of_iff ((es.get? key).all fun v => (read? v).isSome) (by
    unfold Fits
    cases es.get? key <;> simp)

def under (es : Entries) (key : String) : Entries := es.given key Value.table? []

theorem get?_eq_some_of_mem {es : Entries} (hn : (es.map (·.1)).Nodup) {e : String × Value}
    (he : e ∈ es) : es.get? e.1 = some e.2 := by
  unfold get?
  induction es with
  | nil => cases he
  | cons d es ih =>
    rw [List.map_cons, List.nodup_cons] at hn
    rw [List.lookup_cons]
    rcases List.mem_cons.mp he with rfl | he
    · rw [beq_self_eq_true]
    · have hne : e.1 ≠ d.1 := fun h => hn.1 (h ▸ List.mem_map_of_mem he)
      rw [beq_false_of_ne hne]
      exact ih hn.2 he

end Entries

end Toml

namespace HealthSettings

def given (es : Entries) : HealthSettings :=
  let default : HealthSettings := {}
  { enabled := es.given "enabled" Value.boolean? default.enabled
    interval := es.given "interval_secs" Value.word64? default.interval
    timeout := es.given "timeout_secs" Value.word64? default.timeout
    unhealthyThreshold := es.given "unhealthy_threshold" Value.word32? default.unhealthyThreshold
    healthyThreshold := es.given "healthy_threshold" Value.word32? default.healthyThreshold }

structure Fit (es : Entries) : Prop where
  enabled : es.Fits "enabled" Value.boolean?
  interval : es.Fits "interval_secs" Value.word64?
  timeout : es.Fits "timeout_secs" Value.word64?
  unhealthyThreshold : es.Fits "unhealthy_threshold" Value.word32?
  healthyThreshold : es.Fits "healthy_threshold" Value.word32?

end HealthSettings

namespace ReportSettings

def given (es : Entries) : ReportSettings :=
  let default : ReportSettings := {}
  { logLevel := es.given "log_level" Value.text? default.logLevel
    logFormat := es.given "log_format" Value.logFormat? default.logFormat
    metricsEnabled := es.given "metrics_enabled" Value.boolean? default.metricsEnabled
    metricsAddress := es.given "metrics_address" Value.text? default.metricsAddress }

structure Fit (es : Entries) : Prop where
  logLevel : es.Fits "log_level" Value.text?
  logFormat : es.Fits "log_format" Value.logFormat?
  metricsEnabled : es.Fits "metrics_enabled" Value.boolean?
  metricsAddress : es.Fits "metrics_address" Value.text?

end ReportSettings

namespace Settings

def given (es : Entries) : Settings where
  endpoints := es.given "endpoints" Value.addresses? []
  health := .given (es.under "health_check")
  report := .given (es.under "observability")

/-- Whether every known key that is present has a value that fits, and every endpoint an address. -/
structure Fit (es : Entries) : Prop where
  endpoints : es.Fits "endpoints" Value.addresses?
  healthSection : es.Fits "health_check" Value.table?
  health : HealthSettings.Fit (es.under "health_check")
  reportSection : es.Fits "observability" Value.table?
  report : ReportSettings.Fit (es.under "observability")

/-- No key is named twice, sections and endpoints are not written as lists or dates, and the log
format is no table. -/
structure Usual (es : Entries) : Prop where
  keys : (es.map (·.1)).Nodup
  health : ∀ v, es.get? "health_check" = some v → v.Plain
  report : ∀ v, es.get? "observability" = some v → v.Plain
  endpoints : ∀ v items, es.get? "endpoints" = some v → v.items? = some items →
    ∀ item ∈ items, item.Plain
  logFormat : ∀ v, (es.under "observability").get? "log_format" = some v → v.table? = none

end Settings

namespace Schema

variable {σ α : Type}

theorem fromEntries_cons (schema : Schema σ) (start : σ) (e : String × Value) (es : Entries) :
    schema.fromEntries start (e :: es) =
      (schema.assign start e).bind fun r => schema.fromEntries r es := rfl

/-- A key stands for one field: its value is read into what `view` shows, and no other key changes
that. -/
structure Field (schema : Schema σ) (key : String) (read : Value → Decoded α) (view : σ → α) :
    Prop where
  sets : ∀ r v, (schema.assign r (key, v)).map view = read v
  keeps : ∀ r e r', e.1 ≠ key → schema.assign r e = .ok r' → view r' = view r

theorem assign_cases {schema : Schema σ} {r r' : σ} {e : String × Value}
    (h : schema.assign r e = .ok r') :
    r' = r ∨ ∃ f ∈ schema.fields, f.1 = e.1 ∧ f.2 r e.2 = .ok r' := by
  unfold assign at h
  split at h
  next set hs =>
    obtain ⟨before, after, hfields, -⟩ := List.lookup_eq_some_iff.mp hs
    exact .inr ⟨(e.1, set), by rw [hfields]; simp, rfl, h⟩
  next => cases h; exact .inl rfl

/-- Whether a value can be set under a key, whatever was set before. -/
def Takes (schema : Schema σ) (key : String) (v : Value) : Prop :=
  ∀ r, ∃ r', schema.assign r (key, v) = .ok r'

theorem takes_of_unknown {schema : Schema σ} {key : String}
    (h : key ∉ schema.fields.map (·.1)) (v : Value) : schema.Takes key v := by
  intro r
  have hnone : schema.fields.lookup key = none := by
    rw [List.lookup_eq_none_iff]
    intro f hf
    simpa using fun he : key = f.1 => h (he ▸ List.mem_map_of_mem hf)
  refine ⟨r, ?_⟩
  unfold assign
  rw [hnone]

theorem exists_fromEntries {schema : Schema σ} {es : Entries}
    (h : ∀ e ∈ es, schema.Takes e.1 e.2) (start : σ) : ∃ r, schema.fromEntries start es = .ok r := by
  induction es generalizing start with
  | nil => exact ⟨start, rfl⟩
  | cons e es ih =>
    rw [List.forall_mem_cons] at h
    obtain ⟨r, hr⟩ := h.1 start
    rw [fromEntries_cons, hr]
    exact ih h.2 r

/-- Entries are taken over as soon as what stands under each known key is. -/
theorem exists_fromEntries_of_known {schema : Schema σ} {es : Entries}
    (hn : (es.map (·.1)).Nodup)
    (h : ∀ key ∈ schema.fields.map (·.1), ∀ v, es.get? key = some v → schema.Takes key v)
    (start : σ) : ∃ r, schema.fromEntries start es = .ok r := by
  refine exists_fromEntries (fun e he => ?_) start
  by_cases hk : e.1 ∈ schema.fields.map (·.1)
  · exact h e.1 hk e.2 (Entries.get?_eq_some_of_mem hn he)
  · exact takes_of_unknown hk e.2

namespace Field

/-- It is enough that no field of another key changes what is shown. -/
theorem of_fields {schema : Schema σ} {key : String} {read : Value → Decoded α} {view : σ → α}
    (hs : ∀ r v, (schema.assign r (key, v)).map view = read v)
    (hk : ∀ f ∈ schema.fields, ∀ r v r', f.2 r v = .ok r' → f.1 ≠ key → view r' = view r) :
    schema.Field key read view where
  sets := hs
  keeps := by
    intro r e r' hne h
    rcases assign_cases h with rfl | ⟨f, hf, hfe, hset⟩
    · rfl
    · exact hk f hf r e.2 r' hset (hfe ▸ hne)

variable {schema : Schema σ} {key : String} {read : Value → Decoded α} {view : σ → α}
  {read? : Value → Option α} {es : Entries}

theorem takes (h : schema.Field key read view) {v : Value} {a : α} (hv : read v = .ok a) :
    schema.Takes key v := by
  intro r
  have hs := h.sets r v
  rw [hv] at hs
  cases ha : schema.assign r (key, v) with
  | error m => rw [ha] at hs; cases hs
  | ok r' => exact ⟨r', rfl⟩

/-- Once all entries are taken over, a field has what stands under its key. -/
theorem view_eq (h : schema.Field key read view) (hn : (es.map (·.1)).Nodup) {start r : σ}
    (hr : schema.fromEntries start es = .ok r)
    (hread : ∀ v, es.get? key = some v → (read v).toOption = read? v) :
    es.Fits key read? ∧ view r = es.given key read? (view start) := by
  have hset (r : σ) (v : Value) (r' : σ) (ha : schema.assign r (key, v) = .ok r') :
      read v = .ok (view r') := by
    rw [← h.sets r v, ha]
    rfl
  unfold Entries.Fits Entries.given
  rcases fromEntries_field schema view (Q := fun v a => read v = .ok a) h.keeps hset hn hr with
    ⟨hk, hv⟩ | ⟨v, hk, hv⟩
  · rw [hk, hv]
    exact ⟨nofun, rfl⟩
  · have hv? : read? v = some (view r) := by
      rw [← hread v hk, hv]
      rfl
    rw [hk]
    refine ⟨?_, by rw [Option.bind_some, hv?]; rfl⟩
    rintro _ ⟨⟩
    rw [hv?]
    rfl

theorem takes_of_fits (h : schema.Field key read view) (hfits : es.Fits key read?)
    (hread : ∀ v, es.get? key = some v → (read v).toOption = read? v) :
    ∀ v, es.get? key = some v → schema.Takes key v := by
  intro v hv
  have hsome := hfits v hv
  rw [← hread v hv] at hsome
  cases hr : read v with
  | error m => rw [hr] at hsome; cases hsome
  | ok a => exact h.takes hr

end Field

end Schema

namespace Decode

theorem toOption_boolean (v : Value) : (boolean v).toOption = v.boolean? := by
  cases v <;> rfl

theorem toOption_string (v : Value) : (string v).toOption = v.text? := by
  cases v <;> rfl

theorem toOption_natural (bits : Nat) (v : Value) :
    (natural bits v).toOption = v.below? (Nat.pow 2 bits : Nat) := by
  cases v with
  | integer n =>
    unfold natural Value.below?
    dsimp only
    split <;> rfl
  | _ => rfl

theorem toOption_map {α β : Type} (f : α → β) (o : Decoded α) :
    (f <$> o).toOption = o.toOption.map f := by
  cases o <;> rfl

theorem toOption_word64 (v : Value) : (UInt64.ofNat <$> natural 64 v).toOption = v.word64? := by
  rw [toOption_map, toOption_natural]
  rfl

theorem toOption_word32 (v : Value) : (UInt32.ofNat <$> natural 32 v).toOption = v.word32? := by
  rw [toOption_map, toOption_natural]
  rfl

theorem toOption_format {v : Value} (h : v.table? = none) :
    (format v).toOption = v.logFormat? := by
  cases v with
  | table o es => cases h
  | text s =>
    change (formatNamed s).toOption = if _ then _ else _
    unfold formatNamed
    split
    · rfl
    · split <;> rfl
  | _ => rfl

theorem toOption_eq_some_iff {α : Type} {o : Decoded α} {a : α} :
    o.toOption = some a ↔ o = .ok a := by
  cases o <;> simp [Except.toOption]

theorem keeps_of_health {f : String × (HealthSettings → Value → Decoded HealthSettings)}
    (hf : f ∈ healthSchema.fields) {h h' : HealthSettings} {v : Value} (hs : f.2 h v = .ok h') :
    (f.1 ≠ "enabled" → h'.enabled = h.enabled) ∧
      (f.1 ≠ "interval_secs" → h'.interval = h.interval) ∧
      (f.1 ≠ "timeout_secs" → h'.timeout = h.timeout) ∧
      (f.1 ≠ "unhealthy_threshold" → h'.unhealthyThreshold = h.unhealthyThreshold) ∧
      (f.1 ≠ "healthy_threshold" → h'.healthyThreshold = h.healthyThreshold) := by
  simp only [healthSchema, List.mem_cons, List.not_mem_nil, or_false] at hf
  rcases hf with rfl | rfl | rfl | rfl | rfl <;>
    · obtain ⟨x, -, rfl⟩ := exists_of_map hs
      simp

theorem enabled_field : healthSchema.Field "enabled" boolean HealthSettings.enabled := by
  refine .of_fields (fun h v => ?_) fun f hf h v h' hs => (keeps_of_health hf hs).1
  change Except.map _ (boolean v >>= _) = _
  cases boolean v <;> rfl

theorem interval_field :
    healthSchema.Field "interval_secs" (fun v => .ofNat <$> natural 64 v) HealthSettings.interval := by
  refine .of_fields (fun h v => ?_) fun f hf h v h' hs => (keeps_of_health hf hs).2.1
  change Except.map _ (natural 64 v >>= _) = _
  cases natural 64 v <;> rfl

theorem timeout_field :
    healthSchema.Field "timeout_secs" (fun v => .ofNat <$> natural 64 v) HealthSettings.timeout := by
  refine .of_fields (fun h v => ?_) fun f hf h v h' hs => (keeps_of_health hf hs).2.2.1
  change Except.map _ (natural 64 v >>= _) = _
  cases natural 64 v <;> rfl

theorem unhealthyThreshold_field : healthSchema.Field "unhealthy_threshold"
    (fun v => .ofNat <$> natural 32 v) HealthSettings.unhealthyThreshold := by
  refine .of_fields (fun h v => ?_) fun f hf h v h' hs => (keeps_of_health hf hs).2.2.2.1
  change Except.map _ (natural 32 v >>= _) = _
  cases natural 32 v <;> rfl

theorem healthyThreshold_field : healthSchema.Field "healthy_threshold"
    (fun v => .ofNat <$> natural 32 v) HealthSettings.healthyThreshold := by
  refine .of_fields (fun h v => ?_) fun f hf h v h' hs => (keeps_of_health hf hs).2.2.2.2
  change Except.map _ (natural 32 v >>= _) = _
  cases natural 32 v <;> rfl

theorem health_of_ok {es : Entries} (hn : (es.map (·.1)).Nodup) {h : HealthSettings}
    (hok : healthSchema.fromEntries {} es = .ok h) :
    HealthSettings.Fit es ∧ h = HealthSettings.given es := by
  obtain ⟨fe, he⟩ := enabled_field.view_eq hn hok fun v _ => toOption_boolean v
  obtain ⟨fi, hi⟩ := interval_field.view_eq hn hok fun v _ => toOption_word64 v
  obtain ⟨ft, ht⟩ := timeout_field.view_eq hn hok fun v _ => toOption_word64 v
  obtain ⟨fu, hu⟩ := unhealthyThreshold_field.view_eq hn hok fun v _ => toOption_word32 v
  obtain ⟨fh, hh⟩ := healthyThreshold_field.view_eq hn hok fun v _ => toOption_word32 v
  refine ⟨⟨fe, fi, ft, fu, fh⟩, ?_⟩
  cases h
  dsimp only at he hi ht hu hh
  subst he hi ht hu hh
  rfl

theorem health_eq_ok_iff {es : Entries} (hn : (es.map (·.1)).Nodup) {h : HealthSettings} :
    healthSchema.fromEntries {} es = .ok h ↔
      HealthSettings.Fit es ∧ h = HealthSettings.given es := by
  refine ⟨health_of_ok hn, ?_⟩
  rintro ⟨hf, rfl⟩
  have hkeys : healthSchema.fields.map (·.1) = ["enabled", "interval_secs", "timeout_secs",
    "unhealthy_threshold", "healthy_threshold"] := rfl
  have htakes : ∀ key ∈ healthSchema.fields.map (·.1), ∀ v, es.get? key = some v →
      healthSchema.Takes key v := by
    rw [hkeys]
    simp only [List.forall_mem_cons]
    exact ⟨enabled_field.takes_of_fits hf.enabled fun v _ => toOption_boolean v,
      interval_field.takes_of_fits hf.interval fun v _ => toOption_word64 v,
      timeout_field.takes_of_fits hf.timeout fun v _ => toOption_word64 v,
      unhealthyThreshold_field.takes_of_fits hf.unhealthyThreshold fun v _ => toOption_word32 v,
      healthyThreshold_field.takes_of_fits hf.healthyThreshold fun v _ => toOption_word32 v, nofun⟩
  obtain ⟨h, hok⟩ := Schema.exists_fromEntries_of_known hn htakes {}
  rw [hok, (health_of_ok hn hok).2]

theorem keeps_of_report {f : String × (ReportSettings → Value → Decoded ReportSettings)}
    (hf : f ∈ reportSchema.fields) {r r' : ReportSettings} {v : Value} (hs : f.2 r v = .ok r') :
    (f.1 ≠ "log_level" → r'.logLevel = r.logLevel) ∧
      (f.1 ≠ "log_format" → r'.logFormat = r.logFormat) ∧
      (f.1 ≠ "metrics_enabled" → r'.metricsEnabled = r.metricsEnabled) ∧
      (f.1 ≠ "metrics_address" → r'.metricsAddress = r.metricsAddress) := by
  simp only [reportSchema, List.mem_cons, List.not_mem_nil, or_false] at hf
  rcases hf with rfl | rfl | rfl | rfl <;>
    · obtain ⟨x, -, rfl⟩ := exists_of_map hs
      simp

theorem logLevel_field : reportSchema.Field "log_level" string ReportSettings.logLevel := by
  refine .of_fields (fun r v => ?_) fun f hf r v r' hs => (keeps_of_report hf hs).1
  change Except.map _ (string v >>= _) = _
  cases string v <;> rfl

theorem logFormat_field : reportSchema.Field "log_format" format ReportSettings.logFormat := by
  refine .of_fields (fun r v => ?_) fun f hf r v r' hs => (keeps_of_report hf hs).2.1
  change Except.map _ (format v >>= _) = _
  cases format v <;> rfl

theorem metricsEnabled_field :
    reportSchema.Field "metrics_enabled" boolean ReportSettings.metricsEnabled := by
  refine .of_fields (fun r v => ?_) fun f hf r v r' hs => (keeps_of_report hf hs).2.2.1
  change Except.map _ (boolean v >>= _) = _
  cases boolean v <;> rfl

theorem metricsAddress_field :
    reportSchema.Field "metrics_address" string ReportSettings.metricsAddress := by
  refine .of_fields (fun r v => ?_) fun f hf r v r' hs => (keeps_of_report hf hs).2.2.2
  change Except.map _ (string v >>= _) = _
  cases string v <;> rfl

section

variable {es : Entries} (hn : (es.map (·.1)).Nodup)
  (hl : ∀ v, es.get? "log_format" = some v → v.table? = none)
include hn hl

theorem report_of_ok {r : ReportSettings} (hok : reportSchema.fromEntries {} es = .ok r) :
    ReportSettings.Fit es ∧ r = ReportSettings.given es := by
  obtain ⟨fl, hv⟩ := logLevel_field.view_eq hn hok fun v _ => toOption_string v
  obtain ⟨ff, hf⟩ := logFormat_field.view_eq hn hok fun v hv => toOption_format (hl v hv)
  obtain ⟨fe, he⟩ := metricsEnabled_field.view_eq hn hok fun v _ => toOption_boolean v
  obtain ⟨fa, ha⟩ := metricsAddress_field.view_eq hn hok fun v _ => toOption_string v
  refine ⟨⟨fl, ff, fe, fa⟩, ?_⟩
  cases r
  dsimp only at hv hf he ha
  subst hv hf he ha
  rfl

theorem report_eq_ok_iff {r : ReportSettings} :
    reportSchema.fromEntries {} es = .ok r ↔
      ReportSettings.Fit es ∧ r = ReportSettings.given es := by
  refine ⟨report_of_ok hn hl, ?_⟩
  rintro ⟨hf, rfl⟩
  have hkeys : reportSchema.fields.map (·.1) =
    ["log_level", "log_format", "metrics_enabled", "metrics_address"] := rfl
  have htakes : ∀ key ∈ reportSchema.fields.map (·.1), ∀ v, es.get? key = some v →
      reportSchema.Takes key v := by
    rw [hkeys]
    simp only [List.forall_mem_cons]
    exact ⟨logLevel_field.takes_of_fits hf.logLevel fun v _ => toOption_string v,
      logFormat_field.takes_of_fits hf.logFormat fun v hv => toOption_format (hl v hv),
      metricsEnabled_field.takes_of_fits hf.metricsEnabled fun v _ => toOption_boolean v,
      metricsAddress_field.takes_of_fits hf.metricsAddress fun v _ => toOption_string v, nofun⟩
  obtain ⟨r, hok⟩ := Schema.exists_fromEntries_of_known hn htakes {}
  rw [hok, (report_of_ok hn hl hok).2]

end

theorem address_field : endpointSchema.Field "address" (fun v => some <$> string v) id := by
  refine .of_fields (fun a v => ?_) fun f hf a v a' _ hne => ?_
  · change Except.map id (some <$> string v) = _
    cases string v <;> rfl
  · rw [List.mem_singleton.mp hf] at hne
    exact absurd rfl hne

theorem toOption_endpoint_table {es : Entries} (hn : (es.map (·.1)).Nodup) (o : Origin) :
    (endpoint (.table o es)).toOption = (es.get? "address").bind Value.text? := by
  have hread (v : Value) (_ : es.get? "address" = some v) :
      (some <$> string v).toOption = v.text?.map some := by rw [toOption_map, toOption_string]
  change ((endpointSchema.fromEntries none es).bind _).toOption = _
  cases hd : endpointSchema.fromEntries none es with
  | ok a? =>
    have ha := (address_field.view_eq hn hd hread).2
    change a? = ((es.get? "address").bind fun v => v.text?.map some).getD none at ha
    rw [ha]
    cases es.get? "address" with
    | none => rfl
    | some v => cases hv : v.text? <;> simp [hv, Except.bind, Except.toOption]
  | error m =>
    -- An address that fits would have been taken over.
    by_contra hne
    have hfits : es.Fits "address" fun v => v.text?.map some := by
      intro v hv
      rw [Option.isSome_map]
      rw [hv] at hne
      exact Option.isSome_iff_ne_none.mpr (Ne.symm hne)
    have htakes : ∀ key ∈ endpointSchema.fields.map (·.1), ∀ v, es.get? key = some v →
        endpointSchema.Takes key v := by
      rintro key hkey
      rw [List.mem_singleton.mp hkey]
      exact address_field.takes_of_fits hfits hread
    obtain ⟨a?, ha⟩ := Schema.exists_fromEntries_of_known hn htakes none
    rw [hd] at ha
    cases ha

theorem toOption_endpoint {v : Value} (h : v.Plain) : (endpoint v).toOption = v.address? := by
  obtain ⟨hitems, hdate, hnodup⟩ := h
  cases v with
  | array items => cases hitems
  | blocks ts => cases hitems
  | moment => exact absurd rfl hdate
  | table o es => exact toOption_endpoint_table (hnodup es rfl) o
  | _ => rfl

theorem toOption_mapM {α β : Type} {f : α → Decoded β} {g : α → Option β} {as : List α}
    (h : ∀ a ∈ as, (f a).toOption = g a) : (as.mapM f).toOption = as.mapM g := by
  induction as with
  | nil => rfl
  | cons a as ih =>
    rw [List.forall_mem_cons] at h
    rw [List.mapM_cons, List.mapM_cons, ← h.1, ← ih h.2]
    cases f a with
    | error m => rfl
    | ok b => cases as.mapM f <;> rfl

theorem toOption_endpoints {v : Value}
    (h : ∀ items, v.items? = some items → ∀ item ∈ items, item.Plain) :
    (endpoints v).toOption = v.addresses? := by
  cases v with
  | array items => exact toOption_mapM fun item hi => toOption_endpoint (h items rfl item hi)
  | blocks ts => exact toOption_mapM fun item hi => toOption_endpoint (h _ rfl item hi)
  | _ => rfl

/-- A section that is neither a list nor a date is a table, or does not fit. -/
theorem toOption_decode {σ : Type} (schema : Schema σ) (start : σ) {v : Value} (h : v.Plain) :
    (schema.decode start v).toOption = v.table?.bind fun es =>
      (schema.fromEntries start es).toOption := by
  obtain ⟨hitems, hdate, -⟩ := h
  cases v with
  | array items => cases hitems
  | blocks ts => cases hitems
  | moment => exact absurd rfl hdate
  | _ => rfl

section

variable {σ : Type} {schema : Schema σ} {start : σ} {F : Entries → Prop} {g : Entries → σ}
  {es : Entries} {key : String}
  (h : ∀ r, schema.fromEntries start (es.under key) = .ok r ↔
    F (es.under key) ∧ r = g (es.under key))
include h

/-- What a section gives once it is known what its entries give. -/
theorem section_eq_some_iff {v : Value} (hv : es.get? key = some v) {s : σ} :
    (v.table?.bind fun sub => (schema.fromEntries start sub).toOption) = some s ↔
      v.table?.isSome = true ∧ F (es.under key) ∧ s = g (es.under key) := by
  cases ht : v.table? with
  | none => simp
  | some sub =>
    have hsub : es.under key = sub := by
      unfold Entries.under Entries.given
      rw [hv, Option.bind_some, ht, Option.getD_some]
    rw [hsub] at h ⊢
    rw [Option.bind_some, toOption_eq_some_iff, h]
    simp

theorem section_of_absent (hv : es.get? key = none) : F (es.under key) ∧ start = g (es.under key) := by
  have hsub : es.under key = [] := by
    unfold Entries.under Entries.given
    rw [hv]
    rfl
  rw [← h, hsub]
  rfl

theorem fits_section_iff :
    (es.Fits key fun v => v.table?.bind fun sub => (schema.fromEntries start sub).toOption) ↔
      es.Fits key Value.table? ∧ F (es.under key) := by
  unfold Entries.Fits
  cases hv : es.get? key with
  | none => simp [(section_of_absent h hv).1]
  | some v =>
    simp only [Option.some.injEq, forall_eq']
    rw [Option.isSome_iff_exists]
    simp only [section_eq_some_iff h hv, exists_and_left, exists_eq, and_true]

theorem given_section (hf : es.Fits key Value.table? ∧ F (es.under key)) :
    es.given key (fun v => v.table?.bind fun sub => (schema.fromEntries start sub).toOption) start =
      g (es.under key) := by
  unfold Entries.given
  cases hv : es.get? key with
  | none => exact (section_of_absent h hv).2
  | some v =>
    have hsome := (section_eq_some_iff h hv).mpr ⟨hf.1 v hv, hf.2, rfl⟩
    rw [Option.bind_some, hsome, Option.getD_some]

end

theorem keeps_of_settings {f : String × (Settings → Value → Decoded Settings)}
    (hf : f ∈ settingsSchema.fields) {s s' : Settings} {v : Value} (hs : f.2 s v = .ok s') :
    (f.1 ≠ "endpoints" → s'.endpoints = s.endpoints) ∧
      (f.1 ≠ "health_check" → s'.health = s.health) ∧
      (f.1 ≠ "observability" → s'.report = s.report) := by
  simp only [settingsSchema, List.mem_cons, List.not_mem_nil, or_false] at hf
  rcases hf with rfl | rfl | rfl <;>
    · obtain ⟨x, -, rfl⟩ := exists_of_map hs
      simp

theorem endpoints_field : settingsSchema.Field "endpoints" endpoints Settings.endpoints := by
  refine .of_fields (fun s v => ?_) fun f hf s v s' hs => (keeps_of_settings hf hs).1
  change Except.map _ (endpoints v >>= _) = _
  cases endpoints v <;> rfl

theorem health_field :
    settingsSchema.Field "health_check" (healthSchema.decode {}) Settings.health := by
  refine .of_fields (fun s v => ?_) fun f hf s v s' hs => (keeps_of_settings hf hs).2.1
  change Except.map _ (healthSchema.decode {} v >>= _) = _
  cases healthSchema.decode {} v <;> rfl

theorem report_field :
    settingsSchema.Field "observability" (reportSchema.decode {}) Settings.report := by
  refine .of_fields (fun s v => ?_) fun f hf s v s' hs => (keeps_of_settings hf hs).2.2
  change Except.map _ (reportSchema.decode {} v >>= _) = _
  cases reportSchema.decode {} v <;> rfl

theorem nodup_under {es : Entries} {key : String} (hp : ∀ v, es.get? key = some v → v.Plain) :
    ((es.under key).map (·.1)).Nodup := by
  unfold Entries.under Entries.given
  cases hv : es.get? key with
  | none => exact List.nodup_nil
  | some v =>
    rw [Option.bind_some]
    cases ht : v.table? with
    | none => exact List.nodup_nil
    | some sub => exact (hp v hv).2.2 sub ht

section

variable {es : Entries} (h : Settings.Usual es)
include h

theorem health_under_iff (r : HealthSettings) :
    healthSchema.fromEntries {} (es.under "health_check") = .ok r ↔
      HealthSettings.Fit (es.under "health_check") ∧
        r = HealthSettings.given (es.under "health_check") :=
  health_eq_ok_iff (nodup_under h.health)

theorem report_under_iff (r : ReportSettings) :
    reportSchema.fromEntries {} (es.under "observability") = .ok r ↔
      ReportSettings.Fit (es.under "observability") ∧
        r = ReportSettings.given (es.under "observability") :=
  report_eq_ok_iff (nodup_under h.report) h.logFormat

theorem settings_of_ok {s : Settings} (hok : settingsSchema.fromEntries {} es = .ok s) :
    Settings.Fit es ∧ s = Settings.given es := by
  obtain ⟨fe, he⟩ := endpoints_field.view_eq h.keys hok fun v hv => toOption_endpoints fun items =>
    h.endpoints v items hv
  obtain ⟨fh, hh⟩ := health_field.view_eq h.keys hok fun v hv => toOption_decode _ _ (h.health v hv)
  obtain ⟨fr, hr⟩ := report_field.view_eq h.keys hok fun v hv => toOption_decode _ _ (h.report v hv)
  have fh := (fits_section_iff (health_under_iff h)).mp fh
  have fr := (fits_section_iff (report_under_iff h)).mp fr
  rw [given_section (health_under_iff h) fh] at hh
  rw [given_section (report_under_iff h) fr] at hr
  refine ⟨⟨fe, fh.1, fh.2, fr.1, fr.2⟩, ?_⟩
  cases s
  dsimp only at he hh hr
  subst he hh hr
  rfl

/-- A table gives settings exactly if all of it fits, and then the ones that it describes. -/
theorem settings_eq_ok_iff {s : Settings} :
    Settings.ofEntries es = .ok s ↔ Settings.Fit es ∧ s = Settings.given es := by
  refine ⟨settings_of_ok h, ?_⟩
  rintro ⟨hf, rfl⟩
  have hkeys : settingsSchema.fields.map (·.1) = ["endpoints", "health_check", "observability"] := rfl
  have htakes : ∀ key ∈ settingsSchema.fields.map (·.1), ∀ v, es.get? key = some v →
      settingsSchema.Takes key v := by
    rw [hkeys]
    simp only [List.forall_mem_cons]
    exact ⟨endpoints_field.takes_of_fits hf.endpoints fun v hv => toOption_endpoints fun items =>
        h.endpoints v items hv,
      health_field.takes_of_fits ((fits_section_iff (health_under_iff h)).mpr
        ⟨hf.healthSection, hf.health⟩) fun v hv => toOption_decode _ _ (h.health v hv),
      report_field.takes_of_fits ((fits_section_iff (report_under_iff h)).mpr
        ⟨hf.reportSection, hf.report⟩) fun v hv => toOption_decode _ _ (h.report v hv), nofun⟩
  obtain ⟨s, hok⟩ := Schema.exists_fromEntries_of_known h.keys htakes {}
  change settingsSchema.fromEntries {} es = _
  rw [hok, (settings_of_ok h hok).2]

end

end Decode

namespace Toml

theorem Value.word64?_toNat (n : UInt64) : (Value.integer n.toNat).word64? = some n := by
  have hlt := n.toNat_lt
  unfold word64? below?
  dsimp only
  rw [if_pos (by omega), Int.toNat_natCast, Option.map_some, UInt64.ofNat_toNat]

theorem Value.word32?_toNat (n : UInt32) : (Value.integer n.toNat).word32? = some n := by
  have hlt := n.toNat_lt
  unfold word32? below?
  dsimp only
  rw [if_pos (by omega), Int.toNat_natCast, Option.map_some, UInt32.ofNat_toNat]

theorem Value.addresses?_blocks (as : List String) :
    (Value.blocks (as.map fun a => [("address", .text a)])).addresses? = some as := by
  unfold addresses? items?
  rw [Option.bind_some]
  induction as with
  | nil => rfl
  | cons a as ih =>
    rw [List.map_cons, List.map_cons, List.mapM_cons, ih]
    rfl

theorem Entries.fits_and_given {α : Type} (es : Entries) (key : String) (read? : Value → Option α)
    {v : Value} {a : α} (hv : es.get? key = some v) (ha : read? v = some a) (default : α) :
    es.Fits key read? ∧ es.given key read? default = a := by
  unfold Fits given
  rw [hv, Option.bind_some, ha]
  refine ⟨?_, rfl⟩
  rintro _ ⟨⟩
  rw [ha]
  rfl

end Toml

def LogFormat.name : LogFormat → String
  | .pretty => "pretty"
  | .json => "json"

theorem LogFormat.logFormat?_name (f : LogFormat) :
    (Value.text f.name).logFormat? = some f := by
  cases f <;> rfl

namespace HealthSettings

def toEntries (h : HealthSettings) : Entries :=
  [("enabled", .boolean h.enabled), ("interval_secs", .integer h.interval.toNat),
    ("timeout_secs", .integer h.timeout.toNat),
    ("unhealthy_threshold", .integer h.unhealthyThreshold.toNat),
    ("healthy_threshold", .integer h.healthyThreshold.toNat)]

theorem fit_toEntries (h : HealthSettings) : Fit h.toEntries ∧ given h.toEntries = h := by
  obtain ⟨fe, he⟩ := Entries.fits_and_given h.toEntries "enabled" Value.boolean? rfl rfl true
  obtain ⟨fi, hi⟩ := Entries.fits_and_given h.toEntries "interval_secs" _ rfl
    (Value.word64?_toNat h.interval) 10
  obtain ⟨ft, ht⟩ := Entries.fits_and_given h.toEntries "timeout_secs" _ rfl
    (Value.word64?_toNat h.timeout) 5
  obtain ⟨fu, hu⟩ := Entries.fits_and_given h.toEntries "unhealthy_threshold" _ rfl
    (Value.word32?_toNat h.unhealthyThreshold) 3
  obtain ⟨fh, hh⟩ := Entries.fits_and_given h.toEntries "healthy_threshold" _ rfl
    (Value.word32?_toNat h.healthyThreshold) 2
  refine ⟨⟨fe, fi, ft, fu, fh⟩, ?_⟩
  unfold given
  dsimp only
  rw [he, hi, ht, hu, hh]

end HealthSettings

namespace ReportSettings

def toEntries (r : ReportSettings) : Entries :=
  [("log_level", .text r.logLevel), ("log_format", .text r.logFormat.name),
    ("metrics_enabled", .boolean r.metricsEnabled), ("metrics_address", .text r.metricsAddress)]

theorem fit_toEntries (r : ReportSettings) : Fit r.toEntries ∧ given r.toEntries = r := by
  obtain ⟨fl, hl⟩ := Entries.fits_and_given r.toEntries "log_level" Value.text? rfl rfl "info"
  obtain ⟨ff, hf⟩ := Entries.fits_and_given r.toEntries "log_format" _ rfl
    (LogFormat.logFormat?_name r.logFormat) .pretty
  obtain ⟨fe, he⟩ := Entries.fits_and_given r.toEntries "metrics_enabled" Value.boolean? rfl rfl false
  obtain ⟨fa, ha⟩ := Entries.fits_and_given r.toEntries "metrics_address" Value.text? rfl rfl
    "127.0.0.1:9090"
  refine ⟨⟨fl, ff, fe, fa⟩, ?_⟩
  unfold given
  dsimp only
  rw [hl, hf, he, ha]

end ReportSettings

namespace Settings

def toEntries (s : Settings) : Entries :=
  [("endpoints", .blocks (s.endpoints.map fun a => [("address", .text a)])),
    ("health_check", .table .header s.health.toEntries),
    ("observability", .table .header s.report.toEntries)]

theorem fit_toEntries (s : Settings) : Fit s.toEntries ∧ given s.toEntries = s := by
  obtain ⟨fh, hh⟩ := s.health.fit_toEntries
  obtain ⟨fr, hr⟩ := s.report.fit_toEntries
  obtain ⟨fe, he⟩ := Entries.fits_and_given s.toEntries "endpoints" _ rfl
    (Value.addresses?_blocks s.endpoints) []
  have fhs := (Entries.fits_and_given s.toEntries "health_check" Value.table? rfl rfl []).1
  have frs := (Entries.fits_and_given s.toEntries "observability" Value.table? rfl rfl []).1
  refine ⟨⟨fe, fhs, fh, frs, fr⟩, ?_⟩
  change (⟨s.toEntries.given "endpoints" _ [], .given s.health.toEntries, .given s.report.toEntries⟩ :
    Settings) = s
  rw [he, hh, hr]

theorem usual_toEntries (s : Settings) : Usual s.toEntries where
  keys := by
    change ["endpoints", "health_check", "observability"].Nodup
    decide
  health := by
    rintro _ ⟨⟩
    refine ⟨rfl, nofun, ?_⟩
    rintro _ ⟨⟩
    change ["enabled", "interval_secs", "timeout_secs", "unhealthy_threshold",
      "healthy_threshold"].Nodup
    decide
  report := by
    rintro _ ⟨⟩
    refine ⟨rfl, nofun, ?_⟩
    rintro _ ⟨⟩
    change ["log_level", "log_format", "metrics_enabled", "metrics_address"].Nodup
    decide
  endpoints := by
    rintro _ _ ⟨⟩ ⟨⟩ item hitem
    rw [List.map_map, List.mem_map] at hitem
    obtain ⟨a, -, rfl⟩ := hitem
    refine ⟨rfl, nofun, ?_⟩
    rintro _ ⟨⟩
    exact List.nodup_singleton "address"
  logFormat := by
    rintro _ ⟨⟩
    rfl

/-- A document of which everything fits gives the defaults with the keys that are present in their
place, whatever their order and whatever else there is; these settings are loaded if they pass the
check, and else all their faults are reported. Where something does not fit, that is the error.
Settings that are written out are read again as they were. -/
theorem ofDocument_of_usual :
    (∀ es, Usual es →
      (Fit es → ofEntries es = .ok (given es) ∧
        (∀ s, ofDocument es = .ok s ↔ (given es).accepted = true ∧ s = given es) ∧
        ((given es).accepted = false → ofDocument es = .error (.rejected (given es).faults))) ∧
      (¬ Fit es → ∃ m, ofEntries es = .error m ∧ ofDocument es = .error (.misfit m)) ∧
      ∀ t, document? t = some es → ofText t = ofDocument es) ∧
    ∀ s : Settings, Usual s.toEntries ∧ Fit s.toEntries ∧ ofEntries s.toEntries = .ok s := by
  -- The decoding is settled by the fields; what is left is whether the settings pass the check.
  refine ⟨fun es hu => ⟨fun hf => ?_, fun hf => ?_, fun t ht => ?_⟩, fun s => ?_⟩
  · have hok := (Decode.settings_eq_ok_iff hu).mpr ⟨hf, rfl⟩
    have hdoc : ofDocument es = (given es).checked := by
      unfold ofDocument
      rw [hok]
    refine ⟨hok, fun s => ?_, fun ha => ?_⟩
    · rw [hdoc]
      unfold checked accepted
      cases (given es).faults with
      | nil => simp [eq_comm]
      | cons f fs => simp
    · rw [hdoc]
      unfold accepted at ha
      unfold checked
      cases hfaults : (given es).faults with
      | nil => rw [hfaults] at ha; cases ha
      | cons f fs => rfl
  · cases he : ofEntries es with
    | ok s => exact absurd ((Decode.settings_eq_ok_iff hu).mp he).1 hf
    | error m =>
      refine ⟨m, rfl, ?_⟩
      unfold ofDocument
      rw [he]
  · unfold ofText
    rw [ht]
  · obtain ⟨hf, hg⟩ := s.fit_toEntries
    refine ⟨s.usual_toEntries, hf, ?_⟩
    rw [Decode.settings_eq_ok_iff s.usual_toEntries]
    exact ⟨hf, hg.symm⟩

/-- A document with few of the settings, in another order and among other keys. -/
def fewSettings : Entries :=
  [("observability", .table .header [("colour", .integer 3), ("log_format", .text "json")]),
    ("title", .moment),
    ("endpoints", .array
      [.table .braces [("weight", .integer 1), ("address", .text "b:1")],
        .table .braces [("address", .text "a:1")]])]

/-- The settings that are not there have their defaults. -/
theorem ofDocument_of_usual_of_few :
    Usual fewSettings ∧ Fit fewSettings ∧
      ofDocument fewSettings =
        .ok { endpoints := ["b:1", "a:1"], report := { logFormat := .json } } := by
  have hplain (o : Origin) (sub : Entries) (hn : (sub.map (·.1)).Nodup) : (Value.table o sub).Plain :=
    ⟨rfl, nofun, by rintro _ ⟨⟩; exact hn⟩
  have hu : Usual fewSettings := by
    refine ⟨by decide, nofun, ?_, ?_, ?_⟩
    · rintro _ ⟨⟩
      exact hplain _ _ (by decide)
    · rintro _ _ ⟨⟩ ⟨⟩
      simp only [List.forall_mem_cons]
      exact ⟨hplain _ _ (by decide), hplain _ _ (by decide), nofun⟩
    · rintro _ ⟨⟩
      rfl
  have hf : Fit fewSettings := by
    refine ⟨by decide, by decide, ⟨?_, ?_, ?_, ?_, ?_⟩, by decide, ⟨?_, ?_, ?_, ?_⟩⟩ <;> decide
  obtain ⟨hfit, -, -⟩ := ofDocument_of_usual.1 fewSettings hu
  exact ⟨hu, hf, ((hfit hf).2.1 _).mpr ⟨by cbv, rfl⟩⟩

end Settings

end RelayRoster
