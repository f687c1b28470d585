import RelayRoster.Settings.Basic
import RelayRoster.Text.Quoted
import RelayRoster.Toml.Value

namespace RelayRoster
open Toml Text

inductive Wanted where
  | natural (bits : Nat)
  | boolean
  | string
  | sequence
  | record (name : String)
  deriving DecidableEq, Repr

inductive Misfit where
  | kind (found : Value) (wanted : Wanted)
  | range (n : Int) (bits : Nat)
  | noAddress
  | emptyEndpoint
  | unknownFormat (name : String)
  | formatKind
  | formatEmpty
  | formatMany
  | formatNotTable (found : Value)
  | formatNotEmpty
  | formatBlocks
  deriving Repr

namespace Misfit

def wantedText : Wanted → String
  | .natural bits => "u" ++ toString bits
  | .boolean => "a boolean"
  | .string => "a string"
  | .sequence => "a sequence"
  | .record name => "struct " ++ name

def ticked (s : String) : String := "\x60" ++ s ++ "\x60"

def foundText : Value → String
  | .text s => "string " ++ quoted s
  | .integer n => "integer " ++ ticked (toString n)
  | .float x => "floating point " ++ ticked x.text
  | .boolean b => "boolean " ++ ticked (if b then "true" else "false")
  | .moment => "map"
  | .array _ => "sequence"
  | .blocks _ => "sequence"
  | .table _ _ => "map"

def kindName : Value → String
  | .text _ => "string"
  | .integer _ => "integer"
  | .float _ => "float"
  | .boolean _ => "boolean"
  | .moment => "datetime"
  | .array _ => "array"
  | .blocks _ => "array of tables"
  | .table _ _ => "table"

def message : Misfit → String
  | .kind found wanted => "invalid type: " ++ foundText found ++ ", expected " ++ wantedText wanted
  | .range n bits =>
    "invalid value: integer " ++ ticked (toString n) ++ ", expected " ++ wantedText (.natural bits)
  | .noAddress => "missing field " ++ ticked "address"
  | .emptyEndpoint => "invalid length 0, expected struct EndpointConfig with 1 element"
  | .unknownFormat name =>
    "unknown variant " ++ ticked name ++ ", expected " ++ ticked "pretty" ++ " or " ++ ticked "json"
  | .formatKind => "wanted string or table"
  | .formatEmpty => "wanted exactly 1 element, found 0 elements"
  | .formatMany => "wanted exactly 1 element, more than 1 element"
  | .formatNotTable found => "expected table, found " ++ kindName found
  | .formatNotEmpty => "expected empty table"
  | .formatBlocks => "expected empty array"

end Misfit

abbrev Decoded (α : Type) := Except Misfit α

/-- A record as its fields in the order in which an array gives them, each with what it sets. -/
structure Schema (σ : Type) where
  name : String
  fields : List (String × (σ → Value → Decoded σ))

namespace Schema

/-- Sets the field of a key, if there is one. -/
def assign (schema : Schema σ) (record : σ) (entry : String × Value) : Decoded σ :=
  match schema.fields.lookup entry.1 with
  | some set => set record entry.2
  | none => .ok record

def fromEntries (schema : Schema σ) (start : σ) (es : Entries) : Decoded σ :=
  es.foldlM schema.assign start

/-- Values beyond the last field are ignored. -/
def fromItems (schema : Schema σ) (start : σ) (items : List Value) : Decoded σ :=
  (schema.fields.zip items).foldlM (fun record (field, v) => field.2 record v) start

/-- A record is a table or an array of its fields; a date counts as a table without any of them. -/
def decode (schema : Schema σ) (start : σ) : Value → Decoded σ
  | .table _ es => schema.fromEntries start es
  | .moment => .ok start
  | .array items => schema.fromItems start items
  | .blocks tables => schema.fromItems start (tables.map (.table .header))
  | v => .error (.kind v (.record schema.name))

end Schema

namespace Decode

def boolean : Value → Decoded Bool
  | .boolean b => .ok b
  | v => .error (.kind v .boolean)

def string : Value → Decoded String
  | .text s => .ok s
  | v => .error (.kind v .string)

def natural (bits : Nat) : Value → Decoded Nat
  | .integer n => if 0 ≤ n ∧ n < Nat.pow 2 bits then .ok n.toNat else .error (.range n bits)
  | v => .error (.kind v (.natural bits))

def formatNamed (name : String) : Decoded LogFormat :=
  if name = "pretty" then .ok .pretty
  else if name = "json" then .ok .json
  else .error (.unknownFormat name)

def emptyBody : Value → Decoded Unit
  | .table _ [] => .ok ()
  | .array [] => .ok ()
  | .table _ _ => .error .formatNotEmpty
  | .array _ => .error .formatNotEmpty
  | .blocks _ => .error .formatBlocks
  | v => .error (.formatNotTable v)

/-- A format is its name, or a table with the name as its only key and nothing under it. -/
def format : Value → Decoded LogFormat
  | .text name => formatNamed name
  | .table _ [] => .error .formatEmpty
  | .table _ [(name, body)] => do
    let f ← formatNamed name
    emptyBody body
    return f
  | .table _ _ => .error .formatMany
  | _ => .error .formatKind

def endpointSchema : Schema (Option String) :=
  ⟨"EndpointConfig", [("address", fun _ v => some <$> string v)]⟩

def endpoint (v : Value) : Decoded String :=
  match v with
  | .array [] => .error .emptyEndpoint
  | v => do
    match ← endpointSchema.decode none v with
    | some address => .ok address
    | none => .error .noAddress

def endpoints : Value → Decoded (List String)
  | .array items => items.mapM endpoint
  | .blocks tables => (tables.map (.table .header)).mapM endpoint
  | v => .error (.kind v .sequence)

def healthSchema : Schema HealthSettings where
  name := "HealthCheckConfig"
  fields :=
    [("enabled", fun h v => return { h with enabled := ← boolean v }),
      ("interval_secs", fun h v => return { h with interval := UInt64.ofNat (← natural 64 v) }),
      ("timeout_secs", fun h v => return { h with timeout := UInt64.ofNat (← natural 64 v) }),
      ("unhealthy_threshold",
        fun h v => return { h with unhealthyThreshold := UInt32.ofNat (← natural 32 v) }),
      ("healthy_threshold",
        fun h v => return { h with healthyThreshold := UInt32.ofNat (← natural 32 v) })]

def reportSchema : Schema ReportSettings where
  name := "ObservabilityConfig"
  fields :=
    [("log_level", fun r v => return { r with logLevel := ← string v }),
      ("log_format", fun r v => return { r with logFormat := ← format v }),
      ("metrics_enabled", fun r v => return { r with metricsEnabled := ← boolean v }),
      ("metrics_address", fun r v => return { r with metricsAddress := ← string v })]

def settingsSchema : Schema Settings where
  name := "Settings"
  fields :=
    [("endpoints", fun s v => return { s with endpoints := ← endpoints v }),
      ("health_check", fun s v => return { s with health := ← healthSchema.decode {} v }),
      ("observability", fun s v => return { s with report := ← reportSchema.decode {} v })]

end Decode

def Settings.ofEntries (es : Toml.Entries) : Decoded Settings :=
  Decode.settingsSchema.fromEntries {} es

end RelayRoster
