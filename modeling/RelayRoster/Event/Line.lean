import RelayRoster.Event.Basic
import RelayRoster.Settings.Basic
import RelayRoster.Text.Json
import RelayRoster.Text.Time

namespace RelayRoster.Event
open Text

def summary (e : Event) : String :=
  e.message ++ String.join (e.fields.map fun (name, value) => " " ++ name ++ "=" ++ value.display)

def line (e : Event) : String := e.level.name ++ " " ++ e.summary

def Field.json : Field → String
  | .number n => toString n
  | .truth b => if b then "true" else "false"
  | .text s => jsonString s

def prettyLine (time : String) (e : Event) : String :=
  let level := e.level.name
  let pad := String.ofList (List.replicate (5 - level.length) ' ')
  time ++ " " ++ pad ++ level ++ " " ++ e.target ++ ": " ++ e.summary

def jsonLine (time : String) (e : Event) : String :=
  let fields := ("message", jsonString e.message) :: e.fields.map fun (k, v) => (k, v.json)
  jsonObject
    [("timestamp", jsonString time), ("level", jsonString e.level.name),
      ("fields", jsonObject fields), ("target", jsonString e.target)]

def writtenLine (format : LogFormat) (time : String) (e : Event) : String :=
  match format with
  | .pretty => e.prettyLine time
  | .json => e.jsonLine time

end RelayRoster.Event
