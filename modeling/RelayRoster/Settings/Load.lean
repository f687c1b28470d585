import RelayRoster.Settings.Check
import RelayRoster.Settings.Decode
import RelayRoster.Toml.Document

namespace RelayRoster

inductive FileError where
  | notFound
  | permissionDenied
  | busy
  | alreadyExists
  | notDirectory
  | isDirectory
  | invalidArgument
  | nameTooLong
  | notEmpty
  | nulInPath
  | notUtf8
  deriving DecidableEq, Repr

namespace FileError

/-- The system's number, for the errors that it reports itself. -/
def code? : FileError → Option Nat
  | .notFound => some 2
  | .permissionDenied => some 13
  | .busy => some 16
  | .alreadyExists => some 17
  | .notDirectory => some 20
  | .isDirectory => some 21
  | .invalidArgument => some 22
  | .nameTooLong => some 36
  | .notEmpty => some 39
  | .nulInPath | .notUtf8 => none

def kind : FileError → String
  | .notFound => "NotFound"
  | .permissionDenied => "PermissionDenied"
  | .busy => "ResourceBusy"
  | .alreadyExists => "AlreadyExists"
  | .notDirectory => "NotADirectory"
  | .isDirectory => "IsADirectory"
  | .invalidArgument | .nulInPath => "InvalidInput"
  | .nameTooLong => "InvalidFilename"
  | .notEmpty => "DirectoryNotEmpty"
  | .notUtf8 => "InvalidData"

def wording : FileError → String
  | .notFound => "No such file or directory"
  | .permissionDenied => "Permission denied"
  | .busy => "Device or resource busy"
  | .alreadyExists => "File exists"
  | .notDirectory => "Not a directory"
  | .isDirectory => "Is a directory"
  | .invalidArgument => "Invalid argument"
  | .nameTooLong => "File name too long"
  | .notEmpty => "Directory not empty"
  | .nulInPath => "file name contained an unexpected NUL byte"
  | .notUtf8 => "stream did not contain valid UTF-8"

def message (e : FileError) : String :=
  match e.code? with
  | some code => e.wording ++ " (os error " ++ toString code ++ ")"
  | none => e.wording

def detail (e : FileError) : String :=
  let rest := "kind: " ++ e.kind ++ ", message: \"" ++ e.wording ++ "\" \x7d"
  match e.code? with
  | some code => "Os \x7b code: " ++ toString code ++ ", " ++ rest
  | none => "Error \x7b " ++ rest

end FileError

inductive LoadError where
  | unreadable (e : FileError)
  | malformed
  | misfit (m : Misfit)
  | rejected (faults : List Fault)
  deriving Repr

namespace LoadError

/-- A malformed document is reported without saying where. -/
def message : LoadError → String
  | .unreadable e => "IO error: " ++ e.message
  | .malformed => "Parse error"
  | .misfit m => "Parse error: " ++ m.message
  | .rejected faults => "Validation failed: " ++ ", ".intercalate (faults.map Fault.message)

def detail : LoadError → String
  | .unreadable e => "Io(" ++ e.detail ++ ")"
  | .malformed => "Parse"
  | .misfit _ => "Parse"
  | .rejected faults => "Validation([" ++ ", ".intercalate (faults.map Fault.detail) ++ "])"

end LoadError

namespace Settings

def checked (s : Settings) : Except LoadError Settings :=
  match s.faults with
  | [] => .ok s
  | faults => .error (.rejected faults)

def ofDocument (es : Toml.Entries) : Except LoadError Settings :=
  match ofEntries es with
  | .ok s => s.checked
  | .error m => .error (.misfit m)

def ofText (text : String) : Except LoadError Settings :=
  match Toml.document? text with
  | some es => ofDocument es
  | none => .error .malformed

def ofBytes (bytes : ByteArray) : Except LoadError Settings :=
  match String.fromUTF8? bytes with
  | some text => ofText text
  | none => .error (.unreadable .notUtf8)

def ofFile (content : Except FileError ByteArray) : Except LoadError Settings :=
  match content with
  | .ok bytes => ofBytes bytes
  | .error e => .error (.unreadable e)

end Settings
end RelayRoster
