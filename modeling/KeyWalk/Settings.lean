import KeyWalk.Client
import KeyWalk.Settings.Environment
import KeyWalk.Settings.Json
import KeyWalk.Settings.Json5
import KeyWalk.Settings.Ron
import KeyWalk.Settings.Sections
import KeyWalk.Settings.Toml
import KeyWalk.Settings.Yaml

/-!
Settings of the program.

`Settings.load` takes the defaults, then an optional file, then the environment; what comes later
wins, key by key.  Keys without a meaning are ignored, and a value that does not fit its key is
refused.

* `Settings.clientOptions` and `Settings.logging` are the parts for the client and for logging.
-/

namespace KeyWalk

/-- The settings. -/
structure Settings where
  /-- The milliseconds to wait for a reply, zero to wait as long as it takes. -/
  timeout : Nat := 30000
  /-- The count hint of scans. -/
  scanCount : Option Nat := none
  logLevel : String := "info"
  logFormat : LogFormat := .pretty
  logDirectory : Option String := none
  deriving DecidableEq, Repr

/-- A settings file: the extension of its name, and its text if it exists. -/
structure SettingsFile where
  extension : String
  text : Option String

namespace SettingsFile

/-- The extension of a file name: what stands behind its last point, unless that is all of the
name. -/
def extensionOf (path : String) : String :=
  let name := (path.toList.reverse.takeWhile (· ≠ '/')).reverse
  match name.reverse.span (· ≠ '.') with
  | (_, []) => ""
  | (_, [_]) => ""
  | (tail, _) => String.ofList tail.reverse

/-- The text without a byte order mark. -/
def content : List Char → List Char
  | '\uFEFF' :: r => r
  | cs => cs

/-- The entries of a file, read as its extension says. -/
def entries? (f : SettingsFile) : Option (List (String × Setting)) := do
  let cs := content (← f.text).toList
  match f.extension with
  | "toml" => Toml.entries? cs
  | "yaml" | "yml" => Yaml.entries? cs
  | "json" => Setting.entriesOfJson? cs
  | "json5" => Json5.entries? cs
  | "ron" => Ron.entries? cs
  | "ini" => Sections.entries? cs
  | _ => none

end SettingsFile

namespace Settings

/-- The settings in a table; a key that is missing keeps its default. -/
def ofTable? (t : Setting) : Option Settings := do
  let read {α : Type} (key : String) (meaning : Setting → Option α) (default : α) : Option α :=
    match t.get? key with
    | none => some default
    | some v => meaning v
  let base : Settings := {}
  return {
    timeout := ← read "timeout_ms" Setting.unsigned? base.timeout
    scanCount := ← read "scan_count" (Setting.optional Setting.unsigned?) base.scanCount
    logLevel := ← read "log_level" Setting.text? base.logLevel
    logFormat := ← read "log_format" Setting.format? base.logFormat
    logDirectory := ← read "log_dir" (Setting.optional Setting.text?) base.logDirectory }

/-- Refuses a count hint of zero. -/
def validate (s : Settings) : Outcome Unit :=
  if s.scanCount = some 0 then misconfigured "scan_count must be positive" else .ok ()

/-- The settings from an optional file and the environment. -/
def load (file : Option SettingsFile) (vars : List Environment.Variable) :
    Outcome Settings := do
  let stored ← match file with
    | none => pure []
    | some f =>
      match f.entries? with
      | some es => pure es
      | none => misconfigured "settings file cannot be read"
  let table := ((Setting.table []).merge stored).merge (Environment.entries vars)
  match ofTable? table with
  | none => misconfigured "a setting has a value of the wrong kind"
  | some s => do
    s.validate
    return s

/-- The options of a client. -/
def clientOptions (s : Settings) : ClientOptions :=
  { timeout := if 0 < s.timeout then some s.timeout else none, scanCount := s.scanCount }

/-- The logging configuration. -/
def logging (s : Settings) : LoggingConfig :=
  { level := s.logLevel, format := s.logFormat, directory := s.logDirectory }

end Settings

end KeyWalk
