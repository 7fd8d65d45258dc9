import KeyWalk.Failure
import KeyWalk.Text.Blank

/-!
Logging: the layout of console output, and what is logged where.

* `LogFormat.parse` reads the name of a layout in any ASCII case, `LogFormat.named?` only as it is
  written,
* `LoggingConfig.directive` is the filter: a bare level is meant for this program alone, anything
  else is a filter already,
* `LoggingConfig.validate` refuses an empty level before an empty file name.
-/

namespace KeyWalk

/-- Fails because the configuration is bad. -/
def misconfigured {α : Type} (reason : String) : Outcome α := fail (.other .invalidConfig reason)

/-- The layout of console output. -/
inductive LogFormat where
  | pretty
  | compact
  | json
  deriving DecidableEq, Repr

namespace LogFormat

/-- The name of a layout. -/
def name : LogFormat → String
  | pretty => "pretty"
  | compact => "compact"
  | json => "json"

/-- The layouts. -/
def all : List LogFormat := [pretty, compact, json]

/-- The layout with exactly this name. -/
def named? (text : String) : Option LogFormat := all.find? fun f => f.name == text

/-- The layout with a name, ASCII case aside. -/
def ofName? (text : List Char) : Option LogFormat :=
  all.find? fun f => Text.lower text == f.name.toList

/-- Reads the name of a layout. -/
def parse (text : String) : Outcome LogFormat :=
  match ofName? text.toList with
  | some f => .ok f
  | none => misconfigured ("unknown log format " ++ Quoted.text (Text.lower text.toList))

end LogFormat

/-- What is logged where.  A log file is written only if there is a directory for it. -/
structure LoggingConfig where
  level : String := "info"
  format : LogFormat := .pretty
  directory : Option String := none
  fileName : String := "kvscan.log"
  deriving DecidableEq, Repr

namespace LoggingConfig

/-- The names of levels. -/
def levels : List String := ["off", "error", "warn", "info", "debug", "trace"]

/-- The level is the name of one, ASCII case aside. -/
def isBareLevel (c : LoggingConfig) : Bool :=
  levels.any fun l => Text.lower c.level.toList == l.toList

/-- The filter. -/
def directive (c : LoggingConfig) : String :=
  if c.isBareLevel then "warn,kvscan=" ++ String.ofList (Text.lower c.level.toList)
  else c.level

/-- The text has nothing but blanks. -/
def isEmptyText (s : String) : Bool := Text.trim s.toList == []

/-- Refuses what cannot be set up. -/
def validate (c : LoggingConfig) : Outcome Unit :=
  if isEmptyText c.level then misconfigured "log level must not be empty"
  else if isEmptyText c.fileName then misconfigured "log file name must not be empty"
  else .ok ()

end LoggingConfig

end KeyWalk
