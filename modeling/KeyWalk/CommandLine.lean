import KeyWalk.CommandLine.Switch
import KeyWalk.Settings

/-!
The command line.

`CommandLine.parse` reads the arguments: options, then the name of a sample, then its size.  The
environment variable `KVSCAN_CONFIG` stands in for a settings file that is not given.

* `CommandLine.override` puts the options over the loaded settings.
-/

namespace KeyWalk

/-- The samples that can be walked. -/
inductive Sample where
  | hash
  | sortedSet
  deriving DecidableEq, Repr

/-- The options of the command line. -/
structure CommandLine where
  config : Option String := none
  count : Option Nat := none
  pattern : Option String := none
  stream : Bool := false
  logLevel : Option String := none
  logFormat : Option LogFormat := none
  sample : Sample := .hash
  size : Nat := 50
  deriving DecidableEq, Repr

namespace CommandLine

/-- The version, behind the name of a level. -/
def versionText (level : String) : String := level ++ " 0.1.0\n"

/-- The text of the help switches. -/
def helpText : String := "Usage: kvscan [OPTIONS] <COMMAND>\n"

/-- The switches of every level. -/
def common {ρ : Type} (level : String) : List (Switch ρ) :=
  [{ long := "help", short := some 'h', effect := .stop helpText },
    { long := "version", short := some 'V', effect := .stop (versionText level) }]

/-- The path of a file, which is not empty. -/
def path? (s : String) : Option String := if s = "" then none else some s

/-- The switches before the name of a sample. -/
def switches : List (Switch CommandLine) :=
  [{ long := "config", short := some 'c',
     effect := .value fun v o => (path? v).map fun p => { o with config := some p } },
    { long := "count",
      effect := .value fun v o =>
        (Integral.unsigned? v.toList).map fun n => { o with count := some n } },
    { long := "match", effect := .value fun v o => some { o with pattern := some v } },
    { long := "stream", effect := .flag fun o => { o with stream := true } },
    { long := "log-level", effect := .value fun v o => some { o with logLevel := some v } },
    { long := "log-format",
      effect := .value fun v o =>
        (LogFormat.ofName? v.toList).map fun f => { o with logFormat := some f } }] ++
    common "kvscan"

/-- The names of the samples, each with the switch for its size. -/
def samples : List (String × Switch Nat × Sample) :=
  [("hash", sizeSwitch "fields" 'f', .hash), ("zset", sizeSwitch "members" 'm', .sortedSet)]
where
  /-- The switch for a size. -/
  sizeSwitch (long : String) (short : Char) : Switch Nat :=
    { long, short := some short, effect := .value fun v _ => Integral.unsigned? v.toList }

/-- The names below the switches: the samples, and that of the help. -/
def names : List String := "help" :: samples.map (·.1)

/-- The help, for one of the names or for all. -/
def help : List String → Stop
  | [] => .answer helpText
  | [name] => if names.contains name then .answer helpText else .misuse
  | _ => .misuse

/-- The sample with a name and its size, which is all that the arguments behind the name give. -/
def parseSize (name : String) (args : List String) : Except Stop (Sample × Nat) := do
  match samples.lookup name with
  | none => .error (help args)
  | some (switch, sample) =>
    let (p, _) ← Switch.readLevel (switch :: common ("kvscan-" ++ name)) [] { options := 50 } args
    return (sample, (← p.settle).options)

/-- The options with the settings file from the environment, if none was given. -/
def withVariables (vars : List Environment.Variable) (o : CommandLine) :
    Except Stop CommandLine :=
  match o.config, vars.lookup "KVSCAN_CONFIG" with
  | none, some v =>
    match path? v with
    | none => .error .misuse
    | some p => .ok { o with config := some p }
  | _, _ => .ok o

/-- Reads the arguments. -/
def parse (args : List String) (vars : List Environment.Variable) :
    Except Stop CommandLine := do
  match ← Switch.readLevel switches names { options := {} } args with
  | (_, none) => .error .misuse
  | (p, some (name, rest)) =>
    let (sample, size) ← parseSize name rest
    let o ← withVariables vars (← p.settle).options
    return { o with sample, size }

/-- The settings with the options over them. -/
def override (o : CommandLine) (s : Settings) : Settings :=
  { s with
    logLevel := o.logLevel.getD s.logLevel
    logFormat := o.logFormat.getD s.logFormat
    scanCount := o.count.or s.scanCount }

end CommandLine

end KeyWalk
