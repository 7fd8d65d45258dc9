import KeyWalk.Demo

/-!
The program: reads the environment and the settings file, runs, prints and leaves the log file.
-/

namespace KeyWalk.Program

/-- The environment variables with a meaning. -/
def variableNames : List String :=
  ["KVSCAN_CONFIG", "KVSCAN_LOG_DIR", "KVSCAN_LOG_FORMAT", "KVSCAN_LOG_LEVEL",
    "KVSCAN_SCAN_COUNT", "KVSCAN_TIMEOUT_MS"]

/-- The variables that are set. -/
def readVariables : IO (List Environment.Variable) :=
  variableNames.filterMapM fun name => do return (← IO.getEnv name).map fun v => (name, v)

/-- The settings file with a name. -/
def readFile (path : String) : IO SettingsFile := do
  let text ← try some <$> IO.FS.readFile path catch _ => pure none
  return ⟨SettingsFile.extensionOf path, text⟩

/-- Makes the folders of the report, and the log directory with its file. -/
def leave (r : Report) : IO Unit := do
  for names in r.tree.folders.reverse do
    IO.FS.createDirAll ("/".intercalate names)
  if let some directory := r.logDirectory then
    let dir := if directory = "" then "." else directory
    IO.FS.createDirAll dir
    IO.FS.writeFile (dir ++ "/" ++ ({} : LoggingConfig).fileName) ""

/-- Reads what the run needs, runs, and carries its report out. -/
def start (args : List String) : IO UInt32 := do
  let vars ← readVariables
  let stored ← match CommandLine.parse args vars with
    | .ok { config := some path, .. } => readFile path
    | _ => pure ⟨"", none⟩
  let report := Demo.run args vars fun _ => stored
  leave report
  IO.print report.output
  if let some complaint := report.complaint then
    IO.eprintln complaint
  return report.code

end KeyWalk.Program

def main (args : List String) : IO UInt32 := KeyWalk.Program.start args
