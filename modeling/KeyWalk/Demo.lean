import KeyWalk.CommandLine
import KeyWalk.FileTree
import KeyWalk.Glob
import KeyWalk.Json.Text

/-!
The demonstration: a sample collection, walked and printed.

`Demo.run` is the whole program without its input and output: from the arguments, the environment
and the settings file to a `Report` of what is printed and left behind.

* Page by page, a line shows the cursor that came back and the elements of the page; streamed, a
  line shows one element.  The last line is their number.
* A failure before the walk is named by the stage that failed, a failure of the walk by its own
  text.
* The log directory is made before the walk, so it stays also if the walk fails; what could be
  made of it stays too.
* Patterns are globs, and cursors are put on paper as compact texts: what stores and cursors take
  from outside is chosen here.
-/

namespace KeyWalk

attribute [instance] Glob.engine JsonCodec.compact

/-- What a run leaves behind. -/
structure Report where
  /-- The exit code. -/
  code : UInt32 := 0
  /-- The printed text. -/
  output : String := ""
  /-- The first line of the complaint. -/
  complaint : Option String := none
  /-- The directory of the log file, if one is written. -/
  logDirectory : Option String := none
  /-- The folders and files of the working directory. -/
  tree : FileTree := {}
  deriving DecidableEq, Repr

/-- A run that failed. -/
def Report.failed (complaint : String) (tree : FileTree) : Report :=
  { code := 1, complaint := some ("Error: " ++ complaint), tree }

namespace Demo

/-! ### The samples -/

/-- The key of the sample. -/
def key : Bytes := Bytes.ofString "demo"

/-- A number with zeros in front up to four digits. -/
def padded (n : Nat) : String :=
  let ds := Nat.toDigits 10 n
  String.ofList (List.replicate (4 - ds.length) '0' ++ ds)

/-- The fields of the hash. -/
def fields (size : Nat) : List (Bytes × Bytes) :=
  (List.range size).map fun i =>
    (Bytes.ofString ("field:" ++ padded i), Bytes.ofString ("value-" ++ toString i))

/-- The score of a member: multiples of 1.5, over and over from zero. -/
def scoreOf (i : Nat) : Score := .round false (i % 7 * 3 * Binary64.one) 2

/-- The members of the sorted set. -/
def members (size : Nat) : List (Score × Bytes) :=
  (List.range size).map fun i => (scoreOf i, Bytes.ofString ("member:" ++ padded i))

/-- The client. -/
def client (s : Settings) : Client Store := .blocking .store s.clientOptions

/-- The store with the sample in it; an empty sample is no collection. -/
def seed (s : Settings) (sample : Sample) (size : Nat) : Outcome Store :=
  if size = 0 then .ok .empty
  else match sample with
    | .hash =>
      let (r, store, _) := (client s).attempt (Call.hmset key (fields size)) .empty ()
      r.map fun _ => store
    | .sortedSet =>
      let (r, store, _) := (client s).attempt (Call.zaddMulti key (members size)) .empty ()
      r.map fun _ => store

/-! ### Printing -/

/-- A field with its value. -/
def showField (e : KeyValue) : String :=
  Utf8.lossyString e.key ++ "=" ++ Utf8.lossyString e.value

/-- A member with its score. -/
def showMember (e : ScoredValue) : String :=
  Utf8.lossyString e.value ++ ":" ++ String.ofList (Shortest.render e.score)

/-- The line of a page: the cursor, filled up to six characters, and the elements. -/
def pageLine (cursor : Option Cursor) (items : List String) : String :=
  let text := match cursor with
    | none => []
    | some c => Utf8.lossy c.position
  "cursor=" ++ String.ofList (text ++ List.replicate (6 - text.length) ' ') ++ " [" ++
    String.intercalate ", " items ++ "]\n"

/-- What a walk printed, and the number of its elements or its failure. -/
abbrev Printed := List String × Outcome Nat

variable {ε : Type}

/-- Prints pages up to the first failure. -/
def printPages (item : ε → String) : List (Outcome (List ε) × Walk ε) → Printed
  | [] => ([], .ok 0)
  | (.error f, _) :: _ => ([], .error f)
  | (.ok page, w) :: r =>
    let (lines, total) := printPages item r
    (pageLine w.state.cursor? (page.map item) :: lines, total.map (page.length + ·))

/-- Walks page by page. -/
def walkPages (c : Client Store) (kind : ScanKind ε) (item : ε → String)
    (args : Option ScanArgs) (s : Store) : Printed :=
  printPages item ((c.pages kind key args).take c (s.walkLimit key + 1) s).1

/-- Walks element by element. -/
def walkStream (c : Client Store) (kind : ScanKind ε) (item : ε → String)
    (args : Option ScanArgs) (s : Store) : Printed :=
  let (r, _, taken) := c.scanAllStream (s.walkLimit key) kind .collector key args s []
  (taken.map fun e => item e ++ "\n", r.getD (fail (.transport "the walk did not end")))

/-- Walks a sample. -/
def walk (c : Client Store) (sample : Sample) (stream : Bool) (args : Option ScanArgs)
    (s : Store) : Printed :=
  match sample, stream with
  | .hash, false => walkPages c hashScan showField args s
  | .hash, true => walkStream c hashScan showField args s
  | .sortedSet, false => walkPages c sortedSetScan showMember args s
  | .sortedSet, true => walkStream c sortedSetScan showMember args s

/-! ### The run -/

/-- The scan arguments: a pattern takes the count hint along; without one they are left to the
client. -/
def scanArgs (o : CommandLine) (s : Settings) : Option ScanArgs :=
  o.pattern.map fun p => { pattern := some (Bytes.ofString p), count := s.scanCount }

/-- Seeds and walks. -/
def walked (o : CommandLine) (s : Settings) : Printed :=
  match seed s o.sample o.size with
  | .error f => ([], .error f)
  | .ok store => walk (client s) o.sample o.stream (scanArgs o s) store

/-- The first line of a text. -/
def firstLine (s : String) : String := String.ofList (s.toList.takeWhile (· ≠ '\n'))

/-- What a walk reports, apart from what it leaves behind. -/
def reportOf : Printed → Report
  | (lines, .error f) =>
    { Report.failed (firstLine f.message) {} with output := String.join lines }
  | (lines, .ok n) => { output := String.join lines ++ toString n ++ " element(s)\n" }

/-- Makes the log directory, if there is to be one, and its file; the answer is also whether that
went well. -/
def openLog (c : LoggingConfig) (t : FileTree) : FileTree × Bool :=
  match c.directory with
  | none => (t, true)
  | some directory =>
    match t.makeAll directory with
    | (t, some p) => (t.addFile p c.fileName, true)
    | (t, none) => (t, false)

/-- The run with its options and settings. -/
def runWith (o : CommandLine) (s : Settings) (t : FileTree) : Report :=
  let refused := Report.failed "failed to initialize logging"
  match s.logging.validate with
  | .error _ => refused t
  | .ok () =>
    match openLog s.logging t with
    | (tree, false) => refused tree
    | (tree, true) => { reportOf (walked o s) with logDirectory := s.logDirectory, tree }

/-- The working directory with the settings file, if there is one. -/
def startTree (path : Option String) (file : String → SettingsFile) : FileTree :=
  match path with
  | some path => if (file path).text.isSome then ({} : FileTree).withFile path else {}
  | none => {}

/-- The whole run; `file` is what stands in the settings file of a name. -/
def run (args : List String) (vars : List Environment.Variable)
    (file : String → SettingsFile) : Report :=
  match CommandLine.parse args vars with
  | .error .misuse => { code := 2 }
  | .error (.answer text) => { output := text }
  | .ok o =>
    let tree := startTree o.config file
    match Settings.load (o.config.map file) vars with
    | .error _ => .failed "failed to load settings" tree
    | .ok s => runWith o (o.override s) tree

end Demo

end KeyWalk
