import KeyWalk.Command
import KeyWalk.Delivery
import KeyWalk.Text.Blank

/-!
Cursors of incremental walks, and one step of a walk as pure functions.

A cursor is a token that the store issued; it is sent back as it came.  Only the start token `0`
has a meaning of its own: it opens a walk, and when the store hands it back the walk is finished.

* `CursorState` says where a walk stands,
* `scanCommand` builds the request of a step and refuses a finished cursor,
* `scanPage` and `scanStream` interpret the reply, as a list or into a channel.
-/

namespace KeyWalk

/-- The position of a walk, and whether the walk is over. -/
structure Cursor where
  position : Bytes
  finished : Bool
  deriving DecidableEq, Repr

namespace Cursor

/-- The token that opens a walk and marks its end. -/
def startToken : Bytes := [0x30]

/-- The cursor of a fresh walk. -/
def initial : Cursor := ⟨startToken, false⟩

/-- The cursor that a reply carries. -/
def ofToken (position : Bytes) : Cursor := ⟨position, position == startToken⟩

/-- The text of a cursor. -/
def display (c : Cursor) : String :=
  Utf8.lossyString c.position ++ if c.finished then " (finished)" else ""

end Cursor

/-- The optional parameters of a scan step.  The store applies the pattern; the count is a hint. -/
structure ScanArgs where
  pattern : Option Bytes := none
  count : Option Nat := none
  deriving DecidableEq, Repr

/-- The tokens of an optional pattern. -/
def ScanArgs.patternTokens : Option Bytes → List Bytes
  | none => []
  | some p => [Bytes.ofString "MATCH", p]

/-- The tokens of the optional parameters.  A count must be positive and fit into 64 bits with a
sign. -/
def ScanArgs.tokens (args : ScanArgs) : Outcome (List Bytes) :=
  match args.count with
  | none => .ok (patternTokens args.pattern)
  | some count =>
    if count = 0 then refuse "COUNT must be positive"
    else if Integral.greatest < count then refuse "COUNT out of range"
    else .ok (patternTokens args.pattern ++ [Bytes.ofString "COUNT", Integral.token count])

/-- Where a walk stands. -/
inductive CursorState where
  /-- No step was made. -/
  | initial
  /-- A page came back and more may follow. -/
  | inProgress (c : Cursor)
  /-- The store reported the end. -/
  | done (c : Cursor)
  deriving DecidableEq, Repr

namespace CursorState

/-- The state after the store handed back a cursor. -/
def after (c : Cursor) : CursorState := if c.finished then done c else inProgress c

/-- The state of a cursor that a caller holds; without one, the walk is yet to start. -/
def ofCursor? : Option Cursor → CursorState
  | none => initial
  | some c => after c

/-- The cursor of a state. -/
def cursor? : CursorState → Option Cursor
  | initial => none
  | inProgress c | done c => some c

/-- The walk is over. -/
def isDone : CursorState → Bool
  | done _ => true
  | _ => false

end CursorState

/-- A kind of collection that can be walked: its command and how its elements are read. -/
structure ScanKind (ε : Type) where
  command : CommandKind
  reader : Reader ε

/-- Fields and values of a hash. -/
def hashScan : ScanKind KeyValue := ⟨.hscan, .keyValue⟩

/-- Members and scores of a sorted set. -/
def sortedSetScan : ScanKind ScoredValue := ⟨.zscan, .scoredValue⟩

variable {ε γ : Type}

/-- The request of the next step, `none` standing for a new walk. -/
def scanCommand (kind : ScanKind ε) (key : Bytes) (cursor : Option Cursor)
    (args : Option ScanArgs) : Outcome Command := do
  let position ← match CursorState.ofCursor? cursor with
    | .initial => pure Cursor.startToken
    | .inProgress c => pure c.position
    | .done c => fail (.invalidCursor (kind.command.name ++ " cursor " ++ c.display ++
        " is finished, start a new walk instead"))
  let clauses ← match args with
    | none => pure []
    | some args => args.tokens
  return ⟨kind.command, key :: position :: clauses⟩

/-- The text has `needle` somewhere. -/
def occursIn (needle : List Char) : List Char → Bool
  | [] => needle.isEmpty
  | c :: cs => needle.isPrefixOf (c :: cs) || occursIn needle cs

/-- The store's complaint is about the cursor, ASCII case aside. -/
def isCursorRejection (text : String) : Bool :=
  occursIn "invalid cursor".toList (Text.lower text.toList)

/-- The cursor and the element tokens of a step reply. -/
def splitScanReply (command : String) (reply : Reply) : Outcome (Cursor × List Reply) := do
  if let .error text := reply then
    if isCursorRejection text then
      fail (.invalidCursor text)
  match ← reply.readArray command with
  | [position, elements] =>
    let tokens ← elements.readArray command
    match ← position.readBulk command with
    | some token => return (.ofToken token, tokens)
    | none => fail (.malformed command "nil cursor")
  | parts =>
    fail (.malformed command
      ("expected [cursor, elements], got " ++ toString parts.length ++ " parts"))

/-- One page with the cursor to continue from. -/
structure ScanPage (ε : Type) where
  cursor : Cursor
  elements : List ε

/-- The result of a streamed step: the elements went into the channel. -/
structure StreamedPage where
  cursor : Cursor
  count : Nat

/-- A step reply as a page. -/
def scanPage (kind : ScanKind ε) (reply : Reply) : Outcome (ScanPage ε) := do
  let (cursor, tokens) ← splitScanReply kind.command.name reply
  let elements ← collect kind.reader kind.command.name tokens
  return ⟨cursor, elements⟩

/-- A step reply into a channel. -/
def scanStream (kind : ScanKind ε) (channel : Channel ε γ) (reply : Reply) (g : γ) :
    Outcome StreamedPage × γ :=
  match splitScanReply kind.command.name reply with
  | .error f => (.error f, g)
  | .ok (cursor, tokens) =>
    match deliver kind.reader kind.command.name channel tokens g with
    | (.error f, g₁) => (.error f, g₁)
    | (.ok count, g₁) => (.ok ⟨cursor, count⟩, g₁)

end KeyWalk
