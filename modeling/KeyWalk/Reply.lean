import KeyWalk.Score

/-!
Replies of a store, and how a command reads them.

Each reader takes the name of the command for its complaints.  An error reply is never read as a
value: `Reply.check` turns it into a failure, of kind `wrongType` when its text says `WRONGTYPE`
and of kind `serverError` otherwise.  A reply of another shape than the command promises is a
malformed reply.
-/

namespace KeyWalk

/-- A decoded reply. -/
inductive Reply where
  | status (text : String)
  | error (text : String)
  | integer (n : Int)
  | double (d : Score)
  | bulk (value : Option Bytes)
  | array (items : List Reply)
  | null
  deriving Repr, Inhabited

namespace Reply

/-- A bulk reply that holds a value. -/
def value (b : Bytes) : Reply := bulk (some b)

/-- The bulk reply that holds nothing. -/
def nil : Reply := bulk none

/-- The name of a reply's shape. -/
def kind : Reply → String
  | status _ => "status"
  | error _ => "error"
  | integer _ => "integer"
  | double _ => "double"
  | bulk _ => "bulk"
  | array _ => "array"
  | null => "null"

/-- Turns an error reply into a failure and passes any other reply through. -/
def check : Reply → Outcome Reply
  | error text =>
    if text.startsWith "WRONGTYPE" then fail (.wrongType text) else fail (.server text)
  | r => .ok r

/-- The failure of a reply of the wrong shape. -/
def unexpected {α : Type} (command expected : String) (got : Reply) : Outcome α :=
  fail (.malformed command ("expected " ++ expected ++ ", got " ++ got.kind))

/-- An integer. -/
def readInteger (command : String) (r : Reply) : Outcome Int := do
  match ← r.check with
  | integer n => .ok n
  | other => unexpected command "integer" other

/-- A truth value, written as the integer 0 or 1. -/
def readBool (command : String) (r : Reply) : Outcome Bool := do
  let n ← r.readInteger command
  if n = 0 then .ok false
  else if n = 1 then .ok true
  else fail (.malformed command ("expected 0 or 1, got " ++ toString n))

/-- An integer or nothing. -/
def readOptionalInteger (command : String) (r : Reply) : Outcome (Option Int) := do
  match ← r.check with
  | integer n => .ok (some n)
  | null | bulk none => .ok none
  | other => unexpected command "integer or nil" other

/-- A status text. -/
def readStatus (command : String) (r : Reply) : Outcome String := do
  match ← r.check with
  | status s => .ok s
  | other => unexpected command "status" other

/-- A byte string or nothing. -/
def readBulk (command : String) (r : Reply) : Outcome (Option Bytes) := do
  match ← r.check with
  | bulk b => .ok b
  | null => .ok none
  | status s => .ok (some (Bytes.ofString s))
  | other => unexpected command "bulk string" other

/-- A byte string. -/
def readRequiredBulk (command : String) (r : Reply) : Outcome Bytes := do
  match ← r.readBulk command with
  | some b => .ok b
  | none => fail (.malformed command "unexpected nil")

/-- A score or nothing: a double, or a byte string in score notation. -/
def readScore (command : String) (r : Reply) : Outcome (Option Score) := do
  match ← r.check with
  | double d => if d.isNaN then fail (.malformed command "NaN score") else .ok (some d)
  | bulk (some b) => some <$> Score.ofToken command b
  | bulk none | null => .ok none
  | other => unexpected command "score" other

/-- A score; `absent` is the complaint if there is none. -/
def readRequiredScore (command absent : String) (r : Reply) : Outcome Score := do
  match ← r.readScore command with
  | some s => .ok s
  | none => fail (.malformed command absent)

/-- A list of replies; nothing reads as the empty list. -/
def readArray (command : String) (r : Reply) : Outcome (List Reply) := do
  match ← r.check with
  | array items => .ok items
  | null => .ok []
  | other => unexpected command "array" other

end Reply

end KeyWalk
