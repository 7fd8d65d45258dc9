import KeyWalk.Failure.Status
import KeyWalk.Text.Quoted

/-!
Failures: a cause and the contexts it passed through.

* `Cause` says what went wrong; its wording is `Cause.message`, its kind `Cause.status`,
* `Cause.clientMessage` is the wording for the caller: what a transport or a malformed reply said
  in detail stays out of it,
* `Failure` adds the contexts, oldest first.

Nothing here retries: a failure goes to the immediate caller.
-/

namespace KeyWalk

/-- What went wrong. -/
inductive Cause where
  /-- A finished cursor was used again, or the store refused the cursor token. -/
  | invalidCursor (reason : String)
  /-- The transport could not complete the request. -/
  | transport (reason : String)
  /-- The channel refused the element at a position, counted within the page. -/
  | channelFault (position : Nat) (reason : String)
  /-- The reply does not have the shape that the command promises. -/
  | malformed (command reason : String)
  /-- The store answered with an error. -/
  | server (message : String)
  /-- The key holds a collection of the other type. -/
  | wrongType (message : String)
  /-- The arguments were refused before anything was sent. -/
  | invalidArgument (reason : String)
  /-- Any other failure, with its kind and wording. -/
  | other (status : StatusCode) (message : String)
  deriving DecidableEq, Repr

namespace Cause

/-- The kind of the cause. -/
def status : Cause → StatusCode
  | invalidCursor _ => .invalidCursor
  | transport _ => .transportFailure
  | channelFault .. => .channelFault
  | malformed .. => .malformedReply
  | server _ => .serverError
  | wrongType _ => .wrongType
  | invalidArgument _ => .invalidArgs
  | other s _ => s

/-- The full wording of the cause. -/
def message : Cause → String
  | invalidCursor r => "Invalid cursor: " ++ r
  | transport r => "Transport failure: " ++ r
  | channelFault p r => "Streaming channel fault at element " ++ toString p ++ ": " ++ r
  | malformed c r => "Malformed reply to " ++ c ++ ": " ++ r
  | server m => "Server error: " ++ m
  | wrongType m => "Wrong type: " ++ m
  | invalidArgument r => "Invalid argument: " ++ r
  | other _ m => m

/-- The wording for the caller. -/
def clientMessage : Cause → String
  | malformed c _ => "Unexpected reply to " ++ c
  | transport _ => "Transport failure"
  | other .internal _ => "Internal error"
  | c => c.message

/-- The cause is a failure of a command, not one named by its kind alone. -/
def isCommandError : Cause → Bool
  | other .. => false
  | _ => true

end Cause

/-- A cause with the contexts that were added while the failure travelled, oldest first. -/
structure Failure where
  cause : Cause
  contexts : List String := []
  deriving DecidableEq, Repr

/-- The result of an operation that may fail. -/
abbrev Outcome (α : Type) := Except Failure α

namespace Failure

/-- The failure behind one more context. -/
def context (f : Failure) (text : String) : Failure :=
  { f with contexts := f.contexts ++ [text] }

/-- The kind of the failure, which no context changes. -/
def status (f : Failure) : StatusCode := f.cause.status

/-- The full text: the contexts joined by arrows, then the cause. -/
def message (f : Failure) : String :=
  match f.contexts with
  | [] => f.cause.message
  | cs => String.intercalate " → " cs ++ ": " ++ f.cause.message

/-- The text for the caller. -/
def clientMessage (f : Failure) : String := f.cause.clientMessage

/-- The diagnostic text of a failure without contexts. -/
def inspect (f : Failure) : String :=
  "StackError \x7b inner: " ++ Quoted.text f.cause.message.toList ++ ", status_code: " ++
    f.status.name ++ " \x7d"

/-- A failure without contexts. -/
def ofCause (c : Cause) : Failure := { cause := c }

end Failure

/-- Fails for a cause. -/
def fail {α : Type} (c : Cause) : Outcome α := .error (.ofCause c)

/-- Fails because an argument is bad. -/
def refuse {α : Type} (reason : String) : Outcome α := fail (.invalidArgument reason)

/-- The outcome, its failure behind one more context. -/
def withContext {α : Type} (text : String) : Outcome α → Outcome α
  | .ok a => .ok a
  | .error f => .error (f.context text)

/-- The kinds of input and output errors that the status codes tell apart. -/
inductive IoKind where
  | connectionRefused
  | connectionReset
  | connectionAborted
  | timedOut
  | unexpectedEnd
  | other
  deriving DecidableEq, Repr

/-- The status code of an input or output error; such errors come from transports only. -/
def IoKind.status : IoKind → StatusCode
  | connectionRefused | connectionReset | connectionAborted => .connectionFailed
  | timedOut => .timeout
  | unexpectedEnd => .connectionClosed
  | other => .io

/-- The failure that an input or output error becomes. -/
def Failure.ofIo (kind : IoKind) (text : String) : Failure :=
  .ofCause (.other kind.status text)

end KeyWalk
