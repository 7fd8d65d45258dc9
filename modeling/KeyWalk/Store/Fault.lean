import KeyWalk.Command

/-!
What a store can object to, and the text of its error replies.
-/

namespace KeyWalk

/-- The reasons for which a store refuses a command. -/
inductive Fault where
  /-- The key holds a collection of the other type. -/
  | wrongType
  | badSyntax
  /-- An argument is missing. -/
  | arity
  | notInteger
  | notFloat
  | hashNotInteger
  | hashNotFloat
  | overflow
  /-- The result would be infinite or not a number. -/
  | notFinite
  | scoreRange
  | lexRange
  | invalidCursor
  /-- A pattern that could not be compiled, and why. -/
  | pattern (reason : String)
  /-- A combination of no sources. -/
  | noKeys
  deriving DecidableEq, Repr

/-- The text of the error reply to a command. -/
def Fault.message (command : CommandKind) : Fault → String
  | wrongType => "WRONGTYPE Operation against a key holding the wrong kind of value"
  | badSyntax => "ERR syntax error"
  | arity => "ERR wrong number of arguments for '" ++ command.name ++ "' command"
  | notInteger => "ERR value is not an integer or out of range"
  | notFloat => "ERR value is not a valid float"
  | hashNotInteger => "ERR hash value is not an integer"
  | hashNotFloat => "ERR hash value is not a float"
  | overflow => "ERR increment or decrement would overflow"
  | notFinite => "ERR increment would produce NaN or Infinity"
  | scoreRange => "ERR min or max is not a float"
  | lexRange => "ERR min or max not valid string range item"
  | invalidCursor => "ERR invalid cursor"
  | pattern reason => "ERR invalid pattern: " ++ reason
  | noKeys => "ERR at least 1 input key is needed for '" ++ command.name ++ "' command"

end KeyWalk
