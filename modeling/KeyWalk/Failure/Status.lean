/-
Status codes: the kinds of failure that callers tell apart.

Codes come in ranges by where the failure arose: 1000 general, 2000 data, 3000 cursor walks,
4000 streaming delivery, 6000 transport, 8000 shape of a reply.
-/

namespace KeyWalk

/-- How loudly a failure is logged. -/
inductive Severity where
  | info
  | warn
  | error
  deriving DecidableEq, Repr

/-- The kind of a failure. -/
inductive StatusCode where
  | internal
  | invalidArgs
  | invalidConfig
  | wrongType
  | serverError
  | invalidCursor
  | channelFault
  | io
  | connectionClosed
  | timeout
  | connectionFailed
  | transportFailure
  | malformedReply
  deriving DecidableEq, Repr

namespace StatusCode

/-- Every status code, in ascending order of numbers. -/
def all : List StatusCode :=
  [internal, invalidArgs, invalidConfig, wrongType, serverError, invalidCursor, channelFault, io,
    connectionClosed, timeout, connectionFailed, transportFailure, malformedReply]

/-- The number of a status code. -/
def code : StatusCode → Nat
  | internal => 1003
  | invalidArgs => 1004
  | invalidConfig => 1005
  | wrongType => 2001
  | serverError => 2003
  | invalidCursor => 3000
  | channelFault => 4000
  | io => 6000
  | connectionClosed => 6001
  | timeout => 6002
  | connectionFailed => 6003
  | transportFailure => 6004
  | malformedReply => 8000

/-- The status code with a number, if there is one. -/
def ofCode? (n : Nat) : Option StatusCode := all.find? (·.code == n)

/-- The name of a status code. -/
def name : StatusCode → String
  | internal => "Internal"
  | invalidArgs => "InvalidArgs"
  | invalidConfig => "InvalidConfig"
  | wrongType => "WrongType"
  | serverError => "ServerError"
  | invalidCursor => "InvalidCursor"
  | channelFault => "ChannelFault"
  | io => "Io"
  | connectionClosed => "ConnectionClosed"
  | timeout => "Timeout"
  | connectionFailed => "ConnectionFailed"
  | transportFailure => "TransportFailure"
  | malformedReply => "MalformedReply"

/-- The name with the number behind it. -/
def display (s : StatusCode) : String := s.name ++ " (" ++ toString s.code ++ ")"

/-- An outer layer may reasonably issue the failed operation again. -/
def isRetryable : StatusCode → Bool
  | timeout | connectionFailed | connectionClosed => true
  | _ => false

/-- The caller caused the failure: a data, cursor or channel code other than a plain error of the
store, or bad arguments. -/
def isClientError (s : StatusCode) : Bool :=
  if 2000 ≤ s.code && s.code ≤ 4999 then s != serverError else s == invalidArgs

/-- The failure arose in the transport. -/
def isTransportError (s : StatusCode) : Bool := 6000 ≤ s.code && s.code ≤ 6999

/-- The reply had the wrong shape. -/
def isProtocolError (s : StatusCode) : Bool := 8000 ≤ s.code && s.code ≤ 8999

/-- The level at which a failure of this kind is logged. -/
def severity : StatusCode → Severity
  | invalidArgs | wrongType | invalidCursor | channelFault => .info
  | internal | malformedReply | invalidConfig => .error
  | _ => .warn

end StatusCode

end KeyWalk
