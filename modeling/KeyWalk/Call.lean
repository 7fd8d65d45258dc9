import KeyWalk.Cursor

/-!
Calls: a command paired with the reader of its reply.

`Prepared γ α` is a call with result `α`.  Its reader may push elements into a channel of state
`γ`, and only while it reads; a call without a channel leaves the state as it is.  Transports see
the command alone, so one prepared call runs over every kind of transport.
-/

namespace KeyWalk

/-- A command with the reader of its reply. -/
structure Prepared (γ α : Type) where
  command : Command
  decode : Reply → γ → Outcome α × γ

namespace Prepared

variable {α β γ ε : Type}

/-- A call that uses no channel. -/
def reading (command : Command) (read : Reply → Outcome α) : Prepared γ α :=
  ⟨command, fun reply g => (read reply, g)⟩

/-- The call with its result changed. -/
def map (f : α → β) (p : Prepared γ α) : Prepared γ β :=
  ⟨p.command, fun reply g => ((p.decode reply g).1.map f, (p.decode reply g).2)⟩

/-- A call whose reply is a list of elements. -/
def collected (reader : Reader ε) (command : Command) : Prepared γ (List ε) :=
  reading command fun reply => reply.readArray command.name >>= collect reader command.name

/-- A call whose reply goes into a channel element by element; its result is their number. -/
def streamed (reader : Reader ε) (channel : Channel ε γ) (command : Command) : Prepared γ Nat :=
  ⟨command, fun reply g =>
    match reply.readArray command.name with
    | .error f => (.error f, g)
    | .ok tokens => deliver reader command.name channel tokens g⟩

/-- The diagnostic text of a call. -/
def inspect (p : Prepared γ α) : String :=
  "Prepared \x7b command: " ++ p.command.inspect ++ ", .. \x7d"

end Prepared

/-! ### Scan steps -/

variable {γ ε : Type}

/-- One scan step as a page; without a cursor it starts a walk. -/
def Call.scan (kind : ScanKind ε) (key : Bytes) (cursor : Option Cursor) (args : Option ScanArgs) :
    Outcome (Prepared γ (ScanPage ε)) := do
  let command ← scanCommand kind key cursor args
  return .reading command (scanPage kind)

/-- One scan step into a channel. -/
def Call.scanStream (kind : ScanKind ε) (channel : Channel ε γ) (key : Bytes)
    (cursor : Option Cursor) (args : Option ScanArgs) : Outcome (Prepared γ StreamedPage) := do
  let command ← scanCommand kind key cursor args
  return ⟨command, KeyWalk.scanStream kind channel⟩

end KeyWalk
