import KeyWalk.ByteMap
import KeyWalk.Call

/-!
The calls on hashes.

A call that needs at least one field refuses an empty list before anything is sent.
-/

namespace KeyWalk.Call

variable {γ ε : Type}

/-- Refuses an empty list of fields. -/
def needsFields {α : Type} (kind : CommandKind) (fields : List α) : Outcome Unit :=
  if fields.isEmpty then refuse (kind.name ++ " needs at least one field") else .ok ()

/-- A call with an integer reply. -/
def integer (kind : CommandKind) (args : List Bytes) : Prepared γ Int :=
  .reading ⟨kind, args⟩ (Reply.readInteger kind.name)

/-- A call with a truth value as its reply. -/
def flag (kind : CommandKind) (args : List Bytes) : Prepared γ Bool :=
  .reading ⟨kind, args⟩ (Reply.readBool kind.name)

/-- Removes fields; the result is the number removed. -/
def hdel (key : Bytes) (fields : List Bytes) : Outcome (Prepared γ Int) := do
  needsFields .hdel fields
  return integer .hdel (key :: fields)

/-- The field has a value. -/
def hexists (key field : Bytes) : Prepared γ Bool := flag .hexists [key, field]

/-- The value of a field. -/
def hget (key field : Bytes) : Prepared γ (Option Bytes) :=
  .reading ⟨.hget, [key, field]⟩ (Reply.readBulk "HGET")

/-- Adds an integer to a field; the result is the new value. -/
def hincrby (key field : Bytes) (amount : Int) : Prepared γ Int :=
  integer .hincrby [key, field, Integral.token amount]

/-- Adds a finite number to a field; the result is the new value. -/
def hincrbyfloat (key field : Bytes) (amount : Score) : Outcome (Prepared γ Score) :=
  if amount.isFinite then
    .ok (.reading ⟨.hincrbyfloat, [key, field, Score.token amount]⟩
      (Reply.readRequiredScore "HINCRBYFLOAT" "nil result"))
  else refuse "increment must be a finite number"

/-- All fields with their values. -/
def hgetall (key : Bytes) : Prepared γ (ByteMap Bytes) :=
  (Prepared.collected .keyValue ⟨.hgetall, [key]⟩).map fun entries =>
    .ofList (entries.map fun e => (e.key, e.value))

/-- All fields with their values, into a channel. -/
def hgetallStream (channel : Channel KeyValue γ) (key : Bytes) : Prepared γ Nat :=
  .streamed .keyValue channel ⟨.hgetall, [key]⟩

/-- All fields. -/
def hkeys (key : Bytes) : Prepared γ (List Bytes) := .collected .bytes ⟨.hkeys, [key]⟩

/-- All fields, into a channel. -/
def hkeysStream (channel : Channel Bytes γ) (key : Bytes) : Prepared γ Nat :=
  .streamed .bytes channel ⟨.hkeys, [key]⟩

/-- The number of fields. -/
def hlen (key : Bytes) : Prepared γ Int := integer .hlen [key]

/-- The values of fields, in the order asked for. -/
def hmget (key : Bytes) (fields : List Bytes) : Outcome (Prepared γ (List (Option Bytes))) := do
  needsFields .hmget fields
  return .collected .optionalBytes ⟨.hmget, key :: fields⟩

/-- The values of fields, into a channel. -/
def hmgetStream (channel : Channel (Option Bytes) γ) (key : Bytes) (fields : List Bytes) :
    Outcome (Prepared γ Nat) := do
  needsFields .hmget fields
  return .streamed .optionalBytes channel ⟨.hmget, key :: fields⟩

/-- Sets fields; the result is the status text. -/
def hmset (key : Bytes) (entries : List (Bytes × Bytes)) : Outcome (Prepared γ String) := do
  needsFields .hmset entries
  return .reading ⟨.hmset, key :: entries.flatMap fun e => [e.1, e.2]⟩ (Reply.readStatus "HMSET")

/-- Sets a field; the result is whether the field is new. -/
def hset (key field value : Bytes) : Prepared γ Bool := flag .hset [key, field, value]

/-- Sets a field that has no value; the result is whether it had none. -/
def hsetnx (key field value : Bytes) : Prepared γ Bool := flag .hsetnx [key, field, value]

/-- All values. -/
def hvals (key : Bytes) : Prepared γ (List Bytes) := .collected .bytes ⟨.hvals, [key]⟩

/-- All values, into a channel. -/
def hvalsStream (channel : Channel Bytes γ) (key : Bytes) : Prepared γ Nat :=
  .streamed .bytes channel ⟨.hvals, [key]⟩

end KeyWalk.Call
