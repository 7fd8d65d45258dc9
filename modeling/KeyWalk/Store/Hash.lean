import KeyWalk.ByteMap
import KeyWalk.Store.Fault
import KeyWalk.Store.ScanWindow

/-!
Hashes: what can be asked of one and what can be done to one.

A question always has an answer.  A change is made in place: it gives its reply or a fault, and
the hash that it leaves behind in either case.  An absent key is the empty hash.
-/

namespace KeyWalk

/-- A hash: values under fields. -/
abbrev Hash := ByteMap Bytes

/-- A question to a hash. -/
inductive HashQuery where
  | holds (field : Bytes)
  | get (field : Bytes)
  | getMany (fields : List Bytes)
  | allEntries
  | allFields
  | allValues
  | length
  | scan (window : ScanWindow)

/-- A change of a hash. -/
inductive HashUpdate where
  | delete (fields : List Bytes)
  | increment (field : Bytes) (by_ : Int)
  | incrementFloat (field : Bytes) (by_ : Score)
  | setMany (pairs : List (Bytes × Bytes))
  | set (field value : Bytes)
  | setIfAbsent (field value : Bytes)

/-- The reply 1 for true and 0 for false. -/
def Reply.flag (b : Bool) : Reply := .integer b.toNat

/-- The reply that counts something. -/
def Reply.count (n : Nat) : Reply := .integer n

/-- The answer to a question. -/
def HashQuery.answer (h : Hash) : HashQuery → Reply
  | holds field => .flag (h.contains field)
  | get field => .bulk (h.get? field)
  | getMany fields => .array (fields.map fun f => .bulk (h.get? f))
  | allEntries => .array (h.entries.flatMap fun e => [.value e.1, .value e.2])
  | allFields => .array (h.keys.map .value)
  | allValues => .array (h.values.map .value)
  | length => .count h.size
  | scan window => window.reply id h.entries

namespace Hash

/-- Removes fields one after another, counting those that were there. -/
def deleteAll (h : Hash) : List Bytes → Nat × Hash
  | [] => (0, h)
  | f :: fs =>
    let (n, rest) := deleteAll (h.erase f) fs
    (n + (h.contains f).toNat, rest)

/-- The integer in a field; an absent field counts as zero. -/
def integerAt (h : Hash) (field : Bytes) : Except Fault Int :=
  match h.get? field with
  | none => .ok 0
  | some text =>
    match Integral.ofToken? text with
    | some n => .ok n
    | none => .error .hashNotInteger

/-- The number in a field; an absent field counts as zero. -/
def numberAt (h : Hash) (field : Bytes) : Except Fault Score :=
  match h.get? field with
  | none => .ok (Binary64.zero false)
  | some text =>
    match Score.ofToken? text with
    | some s => .ok s
    | none => .error .hashNotFloat

/-- Adds an integer to a field. -/
def increment (h : Hash) (field : Bytes) (by_ : Int) : Except Fault Int × Hash :=
  match h.integerAt field with
  | .error f => (.error f, h)
  | .ok current =>
    let next := current + by_
    if Integral.fits next then (.ok next, h.insert field (Integral.token next))
    else (.error .overflow, h)

/-- Adds a number to a field. -/
def incrementFloat (h : Hash) (field : Bytes) (by_ : Score) : Except Fault Bytes × Hash :=
  match h.numberAt field with
  | .error f => (.error f, h)
  | .ok current =>
    let next := current.add by_
    if next.isFinite then (.ok (Score.token next), h.insert field (Score.token next))
    else (.error .notFinite, h)

end Hash

/-- Makes a change: the reply or a fault, and the hash afterwards. -/
def HashUpdate.run (h : Hash) : HashUpdate → Except Fault Reply × Hash
  | delete fields =>
    let (n, h₁) := h.deleteAll fields
    (.ok (.count n), h₁)
  | increment field by_ =>
    let (result, h₁) := h.increment field by_
    (result.map .integer, h₁)
  | incrementFloat field by_ =>
    let (result, h₁) := h.incrementFloat field by_
    (result.map .value, h₁)
  | setMany pairs => (.ok (.status "OK"), pairs.foldl (fun h p => h.insert p.1 p.2) h)
  | set field value => (.ok (.flag (!h.contains field)), h.insert field value)
  | setIfAbsent field value =>
    (.ok (.flag (!h.contains field)), if h.contains field then h else h.insert field value)

end KeyWalk
