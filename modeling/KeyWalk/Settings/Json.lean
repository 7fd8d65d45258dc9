import KeyWalk.Json.Text
import KeyWalk.Settings.Value

/-!
Settings from a JSON text.

Every text in it must be made of characters, every number must be finite, and arrays and objects
may be nested 127 deep.
-/

namespace KeyWalk

namespace Setting

/-- The integer fits into 64 bits, with a sign or without one. -/
def fitsWord (n : Int) : Bool := Integral.least ≤ n && n < Integral.unsignedBound

/-- A number: an integer of 64 bits if it is written as one, else a floating-point number. -/
def ofJsonNumber? (n : JsonNumber) : Option Setting :=
  match n.integer?.filter fitsWord with
  | some k => some (integer k)
  | none => if n.toBinary64.isFinite then some (float n.toBinary64) else none

/-- A value with at most `depth` levels of arrays and objects. -/
def ofJson? : (depth : Nat) → JsonValue → Option Setting
  | _, .null => some nil
  | _, .bool b => some (bool b)
  | _, .number n => ofJsonNumber? n
  | _, .text t => t.chars?.map fun cs => text (String.ofList cs)
  | 0, .array _ => none
  | n + 1, .array items => (items.mapM (ofJson? n)).map fun _ => list
  | 0, .object _ => none
  | n + 1, .object members =>
    (members.mapM fun (m : JsonText × JsonValue) => do
      return (String.ofList (← m.1.chars?), ← ofJson? n m.2)).map table

/-- The entries of a JSON text whose value is an object. -/
def entriesOfJson? (cs : List Char) : Option (List (String × Setting)) := do
  match ← ofJson? 127 (← JsonValue.parse? cs) with
  | table es => return es
  | _ => none

end Setting

end KeyWalk
