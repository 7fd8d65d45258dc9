import KeyWalk.Cursor
import KeyWalk.Json

/-!
Cursors on paper: the JSON form that a walk can be resumed from.

* `c.toJson` is a record of the position, which is bytes, and whether the walk is over,
* `Cursor.ofJson? cs` reads a cursor from an object with the position as an array of byte numbers.
  It also takes the two parts in an array, the position as a text, and members that it does not
  know; a member that is missing or given twice is refused.
-/

namespace KeyWalk

namespace Cursor

/-- The JSON form of a cursor. -/
def toJson [JsonCodec] (c : Cursor) : List Char :=
  JsonCodec.write [("position", .bytes c.position), ("finished", .flag c.finished)]

/-- A byte. -/
def byteOf? : JsonValue → Option UInt8
  | .number n =>
    match n.integer? with
    | some (.ofNat k) => if k < 256 then some (UInt8.ofNat k) else none
    | _ => none
  | _ => none

/-- A position. -/
def positionOf? : JsonValue → Option Bytes
  | .array items => items.mapM byteOf?
  | .text t => some t.bytes
  | _ => none

/-- A cursor from its two parts. -/
def ofParts? (position finished : JsonValue) : Option Cursor :=
  match positionOf? position, finished with
  | some p, .bool b => some ⟨p, b⟩
  | _, _ => none

mutual

/-- The value is clean: no text in it holds an unescaped control character. -/
def isClean : JsonValue → Bool
  | .text t => !t.raw
  | .array items => areClean items
  | .object members => areCleanMembers members
  | _ => true

/-- All items are clean. -/
def areClean : List JsonValue → Bool
  | [] => true
  | v :: r => isClean v && areClean r

/-- All members are clean, and their names as well. -/
def areCleanMembers : List (JsonText × JsonValue) → Bool
  | [] => true
  | (k, v) :: r => !k.raw && isClean v && areCleanMembers r

end

/-- The member with a name, if there is exactly one. -/
def only? (name : String) (members : List (List Char × JsonValue)) : Option JsonValue :=
  match members.filter fun m => m.1 == name.toList with
  | [m] => some m.2
  | _ => none

/-- A member without a meaning for a cursor. -/
def isForeign (m : List Char × JsonValue) : Bool :=
  m.1 != "position".toList && m.1 != "finished".toList

/-- A cursor from the members of an object. -/
def ofMembers? (members : List (JsonText × JsonValue)) : Option Cursor := do
  let named ← members.mapM fun m => m.1.chars?.map fun k => (k, m.2)
  if (named.filter isForeign).any fun m => !isClean m.2 then
    none
  ofParts? (← only? "position" named) (← only? "finished" named)

/-- The cursor that a JSON text spells. -/
def ofJson? [JsonCodec] (cs : List Char) : Option Cursor :=
  match JsonCodec.read? cs with
  | some (.array [p, f]) => ofParts? p f
  | some (.object members) => ofMembers? members
  | _ => none

end Cursor

end KeyWalk
