import KeyWalk.Number.Decimal

/-!
JSON values.

A `JsonValue` is what a text spells.  Nothing is lost that a reader could want to refuse later:

* a number keeps its numeral: the sign, the exact decimal and whether it was written as a plain
  integer,
* a text keeps its code units, so that a lone surrogate stays one, and whether a control character
  stood in it unescaped.

Objects keep their members in order, repetitions included.  A `JsonCodec` is what texts are written
and read with, whatever they look like.
-/

namespace KeyWalk

/-- A numeral. -/
structure JsonNumber where
  negative : Bool
  size : Decimal
  /-- There is neither a fraction nor an exponent. -/
  plain : Bool
  deriving DecidableEq, Repr

/-- The integer of a plain numeral; `-0` denotes none. -/
def JsonNumber.integer? (n : JsonNumber) : Option Int :=
  if !n.plain || (n.negative && n.size.digits == 0) then none
  else some (if n.negative then -(n.size.digits : Int) else n.size.digits)

/-- The number as a floating-point number. -/
def JsonNumber.toBinary64 (n : JsonNumber) : Binary64 := n.size.toBinary64 n.negative

/-- A text between quotes: what it spells, an escape `\u` counting as one unit of 16 bits and any
other character as one unit, and whether a control character stood there as it is. -/
structure JsonText where
  units : List Nat
  raw : Bool
  deriving DecidableEq, Repr

namespace JsonText

/-- A unit that can only be the first of a pair. -/
def isLeading (n : Nat) : Bool := 0xD800 ≤ n && n ≤ 0xDBFF

/-- A unit that can only be the second of a pair. -/
def isTrailing (n : Nat) : Bool := 0xDC00 ≤ n && n ≤ 0xDFFF

/-- The code points of the units: pairs are joined, and what has no partner stays. -/
def joined : List Nat → List Nat
  | [] => []
  | [a] => [a]
  | a :: b :: r =>
    if isLeading a && isTrailing b then
      (0x10000 + (a - 0xD800) * 0x400 + (b - 0xDC00)) :: joined r
    else a :: joined (b :: r)

/-- The characters, if no surrogate is alone and no control character unescaped. -/
def chars? (t : JsonText) : Option (List Char) :=
  let points := joined t.units
  if t.raw || points.any (fun n => isLeading n || isTrailing n) then none
  else some (points.map Char.ofNat)

/-- The bytes of a code point, those of a lone surrogate by the same scheme. -/
def pointBytes (n : Nat) : Bytes :=
  if isLeading n || isTrailing n then
    [UInt8.ofNat (0xE0 + n / 0x1000), UInt8.ofNat (0x80 + n / 0x40 % 0x40),
      UInt8.ofNat (0x80 + n % 0x40)]
  else String.utf8EncodeChar (Char.ofNat n)

/-- The bytes of a text, whatever stands in it. -/
def bytes (t : JsonText) : Bytes := (joined t.units).flatMap pointBytes

/-- The text with one more unit in front. -/
def cons (n : Nat) (t : JsonText) : JsonText := { t with units := n :: t.units }

end JsonText

/-- A JSON value. -/
inductive JsonValue where
  | null
  | bool (b : Bool)
  | number (n : JsonNumber)
  | text (t : JsonText)
  | array (items : List JsonValue)
  | object (members : List (JsonText × JsonValue))

/-- What can stand in a record that is written. -/
inductive JsonMember where
  | bytes (b : Bytes)
  | flag (b : Bool)

/-- What JSON texts are written and read with. -/
class JsonCodec where
  /-- The text of a record, from the names and values of its members. -/
  write (members : List (String × JsonMember)) : List Char
  /-- The value that a text spells. -/
  read? (cs : List Char) : Option JsonValue

end KeyWalk
