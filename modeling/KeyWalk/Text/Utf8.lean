import KeyWalk.Bytes

/-!
UTF-8, read strictly or leniently.

`Utf8.pieces` cuts a byte string into the characters it spells and the ill-formed stretches
between them, each stretch a longest beginning of some well-formed sequence (or a single byte
that begins none).  Both readers are views of it:

* `Utf8.decode? b` is the text if nothing is ill-formed,
* `Utf8.lossy b` puts U+FFFD in place of every ill-formed stretch,
* `Utf8.encode cs` is the way back.
-/

namespace KeyWalk

namespace Utf8

/-- A byte that may continue a sequence: `10xxxxxx`. -/
def isCont (b : UInt8) : Bool := 0x80 ≤ b && b ≤ 0xBF

/-- The second bytes that may follow a leading byte: the ranges leave out overlong forms,
surrogates and code points beyond U+10FFFF. -/
def isSecond (lead b : UInt8) : Bool :=
  if lead == 0xE0 then 0xA0 ≤ b && b ≤ 0xBF
  else if lead == 0xED then 0x80 ≤ b && b ≤ 0x9F
  else if lead == 0xF0 then 0x90 ≤ b && b ≤ 0xBF
  else if lead == 0xF4 then 0x80 ≤ b && b ≤ 0x8F
  else isCont b

/-- The six payload bits of a continuing byte. -/
def payload (b : UInt8) : Nat := b.toNat % 64

/-- The characters of a byte string in order, `none` for each ill-formed stretch. -/
def pieces : Bytes → List (Option Char)
  | [] => []
  | a :: r =>
    if a < 0x80 then some (Char.ofNat a.toNat) :: pieces r
    else if 0xC2 ≤ a && a ≤ 0xDF then
      match r with
      | b :: r₁ =>
        if isCont b then some (Char.ofNat (a.toNat % 32 * 64 + payload b)) :: pieces r₁
        else none :: pieces (b :: r₁)
      | [] => [none]
    else if 0xE0 ≤ a && a ≤ 0xEF then
      match r with
      | b :: c :: r₂ =>
        if isSecond a b then
          if isCont c then
            some (Char.ofNat ((a.toNat % 16 * 64 + payload b) * 64 + payload c)) :: pieces r₂
          else none :: pieces (c :: r₂)
        else none :: pieces (b :: c :: r₂)
      | [b] => if isSecond a b then [none] else none :: pieces [b]
      | [] => [none]
    else if 0xF0 ≤ a && a ≤ 0xF4 then
      match r with
      | b :: c :: d :: r₃ =>
        if isSecond a b then
          if isCont c then
            if isCont d then
              some (Char.ofNat
                (((a.toNat % 8 * 64 + payload b) * 64 + payload c) * 64 + payload d)) :: pieces r₃
            else none :: pieces (d :: r₃)
          else none :: pieces (c :: d :: r₃)
        else none :: pieces (b :: c :: d :: r₃)
      | [b, c] =>
        if isSecond a b then
          if isCont c then [none] else none :: pieces [c]
        else none :: pieces [b, c]
      | [b] => if isSecond a b then [none] else none :: pieces [b]
      | [] => [none]
    else none :: pieces r

/-- The text that a byte string spells, if it is well-formed throughout. -/
def decode? (b : Bytes) : Option (List Char) := (pieces b).mapM id

/-- The text with U+FFFD in place of every ill-formed stretch. -/
def lossy (b : Bytes) : List Char := (pieces b).map (·.getD '\uFFFD')

/-- The lossy text as a string. -/
def lossyString (b : Bytes) : String := String.ofList (lossy b)

/-- The bytes of a text. -/
def encode (cs : List Char) : Bytes := cs.flatMap String.utf8EncodeChar

end Utf8

end KeyWalk
