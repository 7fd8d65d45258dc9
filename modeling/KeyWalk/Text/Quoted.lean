import KeyWalk.Bytes
import KeyWalk.Text.Hidden

/-!
Quoted texts, as they stand inside error messages.

* `Quoted.text cs` is a text between double quotes, with backslash escapes for quotes,
  backslashes and the common controls, and `\x7bhex\x7d` numbers for other hidden characters,
* `Quoted.bytes b` is a byte string between double quotes behind a `b`, with every byte outside
  printable ASCII as two hexadecimal digits.
-/

namespace KeyWalk

namespace Quoted

/-- One character inside a quoted text. -/
def char (c : Char) : List Char :=
  if c = '\x00' then ['\\', '0']
  else if c = '\t' then ['\\', 't']
  else if c = '\r' then ['\\', 'r']
  else if c = '\n' then ['\\', 'n']
  else if c = '\\' || c = '"' then ['\\', c]
  else if Text.isHidden c then
    ['\\', 'u', '\x7b'] ++ Nat.toDigits 16 c.toNat ++ ['\x7d']
  else [c]

/-- A text between double quotes. -/
def text (cs : List Char) : String :=
  String.ofList ('"' :: cs.flatMap char ++ ['"'])

/-- One byte inside a quoted byte string. -/
def byte (b : UInt8) : List Char :=
  if b = 0 then ['\\', '0']
  else if b = 0x09 then ['\\', 't']
  else if b = 0x0A then ['\\', 'n']
  else if b = 0x0D then ['\\', 'r']
  else if b = 0x22 || b = 0x5C then ['\\', Char.ofNat b.toNat]
  else if 0x20 ≤ b && b ≤ 0x7E then [Char.ofNat b.toNat]
  else ['\\', 'x', Nat.digitChar (b.toNat / 16), Nat.digitChar (b.toNat % 16)]

/-- A byte string between double quotes behind a `b`. -/
def bytes (b : Bytes) : String :=
  String.ofList ('b' :: '"' :: b.flatMap byte ++ ['"'])

end Quoted

end KeyWalk
