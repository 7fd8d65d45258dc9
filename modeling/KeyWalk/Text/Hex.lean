/-
Hexadecimal numerals.

`Hex.value? cs` is the number that a nonempty run of hexadecimal digits spells, letters in either
case.
-/

namespace KeyWalk

namespace Hex

/-- The value of a hexadecimal digit. -/
def digit? (c : Char) : Option Nat :=
  if c.isDigit then some (c.toNat - 0x30)
  else if 'a' ≤ c ∧ c ≤ 'f' then some (c.toNat - 0x57)
  else if 'A' ≤ c ∧ c ≤ 'F' then some (c.toNat - 0x37)
  else none

/-- The value of a run of digits, behind the value of those before it. -/
def run? : Nat → List Char → Option Nat
  | n, [] => some n
  | n, c :: cs => (digit? c).bind fun d => run? (16 * n + d) cs

/-- The value of a nonempty run of digits. -/
def value? (cs : List Char) : Option Nat := if cs = [] then none else run? 0 cs

end Hex

end KeyWalk
