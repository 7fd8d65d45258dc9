import KeyWalk.Text.Utf8

/-!
Whole numbers in decimal.

* `Integral.signed? cs` reads one optional sign and at least one digit, and refuses what does not
  fit into 64 bits with a sign,
* `Integral.unsigned? cs` reads the same without a minus sign, for 64 bits without a sign,
* `Integral.render n` writes the shortest form, which both read back where it fits.
-/

namespace KeyWalk

namespace Integral

/-- The least 64-bit integer. -/
def least : Int := -0x8000000000000000

/-- The greatest 64-bit integer. -/
def greatest : Int := 0x7FFFFFFFFFFFFFFF

/-- One past the greatest unsigned 64-bit integer. -/
def unsignedBound : Nat := 0x10000000000000000

/-- The sum of two unsigned 64-bit integers, cut off at the greatest one. -/
def saturatingAdd (a b : Nat) : Nat := min (a + b) (unsignedBound - 1)

/-- The integer fits into 64 bits with a sign. -/
def fits (n : Int) : Bool := least ≤ n && n ≤ greatest

/-- The value of a nonempty run of decimal digits. -/
def digits? (cs : List Char) : Option Nat :=
  if cs ≠ [] ∧ cs.all Char.isDigit then some (Nat.ofDigitChars 10 cs 0) else none

/-- A run of digits behind at most one sign. -/
def signedDigits? : List Char → Option Int
  | '-' :: cs => (digits? cs).map fun n => -(n : Int)
  | '+' :: cs => (digits? cs).map Int.ofNat
  | cs => (digits? cs).map Int.ofNat

/-- A 64-bit integer. -/
def signed? (cs : List Char) : Option Int := (signedDigits? cs).filter fits

/-- An unsigned 64-bit integer; a plus sign is allowed, a minus sign is not. -/
def unsigned? (cs : List Char) : Option Nat :=
  let digits := match cs with
    | '+' :: r => r
    | r => r
  (digits? digits).filter (· < unsignedBound)

/-- The shortest decimal form: no leading zeros, a sign only if negative. -/
def render : Int → List Char
  | .ofNat n => Nat.toDigits 10 n
  | .negSucc n => '-' :: Nat.toDigits 10 (n + 1)

/-- An integer as an argument token. -/
def token (n : Int) : Bytes := Utf8.encode (render n)

/-- A 64-bit integer spelled by a token. -/
def ofToken? (b : Bytes) : Option Int := Utf8.decode? b >>= signed?

end Integral

end KeyWalk
