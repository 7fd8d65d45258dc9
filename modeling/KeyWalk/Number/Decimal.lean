import KeyWalk.Number.Integral
import KeyWalk.Number.Binary64

/-!
Decimal numerals and the numbers that they denote.

A `Decimal` is a whole number of units of a power of ten.

* `Decimal.parse? cs` reads `digits[.digits][e[sign]digits]` with a digit before or after the
  point,
* `d.toBinary64 negative` is the nearest floating-point number,
* `d.positional` writes `d` without an exponent: `parse?` reads it back to the same value.
-/

namespace KeyWalk

/-- The number `digits · 10 ^ exponent`. -/
structure Decimal where
  digits : Nat
  exponent : Int
  deriving DecidableEq, Repr

namespace Decimal

/-- The exponent behind an `e`, zero if there is none. -/
def exponent? : List Char → Option Int
  | [] => some 0
  | 'e' :: cs => Integral.signedDigits? cs
  | _ :: _ => none

/-- The fraction behind a point, empty if there is none, with what follows it. -/
def fraction : List Char → List Char × List Char
  | '.' :: cs => (cs.takeWhile Char.isDigit, cs.dropWhile Char.isDigit)
  | cs => ([], cs)

/-- A numeral without a sign; the exponent mark is a small letter. -/
def parse? (cs : List Char) : Option Decimal :=
  let whole := cs.takeWhile Char.isDigit
  let (part, rest) := fraction (cs.dropWhile Char.isDigit)
  if whole = [] ∧ part = [] then none
  else (exponent? rest).map fun e =>
    { digits := Nat.ofDigitChars 10 (whole ++ part) 0, exponent := e - part.length }

/-- The nearest floating-point number of the given sign.  The two early cases only spare huge
powers of ten: there the number is beyond the greatest finite one, or below half the least
positive one, whatever its digits. -/
def toBinary64 (negative : Bool) (d : Decimal) : Binary64 :=
  if d.digits = 0 then .zero negative
  else match d.exponent with
    | .ofNat e =>
      if 310 < e then .inf negative
      else .round negative (d.digits * Nat.pow 10 e * Binary64.one) 1
    | .negSucc e =>
      if d.digits.log2 + 1100 < 3 * (e + 1) then .zero negative
      else .round negative (d.digits * Binary64.one) (Nat.pow 10 (e + 1))

/-- The numeral without an exponent: zeros fill the places down to the units, and a point with at
least one digit before it stands where the exponent says. -/
def positional (d : Decimal) : List Char :=
  let ds := Nat.toDigits 10 d.digits
  match d.exponent with
  | .ofNat e => ds ++ List.replicate e '0'
  | .negSucc e =>
    let places := e + 1
    let padded := List.replicate (places + 1 - ds.length) '0' ++ ds
    padded.take (padded.length - places) ++ '.' :: padded.drop (padded.length - places)

end Decimal

end KeyWalk
