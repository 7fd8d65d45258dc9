/-
Binary floating-point numbers of 64 bits.

A `Binary64` is the single not-a-number `nan`, or a sign and a magnitude.  The magnitude counts
the representable non-negative numbers from zero upward: 0 is zero, 1 the least positive number,
`infMagnitude` is infinity.  So the order of magnitudes is the order of the numbers, and the
magnitude is at the same time the word of 63 bits that stores the number.

* `units m` is the exact value of a finite magnitude, in units of 2⁻¹⁰⁷⁴,
* `nearest num den` is the magnitude nearest to the exact quotient `num / den` of units, a tie
  going to the even one, and infinity from the usual bound on,
* `add`, `mul` and `ofNat` are the exact result, rounded once,
* `key` is the total order: `-0` and `0` share a key, `nan` is greater than every number.

Design notes.  No floating-point operation of the machine takes part: everything is arithmetic
of natural numbers, so each law about scores is a law about naturals.
-/

namespace KeyWalk

/-- The magnitude of infinity. -/
abbrev infMagnitude : Nat := 0x7FF0000000000000

/-- A binary floating-point number of 64 bits, with one not-a-number. -/
inductive Binary64 where
  | nan
  | signed (negative : Bool) (magnitude : Nat) (bounded : magnitude ≤ infMagnitude)
  deriving DecidableEq, Repr

namespace Binary64

/-! ### Magnitudes -/

/-- The magnitudes are laid out in stretches of 2⁵² neighbours at equal distance. -/
abbrev stretch : Nat := 0x10000000000000

/-- The number one, in units of 2⁻¹⁰⁷⁴. -/
def one : Nat := Nat.pow 2 1074

/-- The exact value of a finite magnitude, in units of 2⁻¹⁰⁷⁴.  In the first two stretches
neighbours are one unit apart; from there on the distance doubles with every stretch. -/
def units (m : Nat) : Nat :=
  if m < 2 * stretch then m
  else (m % stretch + stretch) * Nat.pow 2 (m / stretch - 1)

/-- The quotient rounded to the nearest natural number, a tie to the even one. -/
def roundDiv (num den : Nat) : Nat :=
  let q := num / den
  let r := num % den
  if 2 * r < den then q
  else if den < 2 * r then q + 1
  else if q % 2 = 0 then q else q + 1

/-- The magnitude nearest to `num / den` units. -/
def nearest (num den : Nat) : Nat :=
  let e := (num / den).log2 - 52
  min infMagnitude (e * stretch + roundDiv num (den * Nat.pow 2 e))

theorem nearest_le (num den : Nat) : nearest num den ≤ infMagnitude := Nat.min_le_left _ _

/-- The number of the given sign nearest to `num / den` units. -/
def round (negative : Bool) (num den : Nat) : Binary64 :=
  .signed negative (nearest num den) (nearest_le num den)

/-! ### Constants and classes -/

/-- Zero of the given sign. -/
def zero (negative : Bool) : Binary64 := .signed negative 0 (Nat.zero_le _)

/-- Infinity of the given sign. -/
def inf (negative : Bool) : Binary64 := .signed negative infMagnitude (Nat.le_refl _)

instance : Inhabited Binary64 := ⟨zero false⟩

/-- The value is not a number. -/
def isNaN : Binary64 → Bool
  | nan => true
  | signed .. => false

/-- The value is neither infinite nor `nan`. -/
def isFinite : Binary64 → Bool
  | nan => false
  | signed _ m _ => m < infMagnitude

/-- The value is plus infinity. -/
def isPosInf (a : Binary64) : Bool := a == inf false

/-- The value is minus infinity. -/
def isNegInf (a : Binary64) : Bool := a == inf true

/-! ### Order -/

/-- The place of a value in the total order. -/
def key : Binary64 → Int
  | nan => 0x7FF8000000000000
  | signed false m _ => m
  | signed true m _ => -m

/-- Less than; `nan` is less than nothing and nothing is less than it. -/
def lt (a b : Binary64) : Bool := !a.isNaN && !b.isNaN && a.key < b.key

/-- Less than or equal, both being numbers. -/
def le (a b : Binary64) : Bool := !a.isNaN && !b.isNaN && a.key ≤ b.key

/-- The lesser of two values, the number if only one is one. -/
def min (a b : Binary64) : Binary64 :=
  if a.isNaN then b else if b.isNaN then a else if b.key < a.key then b else a

/-- The greater of two values, the number if only one is one. -/
def max (a b : Binary64) : Binary64 :=
  if a.isNaN then b else if b.isNaN then a else if a.key < b.key then b else a

/-! ### Arithmetic -/

/-- The exact value of a finite number, in units of 2⁻¹⁰⁷⁴. -/
def signedUnits (negative : Bool) (m : Nat) : Int :=
  if negative then -(units m : Int) else units m

/-- The sum, rounded once.  Opposite infinities have no sum; a zero sum is negative only if both
summands are. -/
def add : Binary64 → Binary64 → Binary64
  | nan, _ => nan
  | signed .., nan => nan
  | signed s m _, signed t n _ =>
    if m = infMagnitude then
      if n = infMagnitude ∧ s ≠ t then nan else inf s
    else if n = infMagnitude then inf t
    else
      let total := signedUnits s m + signedUnits t n
      if total = 0 then zero (s && t) else round (total < 0) total.natAbs 1

/-- The product, rounded once.  Zero times infinity is not a number. -/
def mul : Binary64 → Binary64 → Binary64
  | nan, _ => nan
  | signed .., nan => nan
  | signed s m _, signed t n _ =>
    if m = infMagnitude then
      if n = 0 then nan else inf (s ^^ t)
    else if n = infMagnitude then
      if m = 0 then nan else inf (s ^^ t)
    else round (s ^^ t) (units m * units n) one

/-- A natural number, rounded. -/
def ofNat (n : Nat) : Binary64 := round false (n * one) 1

/-- The value with zero in place of `nan`. -/
def nanToZero (a : Binary64) : Binary64 := if a.isNaN then zero false else a

/-! ### Words -/

/-- The bit of the sign in a word. -/
abbrev signBit : Nat := 0x8000000000000000

/-- The word of 64 bits that stores the value. -/
def toBits : Binary64 → UInt64
  | nan => 0x7FF8000000000000
  | signed s m _ => UInt64.ofNat (m + if s then signBit else 0)

/-- The value that a word of 64 bits stores. -/
def ofBits (w : UInt64) : Binary64 :=
  let m := w.toNat % signBit
  if h : m ≤ infMagnitude then .signed (signBit ≤ w.toNat) m h else nan

end Binary64

end KeyWalk
