import KeyWalk.Number.Decimal

/-!
The shortest decimal that reads back.

A finite floating-point number is written with the fewest digits that denote it: on ever finer
decimal grids `10 ^ k` the two neighbours of the number are tried, and the first grid on which one
of them rounds to the number gives the digits.  If both neighbours do, the nearer one is taken,
and the upper one if the number lies exactly between them.

* `Shortest.decimal m` is that decimal for a finite magnitude `m`,
* `Shortest.render a` is its positional text with sign; infinities are `inf` and `-inf`.
-/

namespace KeyWalk

namespace Shortest

/-- The decimal denotes the magnitude. -/
def denotes (m : Nat) (d : Decimal) : Bool :=
  match d.toBinary64 false with
  | .nan => false
  | .signed _ n _ => n == m

/-- The number of whole steps of the grid `10 ^ k` in `u` units of 2⁻¹⁰⁷⁴, and what is left over,
both as the parts of a division with a common divisor. -/
def steps (u : Nat) : Int → Nat × Nat × Nat
  | .ofNat k => let g := Nat.pow 10 k * Binary64.one; (u / g, u % g, g)
  | .negSucc k =>
    let n := u * Nat.pow 10 (k + 1)
    (n / Binary64.one, n % Binary64.one, Binary64.one)

/-- The neighbour of magnitude `m` on the grid `10 ^ k` that denotes `m`, if there is one. -/
def onGrid? (m : Nat) (k : Int) : Option Decimal :=
  let (q, r, g) := steps (Binary64.units m) k
  let below : Decimal := ⟨q, k⟩
  let above : Decimal := ⟨q + 1, k⟩
  match denotes m below, denotes m above with
  | true, true => some (if 2 * r < g then below else above)
  | true, false => some below
  | false, true => some above
  | false, false => none

/-- The first grid with a hit among `10 ^ k`, `10 ^ (k - 1)`, …, at most `n` of them. -/
def search (m : Nat) : Nat → Int → Option Decimal
  | 0, _ => none
  | n + 1, k => (onGrid? m k).or (search m n (k - 1))

/-- A decimal exponent at which the grid is coarser than the number. -/
def coarse (u : Nat) : Int := ((u.log2 : Int) + 1 - 1074) * 30103 / 100000 + 2

/-- The number itself as a decimal: a unit of 2⁻¹⁰⁷⁴ is `5 ^ 1074` units of 10⁻¹⁰⁷⁴. -/
def exact (m : Nat) : Decimal := ⟨Binary64.units m * Nat.pow 5 1074, -1074⟩

/-- The shortest decimal that denotes a finite magnitude. -/
def decimal (m : Nat) : Decimal :=
  if m = 0 then ⟨0, 0⟩
  else (search m 24 (coarse (Binary64.units m))).getD (exact m)

/-- The text of a number. -/
def render : Binary64 → List Char
  | .nan => ['N', 'a', 'N']
  | .signed negative m _ =>
    let body := if m = infMagnitude then ['i', 'n', 'f'] else (decimal m).positional
    if negative then '-' :: body else body

end Shortest

end KeyWalk
