/-
Blanks.

`Text.isBlank` is the Unicode property White_Space, `Text.trim` takes blanks off both ends of a
text, and `Text.lower` and `Text.upper` change the case of ASCII letters only.
-/

namespace KeyWalk.Text

/-- The characters with the Unicode property White_Space. -/
def isBlank (c : Char) : Bool :=
  let n := c.toNat
  (0x09 ≤ n && n ≤ 0x0D) || n == 0x20 || n == 0x85 || n == 0xA0 || n == 0x1680 ||
    (0x2000 ≤ n && n ≤ 0x200A) || n == 0x2028 || n == 0x2029 || n == 0x202F || n == 0x205F ||
    n == 0x3000

/-- The text without the blanks at its two ends. -/
def trim (cs : List Char) : List Char :=
  ((cs.dropWhile isBlank).reverse.dropWhile isBlank).reverse

/-- ASCII capitals lowered, all else kept. -/
def lower (cs : List Char) : List Char := cs.map Char.toLower

/-- ASCII small letters raised, all else kept. -/
def upper (cs : List Char) : List Char := cs.map Char.toUpper

end KeyWalk.Text
