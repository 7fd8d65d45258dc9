/-
Byte strings.

Keys, fields, members, values and argument tokens are plain byte strings; only the texts that
people read are `String`s.

* `Bytes.ofString s` is the UTF-8 form of a text,
* `Bytes.upper b` is `b` with its ASCII letters raised; `Bytes.isWord w b` says that `b` spells
  the keyword `w` in any ASCII case.

Design notes.  A byte string is a list, so that reading one is recursion on its constructors and
the order `<` that ranges, scans and ties use is the library's lexicographic order of lists.
-/

namespace KeyWalk

/-- A byte string. -/
abbrev Bytes := List UInt8

namespace Bytes

/-- The UTF-8 bytes of a text. -/
def ofString (s : String) : Bytes := s.toByteArray.data.toList

/-- An ASCII small letter becomes its capital, any other byte stays. -/
def upperByte (b : UInt8) : UInt8 := if 0x61 ≤ b && b ≤ 0x7A then b - 0x20 else b

/-- The byte string with its ASCII small letters raised. -/
def upper (b : Bytes) : Bytes := b.map upperByte

/-- The bytes spell the keyword `w`, which is given in capitals, in any ASCII case. -/
def isWord (w : String) (b : Bytes) : Bool := upper b == ofString w

/-- The first byte string is before the second one: at the first place where they differ, or as a
beginning of it. -/
def isBelow : Bytes → Bytes → Bool
  | _, [] => false
  | [], _ :: _ => true
  | a :: r, b :: s => if a = b then isBelow r s else a < b

theorem isBelow_iff_lt (a b : Bytes) : isBelow a b = true ↔ a < b := by
  induction a generalizing b with
  | nil => cases b <;> simp [isBelow]
  | cons x r ih =>
    cases b with
    | nil => simp [isBelow]
    | cons y s =>
      rw [isBelow, List.cons_lt_cons_iff]
      split
      · rename_i h
        subst h
        simp [ih, UInt8.lt_irrefl]
      · rename_i h
        simp [h]

/-- The order is decided in one pass over the bytes. -/
instance : DecidableLT Bytes := fun a b => decidable_of_iff _ (isBelow_iff_lt a b)

end Bytes

end KeyWalk
