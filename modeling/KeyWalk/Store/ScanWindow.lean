import KeyWalk.Reply

/-!
The window of one scan step.

A cursor is the decimal offset of the window's first entry in name order.  The window covers
`count` positions from there, and the pattern, if any, filters what lies in it, so that a page may
be empty while the walk still runs.

* `GlobEngine` is what patterns are compiled with, whatever it takes for a pattern,
* `w.next n` is the offset of the next window over `n` entries,
* `w.page entries` is what this one shows.

Design notes.  Offsets and counts are words of 64 bits, and adding them stops at the greatest one.
-/

namespace KeyWalk

/-- A compiled pattern: the names that it matches. -/
abbrev Matcher := List Char → Bool

/-- What patterns are compiled with.  A pattern that cannot be compiled comes with the reason. -/
class GlobEngine where
  compile (pattern : List Char) : Except String Matcher

/-- What one scan step looks at. -/
structure ScanWindow where
  offset : Nat
  count : Nat := 10
  pattern : Option Matcher := none

namespace ScanWindow

variable {β : Type}

/-- The pattern lets the name through; ill-formed bytes of the name count as U+FFFD. -/
def admits (w : ScanWindow) (name : Bytes) : Bool :=
  match w.pattern with
  | none => true
  | some matcher => matcher (Utf8.lossy name)

/-- The position behind the window. -/
def stop (w : ScanWindow) : Nat := Integral.saturatingAdd w.offset w.count

/-- The offset to continue from over `n` entries, zero at the end. -/
def next (w : ScanWindow) (n : Nat) : Nat := if n ≤ w.stop then 0 else w.stop

/-- The entries of the step. -/
def page (w : ScanWindow) (entries : List (Bytes × β)) : List (Bytes × β) :=
  ((entries.drop w.offset).take w.count).filter fun e => w.admits e.1

/-- The reply of the step: the next cursor, and the entries with their values as tokens. -/
def reply (w : ScanWindow) (value : β → Bytes) (entries : List (Bytes × β)) : Reply :=
  .array [.value (Integral.token (w.next entries.length)),
    .array ((w.page entries).flatMap fun e => [.value e.1, .value (value e.2)])]

end ScanWindow

end KeyWalk
