import KeyWalk.Settings.Value
import KeyWalk.Text.Hex

/-!
Settings from keys in sections (INI).

`[name]` opens a section, `key = value` or `key: value` sets a text, and a line that starts with
`;` or `#` is a comment.  Keys before the first section stand at the top; a section that is opened
again starts anew.

* A backslash is an escape everywhere; one at the end of a line joins it to the next.
* A value goes to the end of its line.  Parts of it between quotes may go on over several lines,
  and what stands behind them belongs to the value.
* A key goes up to its mark, over line ends too; a comment that is not at the start of its line is
  part of a key.

`Sections.entries? cs` are the entries of a text.
-/

namespace KeyWalk

namespace Sections

/-! ### Texts -/

/-- The character of an escape with one letter; other characters stand for themselves. -/
def escape (c : Char) : Char :=
  if c = '0' then '\x00'
  else if c = 'a' then '\x07'
  else if c = 'b' then '\x08'
  else if c = 't' then '\t'
  else if c = 'r' then '\r'
  else if c = 'n' then '\n'
  else c

/-- The character with a number of four digits; a plus sign may stand for the first. -/
def scalar? (a b c d : Char) : Option Char := do
  let n ← if a = '+' then Hex.value? [b, c, d] else Hex.value? [a, b, c, d]
  if n.isValidChar then some (Char.ofNat n) else none

/-- One more character in front of what was read. -/
def prepend (c : Char) (p : List Char × List Char) : List Char × List Char := (c :: p.1, p.2)

/-- The text up to a character that stops it, with what follows from there on; the flag says that
the end of everything stops it too. -/
def readUntil (stops : Char → Bool) (mayEnd : Bool) : List Char → Option (List Char × List Char)
  | [] => if mayEnd then some ([], []) else none
  | ['\\'] => if mayEnd then some (['\\'], []) else none
  | '\\' :: '\n' :: r => readUntil stops mayEnd r
  | '\\' :: 'x' :: a :: b :: c :: d :: r => do
    return prepend (← scalar? a b c d) (← readUntil stops mayEnd r)
  | '\\' :: c :: r =>
    if c = 'x' then none else (readUntil stops mayEnd r).map (prepend (escape c))
  | c :: r =>
    if stops c then some ([], c :: r) else (readUntil stops mayEnd r).map (prepend c)

/-- A character that ends a line. -/
def isLineEnd (c : Char) : Bool := c = '\n' || c = '\r'

/-- The text without the blanks at its end. -/
def trimEnd (cs : List Char) : List Char := (cs.reverse.dropWhile Text.isBlank).reverse

/-- The parts of a value from some place on, at most `n` of them, with what follows; the flag says
that no part came before. -/
def readParts : (n : Nat) → (first : Bool) → List Char → Option (List Char × List Char)
  | 0, _, _ => none
  | _, _, [] => some ([], [])
  | n + 1, first, c :: r =>
    if c = '"' || c = '\'' then do
      let (part, rest) ← readUntil (· = c) false r
      let (more, rest) ← readParts n false (rest.drop 1)
      return (part ++ more, rest)
    else do
      let (part, rest) ← readUntil isLineEnd true (c :: r)
      return (if first then Text.trim part else trimEnd part, rest)

/-- A value behind its mark, with what follows. -/
def readValue (cs : List Char) : Option (List Char × List Char) :=
  let start := cs.dropWhile fun c => Text.isBlank c && !isLineEnd c
  readParts (start.length + 1) true start

/-! ### Documents -/

/-- What was read so far. -/
structure State where
  /-- The keys at the top, the latest first. -/
  top : List (String × String) := []
  /-- The sections with their keys, the latest first. -/
  sections : List (String × List (String × String)) := []
  /-- A key that waits for its mark. -/
  key : List Char := []

namespace State

/-- Opens a section. -/
def openSection (s : State) (name : List Char) : State :=
  { s with sections := (String.ofList (Text.trim name), []) :: s.sections }

/-- Takes a value for the key that waits. -/
def add (s : State) (value : List Char) : State :=
  let entry := (String.ofList s.key, String.ofList value)
  match s.sections with
  | [] => { s with top := entry :: s.top, key := [] }
  | (name, es) :: r => { s with sections := (name, entry :: es) :: r, key := [] }

/-- A table of texts; later ones replace earlier ones. -/
def tableOf (es : List (String × String)) : Setting :=
  es.reverse.foldl (fun t e => t.put e.1 (.text e.2)) (.table [])

/-- All that was read as one table; sections replace keys. -/
def toSetting (s : State) : Setting :=
  s.sections.reverse.foldl (fun t e => t.put e.1 (tableOf e.2)) (tableOf s.top)

end State

/-- The text behind blanks; the flags before and after say that the place is the start of a
line. -/
def skipBlanks : (atStart : Bool) → List Char → Bool × List Char
  | atStart, [] => (atStart, [])
  | atStart, c :: r => if Text.isBlank c then skipBlanks (c = '\n') r else (atStart, c :: r)

/-- Reads at most `n` items: comments, headers, keys and values. -/
def read? : (n : Nat) → (atStart : Bool) → State → List Char → Option State
  | 0, _, _, _ => none
  | n + 1, atStart, s, cs =>
    match skipBlanks atStart cs with
    | (_, []) => some s
    | (atStart, c :: r) =>
      if (c = ';' || c = '#') && atStart then
        read? n true s ((r.dropWhile (· ≠ '\n')).drop 1)
      else if c = '[' then do
        let (name, rest) ← readUntil (· = ']') false r
        read? n false (s.openSection name) (rest.drop 1)
      else if c = '=' || c = ':' then do
        if s.key = [] then
          none
        let (value, rest) ← readValue r
        read? n false (s.add value) rest
      else do
        let (key, rest) ← readUntil (fun c => c = '=' || c = ':') true (c :: r)
        read? n false { s with key := Text.trim key } rest

/-- The entries of a text. -/
def entries? (cs : List Char) : Option (List (String × Setting)) :=
  (read? (cs.length + 1) true {} cs).map fun s => s.toSetting.entries

end Sections

end KeyWalk
