/-
The text of a YAML document while it is read.

An `Input` is what is left of a text, with the place that was reached: the line and the column
decide what belongs to what.

* `Input.next` goes one character on, `Input.skip` several, `Input.skipWhile` over a run,
* `Input.skipLineGap` goes over the blanks and the comment up to the end of a line.

Line ends are single line feeds here; `Input.ofText` makes them so, and ends a text at its first
null character.
-/

namespace KeyWalk

namespace Yaml

/-- What is left of a text, and the place that was reached. -/
structure Input where
  chars : List Char
  line : Nat := 0
  column : Nat := 0
  index : Nat := 0
  /-- Only blanks stand before the place on its line. -/
  leading : Bool := true

/-- A blank. -/
def isBlank (c : Char) : Bool := c = ' ' || c = '\t'

/-- The end of a line, or of the text. -/
def isLineEnd (c? : Option Char) : Bool := c? = none || c? = some '\n'

/-- A blank, or the end of a line or of the text. -/
def isGap (c? : Option Char) : Bool := isLineEnd c? || c?.any isBlank

/-- A mark of flow style. -/
def isFlowMark (c : Char) : Bool :=
  c = ',' || c = '[' || c = ']' || c = '\x7b' || c = '\x7d'

/-- Line feeds for all line ends, up to the first null character. -/
def unifyLines : List Char → List Char
  | [] => []
  | '\x00' :: _ => []
  | '\r' :: '\n' :: r => '\n' :: unifyLines r
  | '\r' :: r => '\n' :: unifyLines r
  | c :: r => c :: unifyLines r

namespace Input

/-- The start of a text. -/
def ofText (cs : List Char) : Input := { chars := unifyLines cs }

/-- The character at the place, or `n` places behind it. -/
def at? (i : Input) (n : Nat) : Option Char := i.chars[n]?

/-- The next character. -/
def head? (i : Input) : Option Char := i.chars.head?

/-- One character on. -/
def next (i : Input) : Input :=
  match i.chars with
  | [] => i
  | c :: r =>
    if c = '\n' then { chars := r, line := i.line + 1, index := i.index + 1 }
    else { chars := r, line := i.line, column := i.column + 1, index := i.index + 1,
           leading := i.leading && isBlank c }

/-- Some characters on. -/
def skip (i : Input) : Nat → Input
  | 0 => i
  | n + 1 => i.next.skip n

/-- The run of characters of a kind. -/
def run (i : Input) (p : Char → Bool) : List Char := i.chars.takeWhile p

/-- Behind a run of characters of a kind. -/
def skipWhile (i : Input) (p : Char → Bool) : Input := i.skip (i.run p).length

/-- Behind the characters of this line. -/
def skipLine (i : Input) : Input := i.skipWhile (· ≠ '\n')

/-- A marker of three equal characters stands alone at the start of a line. -/
def startsMarker (i : Input) (c : Char) : Bool :=
  i.column = 0 && i.chars.take 3 == [c, c, c] && isGap (i.at? 3)

/-- A document starts or ends here. -/
def atMarker (i : Input) : Bool := i.startsMarker '-' || i.startsMarker '.'

/-- What a gap inside a line is made of. -/
structure LineGap where
  hasTab : Bool
  hasSpace : Bool

/-- Behind the blanks and the comment up to the end of the line; `none` if there is a comment
without a blank in front.  The flag says whether tabs count as blanks. -/
def skipLineGap (i : Input) (tabs : Bool) : Option (Input × LineGap) :=
  let blanks := i.run fun c => c = ' ' || (tabs && c = '\t')
  let j := i.skip blanks.length
  let gap : LineGap := ⟨blanks.contains '\t', blanks.contains ' '⟩
  if j.head? = some '#' then if blanks = [] then none else some (j.skipLine, gap)
  else some (j, gap)

end Input

end Yaml

end KeyWalk
