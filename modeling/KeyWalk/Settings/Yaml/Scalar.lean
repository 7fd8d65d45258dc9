import KeyWalk.Settings.Value
import KeyWalk.Settings.Yaml.Input
import KeyWalk.Text.Hex

/-!
Scalars of a YAML text, and what they mean.

* `Yaml.readPlain` reads a scalar without quotes, `readQuoted` one between quotes and `readBlock`
  one that stands on lines of its own, each with what follows,
* `Leaf.ofPlain` is the kind that a scalar without quotes suggests.

A scalar may go on over several lines: one line end between words counts as a space, and of more
of them each beyond the first stays a line end.
-/

namespace KeyWalk

namespace Yaml

/-! ### Gaps inside scalars -/

/-- The blanks and line ends between two words of a scalar. -/
structure WordGap where
  /-- The blanks, as long as there is no line end. -/
  blanks : List Char := []
  /-- The number of line ends. -/
  breaks : Nat := 0

/-- What a gap counts as. -/
def WordGap.text (g : WordGap) : List Char :=
  match g.breaks with
  | 0 => g.blanks
  | 1 => [' ']
  | n + 2 => List.replicate (n + 1) '\n'

/-- Reads a gap.  In the indentation of a line a tab is refused, or allowed if nothing but a
comment follows it. -/
def readGap (indent : Int) (tabLines : Bool) : (n : Nat) → WordGap → Input →
    Option (WordGap × Input)
  | 0, _, _ => none
  | n + 1, g, i =>
    match i.head? with
    | some '\n' => readGap indent tabLines n ⟨[], g.breaks + 1⟩ i.next
    | some c =>
      if !isBlank c then some (g, i)
      else if g.breaks = 0 then
        readGap indent tabLines n { g with blanks := g.blanks ++ [c] } i.next
      else if c = '\t' && i.column < indent then
        if tabLines then do
          let (j, _) ← i.skipLineGap true
          if isLineEnd j.head? then readGap indent tabLines n g j else none
        else none
      else readGap indent tabLines n g i.next
    | none => some (g, i)

/-! ### Scalars without quotes -/

/-- The character may stand in a scalar without quotes. -/
def isPlain (flow : Bool) (c : Char) (next : Option Char) : Bool :=
  if c = ':' && (isGap next || (flow && next.any isFlowMark)) then false
  else !(flow && isFlowMark c)

/-- The word at the start of a text. -/
def plainWord (flow : Bool) : List Char → List Char
  | [] => []
  | c :: r =>
    if isGap (some c) || !isPlain flow c r.head? then [] else c :: plainWord flow r

/-- The words of a scalar without quotes from some place on, `before` being what stands before
them and `gap` the gap in between. -/
def readPlainWords (flow : Bool) (indent : Int) : (n : Nat) → (before : List Char) →
    (gap : WordGap) → Input → Option (List Char × Input)
  | 0, _, _, _ => none
  | n + 1, before, gap, i =>
    if i.atMarker || i.head? = some '#' then some (before, i)
    else if flow && i.head? = some '-' && (i.at? 1).any isFlowMark then none
    else do
      let word := plainWord flow i.chars
      let text := if word = [] then before else before ++ gap.text ++ word
      let j := i.skip word.length
      if !(j.head?.any fun c => isBlank c || c = '\n') then
        return (text, j)
      let (gap, k) ← readGap indent true (j.chars.length + 1) {} j
      if !flow && k.column < indent then
        return (text, k)
      readPlainWords flow indent n text gap k

/-- A scalar without quotes; its lines are indented by at least `indent` columns. -/
def readPlain (flow : Bool) (indent : Int) (i : Input) : Option (List Char × Input) :=
  if flow && i.column < indent then none
  else (readPlainWords flow indent (i.chars.length + 1) [] {} i).filter fun p => p.1 ≠ []

/-! ### Scalars between quotes -/

/-- The character of an escape with one letter. -/
def escape? (c : Char) : Option Char :=
  ([('0', '\x00'), ('a', '\x07'), ('b', '\x08'), ('t', '\t'), ('\t', '\t'), ('n', '\n'),
    ('v', '\x0b'), ('f', '\x0c'), ('r', '\r'), ('e', '\x1b'), (' ', ' '), ('"', '"'), ('/', '/'),
    ('\\', '\\'), ('N', '\u0085'), ('_', '\u00a0'), ('L', '\u2028'),
    ('P', '\u2029')] : List (Char × Char)).lookup c

/-- The number of digits of a numbered escape, zero for any other. -/
def digitsOf (c : Char) : Nat :=
  if c = 'x' then 2 else if c = 'u' then 4 else if c = 'U' then 8 else 0

/-- The character of an escape behind its backslash, and the number of characters that spell
it. -/
def readEscape : List Char → Option (Char × Nat)
  | [] => none
  | c :: r =>
    let n := digitsOf c
    if n = 0 then (escape? c).map fun e => (e, 1)
    else if (r.take n).length < n then none
    else do
      let value ← Hex.value? (r.take n)
      if value.isValidChar then some (Char.ofNat value, n + 1) else none

/-- A word between quotes, with what follows; the flag says that a line end behind a backslash
ends it. -/
def readQuotedWord (single : Bool) : (n : Nat) → Input → Option (List Char × Bool × Input)
  | 0, _ => none
  | n + 1, i =>
    match i.chars with
    | [] => some ([], false, i)
    | c :: r =>
      let go (c : Char) (j : Input) : Option (List Char × Bool × Input) :=
        (readQuotedWord single n j).map fun p => (c :: p.1, p.2)
      if isGap (some c) then some ([], false, i)
      else if single then
        if c ≠ '\'' then go c i.next
        else if r.head? = some '\'' then go '\'' (i.skip 2)
        else some ([], false, i)
      else if c = '"' then some ([], false, i)
      else if c ≠ '\\' then go c i.next
      else if r.head? = some '\n' then some ([], true, i.skip 2)
      else do
        let (e, count) ← readEscape r
        go e (i.skip (count + 1))

/-- The words between quotes from some place on, `before` being what stands before them, up to
the closing quote. -/
def readQuotedWords (single : Bool) (indent : Int) : (n : Nat) → (before : List Char) → Input →
    Option (List Char × Input)
  | 0, _, _ => none
  | n + 1, before, i => do
    if i.atMarker || i.chars = [] || i.column < indent then
      none
    let (word, joined, j) ← readQuotedWord single (i.chars.length + 1) i
    let text := before ++ word
    if j.head? = some (if single then '\'' else '"') then
      return (text, j.next)
    let start : WordGap := if joined then ⟨[], 1⟩ else {}
    let (gap, k) ← readGap indent false (j.chars.length + 1) start j
    let between := if joined then List.replicate (gap.breaks - 1) '\n' else gap.text
    readQuotedWords single indent n (text ++ between) k

/-- A scalar between quotes, with what follows behind blanks; only some marks may follow it. -/
def readQuoted (single flow : Bool) (indent : Int) (i : Input) : Option (List Char × Input) := do
  let (text, j) ← readQuotedWords single indent (i.chars.length + 1) [] i.next
  let (k, _) ← j.skipLineGap true
  let mayFollow := match k.head? with
    | none => true
    | some c =>
      c = '\n' || (c = ':' && (flow || i.line = k.line)) ||
        (flow && (c = ',' || c = ']' || c = '\x7d'))
  if mayFollow then return (text, k) else none

/-! ### Scalars on lines of their own -/

/-- What becomes of the line ends behind a scalar. -/
inductive Chomping where
  | strip
  | clip
  | keep
  deriving DecidableEq, Repr

/-- The mark of a chomping. -/
def chomping? (c? : Option Char) : Option Chomping :=
  if c? = some '+' then some .keep else if c? = some '-' then some .strip else none

/-- An indentation of one digit, zero if there is none, with what follows; a digit zero is
refused. -/
def readIncrement (i : Input) : Option (Nat × Input) :=
  match i.head? with
  | some c =>
    if c = '0' then none
    else if c.isDigit then some (c.toNat - 0x30, i.next)
    else some (0, i)
  | none => some (0, i)

/-- The marks behind `|` or `>`, in either order, with what follows. -/
def readHeader (i : Input) : Option (Chomping × Nat × Input) :=
  match chomping? i.head? with
  | some chomping => (readIncrement i.next).map fun p => (chomping, p.1, p.2)
  | none => do
    let (increment, j) ← readIncrement i
    match if increment = 0 then none else chomping? j.head? with
    | some chomping => return (chomping, increment, j.next)
    | none => return (.clip, increment, j)

/-- Goes over empty lines and the indentation of the next line, counting line ends. -/
def skipIndent (indent : Nat) : (n : Nat) → (breaks : Nat) → Input → Nat × Input
  | 0, breaks, i => (breaks, i)
  | n + 1, breaks, i =>
    let j := i.skip (min (i.run (· = ' ')).length (indent - i.column))
    if j.head? = some '\n' then skipIndent indent n (breaks + 1) j.next else (breaks, j)

/-- Goes over empty lines and all spaces in front of the next line; also returns the greatest
number of spaces. -/
def findIndent : (n : Nat) → (indent breaks : Nat) → Input → Nat × Nat × Input
  | 0, indent, breaks, i => (indent, breaks, i)
  | n + 1, indent, breaks, i =>
    let j := i.skipWhile (· = ' ')
    let indent := max indent j.column
    if j.head? = some '\n' then findIndent n indent (breaks + 1) j.next else (indent, breaks, j)

/-- The lines of a scalar that were read. -/
structure Lines where
  text : List Char := []
  /-- A line end follows the last line. -/
  ended : Bool := false
  /-- The last line starts with a blank. -/
  blank : Bool := false
  /-- The number of empty lines behind it. -/
  breaks : Nat := 0

/-- What stands between the lines read so far and the next one. -/
def Lines.joint (l : Lines) (literal blank : Bool) : List Char :=
  if !literal && l.ended && !l.blank && !blank then
    if l.breaks = 0 then [' '] else List.replicate l.breaks '\n'
  else List.replicate (l.breaks + if l.ended then 1 else 0) '\n'

/-- Reads the lines that are indented as the first one. -/
def readLines (literal : Bool) (indent : Nat) : (n : Nat) → Lines → Input → Lines × Input
  | 0, l, i => (l, i)
  | n + 1, l, i =>
    if i.column ≠ indent || i.chars = [] || (indent = 0 && i.startsMarker '.') then (l, i)
    else
      let blank := i.head?.any isBlank
      let text := l.text ++ l.joint literal blank ++ i.run (· ≠ '\n')
      let j := i.skipLine
      if j.chars = [] then (⟨text, false, blank, 0⟩, j)
      else
        let (breaks, k) := skipIndent indent (j.chars.length + 1) 0 j.next
        readLines literal indent n ⟨text, true, blank, breaks⟩ k

/-- The lines as one text, at the place where they end. -/
def Lines.chomped (l : Lines) (chomping : Chomping) (indent : Nat) (i : Input) : List Char :=
  let atEnd := i.chars = [] && max indent 1 ≤ i.column
  match chomping with
  | .strip => l.text
  | .clip =>
    l.text ++ List.replicate ((if l.ended then 1 else 0) + if atEnd then 1 else 0) '\n'
  | .keep =>
    l.text ++
      List.replicate ((if l.ended then 1 else 0) + (if atEnd then 1 else 0) + l.breaks) '\n'

/-- A scalar on lines of its own, inside a block of `outer` columns; literally, or with its lines
joined. -/
def readBlock (literal : Bool) (outer : Int) (i : Input) : Option (List Char × Input) := do
  let (chomping, increment, j) ← readHeader i.next
  let (j, _) ← j.skipLineGap true
  if !isLineEnd j.head? then
    none
  let j := j.next
  if j.head? = some '\t' then
    none
  let n := j.chars.length + 1
  let (indent, breaks, j) :=
    if increment = 0 then
      let (found, breaks, j) := findIndent n 0 0 j
      (max (max found (outer + 1).toNat) (if 0 < outer then 1 else 0), breaks, j)
    else
      let indent := (max outer 0).toNat + increment
      (indent, skipIndent indent n 0 j)
  if j.chars = [] then
    let breaks := match chomping with
      | .strip => 0
      | .clip => 1
      | .keep => max breaks 1
    return (List.replicate (if j.line = i.line then 0 else breaks) '\n', j)
  if j.column < indent ∧ outer < j.column then
    none
  let (lines, k) := readLines literal indent n { breaks } j
  return (lines.chomped chomping indent k, k)

/-! ### Meanings -/

/-- A scalar by its kind; a number that is no integer keeps its text. -/
inductive Leaf where
  | null
  | bool (b : Bool)
  | integer (n : Int)
  | real (cs : List Char)
  | text (s : String)
  deriving DecidableEq, Repr

/-- An integer of 64 bits in a base of at most 16, behind at most one sign. -/
def inBase? (base : Nat) (cs : List Char) : Option Int := do
  let (negative, digits) := match cs with
    | '-' :: r => (true, r)
    | '+' :: r => (false, r)
    | r => (false, r)
  let ds ← digits.mapM Hex.digit?
  if ds = [] ∨ !ds.all (· < base) then
    none
  let n : Nat := ds.foldl (fun n d => base * n + d) 0
  some (if negative then -(n : Int) else n) |>.filter Integral.fits

/-- An integer with a mark in front. -/
def marked? : List Char → Option Int
  | '0' :: 'x' :: r => inBase? 16 r
  | '0' :: 'o' :: r => inBase? 8 r
  | '+' :: r => Integral.signed? r
  | _ => none

/-- The text spells a number that is no integer; names of such numbers start with a point. -/
def isReal (cs : List Char) : Bool :=
  let names := [".inf", ".Inf", ".INF", "+.inf", "+.Inf", "+.INF", "-.inf", "-.Inf", "-.INF",
    ".nan", ".NaN", ".NAN"]
  names.any (fun w => cs == w.toList) ||
    (cs.any Char.isDigit && (Setting.float? cs).isSome)

namespace Leaf

/-- The kind of a scalar without quotes. -/
def ofPlain (cs : List Char) : Leaf :=
  match marked? cs with
  | some n => integer n
  | none =>
    let isOne (words : List String) : Bool := words.any fun w => cs == w.toList
    if isOne ["", "~", "null"] then null
    else if isOne ["true", "True", "TRUE"] then bool true
    else if isOne ["false", "False", "FALSE"] then bool false
    else match Integral.signed? cs with
      | some n => integer n
      | none => if isReal cs then real cs else text (String.ofList cs)

/-- The name of an entry; nothing has none. -/
def name? : Leaf → Option String
  | null => none
  | bool b => some (if b then "true" else "false")
  | integer n => some (String.ofList (Integral.render n))
  | real cs => some (String.ofList cs)
  | text s => some s

/-- The value; a number by name has none. -/
def toSetting? : Leaf → Option Setting
  | null => some .nil
  | bool b => some (.bool b)
  | integer n => some (.integer n)
  | real cs => (Setting.float? cs).map .float
  | text s => some (.text s)

end Leaf

end Yaml

end KeyWalk
