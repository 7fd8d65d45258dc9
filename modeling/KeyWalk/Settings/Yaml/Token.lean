import KeyWalk.Settings.Yaml.Scalar

/-!
Tokens of a YAML text.

`Token.ofText? cs` are the tokens of a text.  Indentation becomes tokens too: a block of entries
or items starts with a token and ends with `blockEnd`.

Design notes.  That something is a key shows only at the colon behind it.  So each token that may
be a key is remembered as a `Candidate`, and at the colon the token `key`, and the start of a block
if the key is indented deeper than what is around it, are put in front of it.  A candidate on a
line of its own block must turn out to be a key.
-/

namespace KeyWalk

namespace Yaml

/-- A token. -/
inductive Token where
  | version
  | tagHandle (handle start : String)
  | documentStart
  | documentEnd
  | blockItems
  | blockEntries
  | blockEnd
  | openItems
  | closeItems
  | openEntries
  | closeEntries
  | item
  | comma
  | key
  | value
  | aliasOf (name : String)
  | anchor (name : String)
  | tag (handle suffix : String)
  | plain (cs : List Char)
  | quoted (s : String)
  deriving DecidableEq, Repr

/-- A place that may turn out to be the start of a key. -/
structure Candidate where
  possible : Bool := false
  required : Bool := false
  /-- The number of tokens in front of it. -/
  position : Nat := 0
  line : Nat := 0
  column : Nat := 0
  index : Nat := 0

/-- An indentation that was left for a deeper one. -/
structure Indent where
  column : Int
  /-- A block token started the deeper one. -/
  block : Bool

/-- What was read of a text. -/
structure Lexer where
  input : Input
  /-- The tokens, the latest first. -/
  tokens : List Token := []
  /-- The latest token is an anchor or a tag at the start of a line. -/
  margin : Bool := false
  /-- The column of the current block; outside of any it is -1. -/
  indent : Int := -1
  indents : List Indent := []
  /-- A key may start here. -/
  keyAllowed : Bool := true
  /-- The latest candidate of each level of flow style, the innermost first, and that of block
  style. -/
  candidates : List Candidate := [{}]
  /-- Where a colon right behind a quoted scalar or a closing bracket may stand. -/
  adjacent : Nat := 0
  /-- Entries of flow style are open, so that no pair needs brackets of its own. -/
  inEntries : Bool := false
  /-- For each list of flow style whether a pair without brackets is open in it. -/
  pairs : List Bool := []

namespace Lexer

/-- The depth of flow style. -/
def flowDepth (l : Lexer) : Nat := l.candidates.length - 1

/-- Flow style is open. -/
def inFlow (l : Lexer) : Bool := l.flowDepth ≠ 0

/-- One more token. -/
def push (l : Lexer) (t : Token) : Lexer := { l with tokens := t :: l.tokens, margin := false }

/-- A token put at a place among the others. -/
def insertAt (l : Lexer) (position : Nat) (t : Token) : Lexer :=
  let later := l.tokens.length - position
  { l with tokens := l.tokens.take later ++ t :: l.tokens.drop later }

/-- Some characters on. -/
def skip (l : Lexer) (n : Nat) : Lexer := { l with input := l.input.skip n }

/-- Behind a gap inside the line. -/
def skipLineGap? (l : Lexer) (tabs : Bool) : Option Lexer :=
  (l.input.skipLineGap tabs).map fun p => { l with input := p.1 }

/-! ### Candidates -/

/-- The latest candidate of this level. -/
def candidate (l : Lexer) : Candidate := l.candidates.headD {}

/-- Another candidate for this level. -/
def withCandidate (l : Lexer) (c : Candidate) : Lexer :=
  { l with candidates := c :: l.candidates.tail }

/-- Makes this place a candidate if a key may start here. -/
def saveCandidate (l : Lexer) : Lexer :=
  if l.keyAllowed then
    l.withCandidate {
      possible := true
      required := !l.inFlow && l.indent == (l.input.column : Int) && l.indents.head?.any (·.block)
      position := l.tokens.length
      line := l.input.line
      column := l.input.column
      index := l.input.index }
  else l

/-- Gives the latest candidate up. -/
def dropCandidate? (l : Lexer) : Option Lexer :=
  if l.candidate.possible && l.candidate.required then none
  else some (l.withCandidate { l.candidate with possible := false })

/-- Gives candidates up that are on an earlier line or too long to be a key. -/
def dropStale? (l : Lexer) : Option Lexer :=
  let stale (c : Candidate) : Bool :=
    c.possible && !l.inFlow && (c.line < l.input.line || c.index + 1024 < l.input.index)
  if l.candidates.any (fun c => stale c && c.required) then none
  else
    let kept := l.candidates.map fun c => { c with possible := c.possible && !stale c }
    some { l with candidates := kept }

/-! ### Indentation -/

/-- Leaves indentations that no block started. -/
def leaveLoose (l : Lexer) : Lexer :=
  let loose := l.indents.takeWhile fun d => !d.block
  match loose.getLast? with
  | none => l
  | some d => { l with indent := d.column, indents := l.indents.drop loose.length }

/-- Starts a block at a column if it is deeper than the current one; its token goes to a place
among the others, or to the end. -/
def openBlock (l : Lexer) (column : Nat) (position : Option Nat) (t : Token) : Lexer :=
  if l.inFlow then l
  else
    let l := match l.indents with
      | d :: r =>
        if l.indent ≤ (column : Int) && !d.block then
          { l with indent := d.column, indents := r }
        else l
      | [] => l
    if l.indent < (column : Int) then
      let l := { l with indents := ⟨l.indent, true⟩ :: l.indents, indent := column }
      match position with
      | some n => l.insertAt n t
      | none => l.push t
    else l

/-- Starts an indentation of one more column that is no block. -/
def openLoose (l : Lexer) : Lexer :=
  if !l.inFlow && l.indents.head?.any (·.block) then
    { l with indents := ⟨l.indent, false⟩ :: l.indents, indent := l.indent + 1 }
  else l

/-- Ends the blocks that are deeper than a column. -/
def closeBlocks (l : Lexer) (column : Int) : Lexer :=
  if l.inFlow then l else go l.indents l
where
  /-- The same along the indentations that are open. -/
  go : List Indent → Lexer → Lexer
    | [], l => l
    | d :: r, l =>
      if column < l.indent then
        let l := { l with indent := d.column, indents := r }
        go r (if d.block then l.push .blockEnd else l)
      else l

/-! ### Gaps between tokens -/

/-- Goes to the next token, at most `n` steps.  In the indentation of a block a tab is refused
unless nothing but a comment follows it. -/
def skipGap? : (n : Nat) → Lexer → Option Lexer
  | 0, _ => none
  | n + 1, l =>
    match l.input.head? with
    | some '\n' => skipGap? n { l.skip 1 with keyAllowed := l.keyAllowed || !l.inFlow }
    | some '#' => skipGap? n { l with input := l.input.skipLine }
    | some ' ' => skipGap? n (l.skip 1)
    | some '\t' =>
      if !l.indents.isEmpty && l.input.leading && l.input.column < l.indent then do
        let l ← l.skipLineGap? true
        if isLineEnd l.input.head? then skipGap? n l else none
      else skipGap? n (l.skip 1)
    | _ => some l

/-- Goes to the next token. -/
def skipToToken? (l : Lexer) : Option Lexer := skipGap? (l.input.chars.length + 1) l

/-! ### Single tokens -/

/-- The marker at the start or the end of a document. -/
def readMarker? (l : Lexer) (t : Token) : Option Lexer := do
  let l ← (l.closeBlocks (-1)).dropCandidate?
  return { (l.skip 3).push t with keyAllowed := false }

/-- An opening bracket. -/
def readOpen? (l : Lexer) (t : Token) : Option Lexer := do
  let l := l.saveCandidate.openLoose
  if 255 ≤ l.flowDepth then
    none
  let l := { l with candidates := {} :: l.candidates, keyAllowed := true }
  let l := if t = .openEntries then { l with inEntries := true }
    else { l with pairs := false :: l.pairs }
  return (← (l.skip 1).skipLineGap? true).push t

/-- Ends a pair without brackets. -/
def closePair (l : Lexer) : Lexer :=
  match l.pairs with
  | true :: r => { l.push .closeEntries with inEntries := false, pairs := false :: r }
  | _ => l

/-- A closing bracket. -/
def readClose? (l : Lexer) (t : Token) : Option Lexer := do
  let l ← l.dropCandidate?
  let l := if l.inFlow then { l with candidates := l.candidates.tail } else l
  let l := { l with keyAllowed := false }
  let l := if t = .closeItems then { l.closePair with pairs := l.closePair.pairs.tail } else l
  let l ← (l.skip 1).skipLineGap? true
  let l := if l.inFlow then { l with adjacent := l.input.index } else l
  return l.push t

/-- A comma of flow style. -/
def readComma? (l : Lexer) : Option Lexer := do
  let l ← l.dropCandidate?
  let l := { l with keyAllowed := true }.closePair
  return (← (l.skip 1).skipLineGap? true).push .comma

/-- The dash of an item. -/
def readItem? (l : Lexer) : Option Lexer := do
  if l.inFlow || !l.keyAllowed || (l.margin && l.input.column = 0 && -1 < l.indent) then
    none
  let column := l.input.column
  let l := (l.skip 1).openBlock column none .blockItems
  let (j, gap) ← l.input.skipLineGap true
  if gap.hasTab && j.head? = some '-' && isGap (j.at? 1) then
    none
  let l := { l with input := j }
  let l := if j.head? = some '\n' || j.head?.any isFlowMark then l.openLoose else l
  let l ← l.dropCandidate?
  return { l.push .item with keyAllowed := true }

/-- Goes to the next token behind the mark of a key, at most `n` steps; tabs are no blanks
here. -/
def skipKeyGap : (n : Nat) → Lexer → Lexer
  | 0, l => l
  | n + 1, l =>
    match l.input.head? with
    | some ' ' => skipKeyGap n (l.skip 1)
    | some '\n' => skipKeyGap n { l.skip 1 with keyAllowed := l.keyAllowed || !l.inFlow }
    | some '#' => skipKeyGap n { l with input := l.input.skipLine }
    | _ => l

/-- The mark of a key. -/
def readKey? (l : Lexer) : Option Lexer := do
  if !l.inFlow && !l.keyAllowed then
    none
  let l := if l.inFlow then { l with inEntries := true }
    else l.openBlock l.input.column none .blockEntries
  let l ← l.dropCandidate?
  let l := { l.skip 1 with keyAllowed := !l.inFlow }
  if !(l.input.head?.any fun c => c = ' ' || c = '\n') then
    none
  let l := skipKeyGap (l.input.chars.length + 1) l
  if l.input.head? = some '\t' then none else some (l.push .key)

/-- A character of a name of an anchor or a tag. -/
def isNameChar (c : Char) : Bool := c.isAlphanum || c = '_' || c = '-'

/-- Goes over the blanks behind the mark of a value if a tab comes first.  A space must be among
them before a name or a dash. -/
def skipValueTab? (l : Lexer) : Option Lexer := do
  if l.input.head? ≠ some '\t' then
    return l
  let (j, gap) ← l.input.skipLineGap true
  if !gap.hasSpace && j.head?.any isNameChar then none else return { l with input := j }

/-- The mark of a value.  A candidate turns out to be its key. -/
def readValue? (l : Lexer) : Option Lexer := do
  let found := l.candidate
  let start := l.input
  let lonely := !l.pairs.isEmpty && !l.inEntries
  let l := if lonely then { l with pairs := true :: l.pairs.tail } else l
  let l ← (l.skip 1).skipValueTab?
  if found.possible then
    let l := l.insertAt found.position .key
    if lonely && found.line < start.line then
      none
    let l := if lonely then l.insertAt found.position .openEntries else l
    let l := (l.openBlock found.column (some found.position) .blockEntries).openLoose
    let l := l.withCandidate { l.candidate with possible := false }
    return { l.push .value with keyAllowed := false }
  let l := if lonely then l.push .openEntries else l
  if !l.inFlow && !l.keyAllowed then
    none
  let l := if l.inFlow then l else l.openBlock start.column none .blockEntries
  return { l.openLoose.push .value with keyAllowed := !l.inFlow }

/-- A token that was read up to a place, and that no key follows on its line. -/
def accept (l : Lexer) (t : Token) (j : Input) : Lexer :=
  { l with input := j, keyAllowed := false }.push t

/-- A character of the name of an anchor. -/
def isAnchorChar (c : Char) : Bool := !(isGap (some c) || isFlowMark c || c = '\uFEFF')

/-- An anchor or an alias. -/
def readAnchor? (l : Lexer) (make : String → Token) (isAlias : Bool) : Option Lexer :=
  let l := l.saveCandidate
  let name := l.input.next.run isAnchorChar
  if name = [] then none
  else
    let margin := !isAlias && l.input.column = 0
    some { l.accept (make (String.ofList name)) (l.input.skip (name.length + 1)) with margin }

/-! ### Tags -/

/-- A character of a tag. -/
def isTagChar (c : Char) : Bool :=
  c.isAlphanum || "-#;/?:@&=+$_.~*'()%".toList.contains c

/-- A character of a tag as a whole. -/
def isUriChar (c : Char) : Bool := isTagChar c || ",![]".toList.contains c

/-- A run of characters of a tag; a percent sign and two digits are a byte of a character. -/
def readUri (p : Char → Bool) : (n : Nat) → (bytes : Bytes) → List Char →
    Option (List Char × List Char)
  | n + 1, bytes, '%' :: a :: b :: r => do
    let bytes := bytes ++ [UInt8.ofNat (← Hex.value? [a, b])]
    match Utf8.decode? bytes with
    | some [c] => (readUri p n [] r).map fun q => (c :: q.1, q.2)
    | _ => if bytes.length < 4 then readUri p n bytes r else none
  | n + 1, [], c :: r =>
    if c = '%' then none
    else if p c then (readUri p n [] r).map fun q => (c :: q.1, q.2)
    else some ([], c :: r)
  | _, [], [] => some ([], [])
  | _, _, _ => none

/-- The handle of a tag, with what follows: an exclamation mark, and more up to a second one. -/
def readHandle : List Char → Option (List Char × List Char)
  | '!' :: r =>
    match r.dropWhile isNameChar with
    | '!' :: rest => some ('!' :: r.takeWhile isNameChar ++ ['!'], rest)
    | rest => some ('!' :: r.takeWhile isNameChar, rest)
  | _ => none

/-- A tag, with what follows: in angle brackets, behind a handle, or on its own. -/
def readTagParts (cs : List Char) : Option (List Char × List Char × List Char) := do
  match cs with
  | '!' :: '<' :: r =>
    match ← readUri isUriChar (r.length + 1) [] r with
    | (suffix, '>' :: rest) => return ([], suffix, rest)
    | _ => none
  | cs =>
    let (handle, r) ← readHandle cs
    let (suffix, rest) ← readUri isTagChar (r.length + 1) [] r
    if 2 ≤ handle.length ∧ handle.getLast? = some '!' then
      return ← if suffix = [] then none else some (handle, suffix, rest)
    let suffix := handle.drop 1 ++ suffix
    return if suffix = [] then ([], ['!'], rest) else (['!'], suffix, rest)

/-- A tag. -/
def readTag? (l : Lexer) : Option Lexer := do
  let l := l.saveCandidate
  let (handle, suffix, rest) ← readTagParts l.input.chars
  let j := l.input.skip (l.input.chars.length - rest.length)
  if !(isGap j.head? || (l.inFlow && j.head?.any isFlowMark)) then
    none
  let t : Token := .tag (String.ofList handle) (String.ofList suffix)
  return { l.accept t j with margin := l.input.column = 0 }

/-! ### Directives -/

/-- The number of a version, at most nine digits, with what follows. -/
def readVersion (cs : List Char) : Option (List Char) :=
  let digits := cs.takeWhile Char.isDigit
  if digits = [] ∨ 9 < digits.length then none else some (cs.drop digits.length)

/-- What a directive says behind its name, with what follows. -/
def readDirectiveBody (name cs : List Char) : Option (Token × List Char) := do
  if name = "YAML".toList then
    match ← readVersion (cs.dropWhile isBlank) with
    | '.' :: r => return (.version, ← readVersion r)
    | _ => none
  else if name = "TAG".toList then
    let (handle, r) ← readHandle (cs.dropWhile isBlank)
    if 2 ≤ handle.length ∧ handle.getLast? ≠ some '!' then
      none
    let start := r.dropWhile isBlank
    if !(start.head?.any fun c => c = '!' || isTagChar c) then
      none
    let (text, rest) ← readUri isUriChar (start.length + 1) [] start
    if isGap rest.head? then
      return (.tagHandle (String.ofList handle) (String.ofList text), rest)
    none
  else
    return (.tagHandle "" "", cs.dropWhile (· ≠ '\n'))

/-- A directive. -/
def readDirective? (l : Lexer) : Option Lexer := do
  let l ← (l.closeBlocks (-1)).dropCandidate?
  let name := l.input.next.run isNameChar
  let j := l.input.skip (name.length + 1)
  if name = [] || !isGap j.head? then
    none
  let (t, rest) ← readDirectiveBody name j.chars
  let (k, _) ← (j.skip (j.chars.length - rest.length)).skipLineGap true
  if isLineEnd k.head? then return l.accept t k.next else none

/-! ### All tokens -/

/-- A scalar between quotes.  In flow style a colon may follow it at once. -/
def readQuoted? (l : Lexer) (single : Bool) : Option Lexer := do
  let l := { l.saveCandidate with keyAllowed := false }
  let (text, j) ← readQuoted single l.inFlow l.indent l.input
  let l ← { l with input := j }.skipToToken?
  return { l with adjacent := l.input.index }.push (.quoted (String.ofList text))

/-- A scalar without quotes; behind a line end a key may start. -/
def readPlain? (l : Lexer) : Option Lexer := do
  let l := l.saveCandidate.leaveLoose
  let (text, j) ← readPlain l.inFlow (l.indent + 1) l.input
  return { l with input := j, keyAllowed := j.leading }.push (.plain text)

/-- A scalar on lines of its own. -/
def readBlock? (l : Lexer) (literal : Bool) : Option Lexer := do
  let l := { l.saveCandidate with keyAllowed := true }.leaveLoose
  let (text, j) ← readBlock literal l.indent l.input
  return { l with input := j }.push (.quoted (String.ofList text))

/-- Reads the token at the place. -/
def readToken? (l : Lexer) (c : Char) : Option Lexer :=
  let next := l.input.at? 1
  if c = '[' then l.readOpen? .openItems
  else if c = '\x7b' then l.readOpen? .openEntries
  else if c = ']' then l.readClose? .closeItems
  else if c = '\x7d' then l.readClose? .closeEntries
  else if c = ',' then l.readComma?
  else if c = '-' && isGap next then l.readItem?
  else if c = '?' && isGap next then l.readKey?
  else if c = ':' && isGap next then l.readValue?
  else if c = ':' && l.inFlow && (next.any isFlowMark || l.input.index = l.adjacent) then
    if l.input.index ≠ l.adjacent && next.any (fun d => d = '[' || d = '\x7b') then none
    else l.readValue?
  else if c = '*' then l.readAnchor? .aliasOf true
  else if c = '&' then l.readAnchor? .anchor false
  else if c = '!' then l.readTag?
  else if (c = '|' || c = '>') && !l.inFlow then l.readBlock? (c = '|')
  else if c = '\'' || c = '"' then l.readQuoted? (c = '\'')
  else if ['%', '@', '\u0060'].contains c then none
  else l.readPlain?

/-- Ends all blocks at the end of the text. -/
def finish? (l : Lexer) : Option Lexer :=
  if l.candidates.any (fun c => c.possible && c.required) then none
  else some (l.closeBlocks (-1))

/-- Reads one token or, at the end, what is left to do; the flag says which. -/
def step? (l : Lexer) : Option (Bool × Lexer) := do
  let l ← (← l.skipToToken?).dropStale?
  let l := l.closeBlocks l.input.column
  match l.input.head? with
  | none => return (true, ← l.finish?)
  | some c =>
    if l.input.column = 0 && c = '%' then
      return (false, ← l.readDirective?)
    if l.input.startsMarker '-' then
      return (false, ← l.readMarker? .documentStart)
    if l.input.startsMarker '.' then
      let l ← (← l.readMarker? .documentEnd).skipLineGap? true
      if isLineEnd l.input.head? then
        return (false, l)
      none
    if l.input.column < l.indent then
      none
    return (false, ← l.readToken? c)

/-- Reads at most `n` tokens. -/
def readAll : (n : Nat) → Lexer → Option Lexer
  | 0, _ => none
  | n + 1, l => do
    match ← l.step? with
    | (true, l) => return l
    | (false, l) => readAll n l

end Lexer

/-- The tokens of a text.  Each takes at least one character. -/
def Token.ofText? (cs : List Char) : Option (List Token) :=
  (Lexer.readAll (cs.length + 2) { input := .ofText cs }).map fun l => l.tokens.reverse

end Yaml

end KeyWalk
