import KeyWalk.Text.Hex

/-!
Gaps, texts and keys of a TOML text.

* `Toml.skipLines` goes over blanks, line ends and comments, `Toml.endLine?` over the rest of a
  line,
* `Toml.readBasic`, `readLongBasic`, `readLiteral` and `readLongLiteral` read the four kinds of
  texts behind their opening quotes,
* `Toml.readKey` reads a dotted key.

A line ends with a line feed, which a carriage return may precede; a carriage return anywhere else
is refused, and so is every other control character except the tab.
-/

namespace KeyWalk

namespace Toml

/-! ### Gaps -/

/-- A blank inside a line. -/
def isBlank (c : Char) : Bool := c = ' ' || c = '\t'

/-- The text behind blanks. -/
def skip (cs : List Char) : List Char := cs.dropWhile isBlank

/-- A control character, which neither texts nor comments hold as it is. -/
def isControl (c : Char) : Bool := (c < ' ' && c ≠ '\t') || c = '\x7f'

/-- The text behind a line end. -/
def behindLineEnd? : List Char → Option (List Char)
  | '\n' :: r => some r
  | '\r' :: '\n' :: r => some r
  | _ => none

/-- The text behind blanks, line ends and comments; the flag says that a comment is open. -/
def skipLines : (inComment : Bool) → List Char → Option (List Char)
  | _, [] => some []
  | _, '\n' :: r => skipLines false r
  | _, '\r' :: '\n' :: r => skipLines false r
  | true, c :: r => if isControl c then none else skipLines true r
  | false, c :: r =>
    if isBlank c then skipLines false r
    else if c = '#' then skipLines true r
    else some (c :: r)

/-- The text behind the rest of a line, on which only a comment may stand. -/
def endLine? (cs : List Char) : Option (List Char) :=
  match skip cs with
  | [] => some []
  | '#' :: r =>
    match r.dropWhile fun c => !isControl c with
    | [] => some []
    | rest => behindLineEnd? rest
  | cs => behindLineEnd? cs

/-! ### Texts -/

/-- The character of an escape with one letter. -/
def escape? (c : Char) : Option Char :=
  if c = '"' ∨ c = '\\' then some c
  else if c = 'b' then some '\x08'
  else if c = 'e' then some '\x1b'
  else if c = 't' then some '\t'
  else if c = 'n' then some '\n'
  else if c = 'f' then some '\x0c'
  else if c = 'r' then some '\r'
  else none

/-- The number of digits of a numbered escape, zero for any other. -/
def digitsOf (c : Char) : Nat :=
  if c = 'x' then 2 else if c = 'u' then 4 else if c = 'U' then 8 else 0

/-- The character of a numbered escape. -/
def scalar? (digits : List Char) : Option Char := do
  let n ← Hex.value? digits
  if n.isValidChar then some (Char.ofNat n) else none

/-- The character of an escape behind its backslash, and the number of characters that spell
it. -/
def readEscape : List Char → Option (Char × Nat)
  | [] => none
  | c :: r =>
    let n := digitsOf c
    if n = 0 then (escape? c).map fun e => (e, 1)
    else if (r.take n).length < n then none
    else (scalar? (r.take n)).map fun e => (e, n + 1)

/-- One more character in front of what was read. -/
def prepend (c : Char) (p : List Char × List Char) : List Char × List Char := (c :: p.1, p.2)

/-- A text with escapes behind its opening quote, with what follows; the first `n` characters
belong to an escape that was read. -/
def readBasic : (n : Nat) → List Char → Option (List Char × List Char)
  | _, [] => none
  | n + 1, _ :: r => readBasic n r
  | 0, '"' :: r => some ([], r)
  | 0, '\\' :: r => do
    let (c, n) ← readEscape r
    return prepend c (← readBasic n r)
  | 0, c :: r => if isControl c then none else (readBasic 0 r).map (prepend c)

/-- The end of a long text behind three quotes: of the quotes that follow, up to two belong to the
text, as the last three of the run close it. -/
def closing (quote : Char) (cs : List Char) : List Char × List Char :=
  let inside := (cs.take 2).takeWhile (· = quote)
  (inside, cs.drop inside.length)

/-- What the characters from a place on are for. -/
inductive Place where
  /-- They are read. -/
  | here
  /-- White space is dropped. -/
  | dropping
  /-- So many characters belong to an escape that was read. -/
  | escaped (n : Nat)

/-- A text with escapes over several lines, up to three quotes.  A backslash at the end of a line
drops the white space behind it. -/
def readLongBasic : Place → List Char → Option (List Char × List Char)
  | _, [] => none
  | .escaped (n + 1), _ :: r => readLongBasic (.escaped n) r
  | _, '"' :: '"' :: '"' :: r => some (closing '"' r)
  | .dropping, '\r' :: '\n' :: r => readLongBasic .dropping r
  | _, '\r' :: '\n' :: r =>
    (readLongBasic .here r).map fun p => ('\r' :: '\n' :: p.1, p.2)
  | _, '\\' :: r =>
    if (behindLineEnd? (skip r)).isSome then readLongBasic .dropping r
    else do
      let (c, n) ← readEscape r
      return prepend c (← readLongBasic (.escaped n) r)
  | .dropping, c :: r =>
    if isBlank c || c = '\n' then readLongBasic .dropping r
    else if isControl c then none
    else (readLongBasic .here r).map (prepend c)
  | _, c :: r =>
    if isControl c && c ≠ '\n' then none else (readLongBasic .here r).map (prepend c)

/-- A text as it stands behind its opening quote, with what follows. -/
def readLiteral : List Char → Option (List Char × List Char)
  | [] => none
  | '\'' :: r => some ([], r)
  | c :: r => if isControl c then none else (readLiteral r).map (prepend c)

/-- A text as it stands over several lines, up to three quotes. -/
def readLongLiteral : List Char → Option (List Char × List Char)
  | [] => none
  | '\'' :: '\'' :: '\'' :: r => some (closing '\'' r)
  | '\r' :: '\n' :: r => (readLongLiteral r).map fun p => ('\r' :: '\n' :: p.1, p.2)
  | c :: r => if isControl c && c ≠ '\n' then none else (readLongLiteral r).map (prepend c)

/-- A long text without the line end right behind its opening quotes. -/
def dropLineEnd (cs : List Char) : List Char := (behindLineEnd? cs).getD cs

/-! ### Keys -/

/-- A character of a bare key. -/
def isBareChar (c : Char) : Bool := c.isAlphanum || c = '_' || c = '-'

/-- One part of a key. -/
def readPart (cs : List Char) : Option (List Char × List Char) :=
  match cs with
  | '"' :: r => readBasic 0 r
  | '\'' :: r => readLiteral r
  | cs =>
    if cs.takeWhile isBareChar = [] then none
    else some (cs.takeWhile isBareChar, cs.dropWhile isBareChar)

/-- A key of at most `parts` parts. -/
def readKey : (parts : Nat) → List Char → Option (List String × List Char)
  | 0, _ => none
  | n + 1, cs => do
    let (part, r) ← readPart (skip cs)
    match skip r with
    | '.' :: r =>
      let (more, rest) ← readKey n r
      return (String.ofList part :: more, rest)
    | r => return ([String.ofList part], r)

end Toml

end KeyWalk
