import KeyWalk.Json.Text
import KeyWalk.Settings.Value
import KeyWalk.Text.Letter

/-!
Settings from a JSON5 text.

JSON5 is JSON for people: comments, a comma behind the last item, names without quotes, texts
between single quotes and over several lines, hexadecimal numbers, a leading plus or point.

* `Json5.readText` reads a text behind its opening quote, `Json5.readName` a name without quotes,
  `Json5.readNumber` a number, each with what follows,
* `Json5.entries? cs` is the object that a text spells; of entries with one name the last counts.

Design notes.  A number without a point and without an exponent is an integer of 64 bits and is
refused if it does not fit; a hexadecimal one has no sign and fits into 32 bits.
-/

namespace KeyWalk

namespace Json5

/-! ### Gaps -/

/-- A character that ends a line. -/
def isLineEnd (c : Char) : Bool := c = '\n' || c = '\r' || c = '\u2028' || c = '\u2029'

/-- A character between tokens: those of White_Space except U+0085, and the byte order mark. -/
def isSpace (c : Char) : Bool := (Text.isBlank c && c ≠ '\u0085') || c = '\uFEFF'

/-- What the text between two tokens is at some place. -/
inductive Gap where
  | blank
  | lineComment
  | blockComment

/-- The text behind white space and comments, if every comment is closed. -/
def skipGap : Gap → List Char → Option (List Char)
  | .blockComment, [] => none
  | _, [] => some []
  | .blank, '/' :: '/' :: r => skipGap .lineComment r
  | .blank, '/' :: '*' :: r => skipGap .blockComment r
  | .blank, c :: r => if isSpace c then skipGap .blank r else some (c :: r)
  | .lineComment, c :: r => skipGap (if isLineEnd c then .blank else .lineComment) r
  | .blockComment, '*' :: '/' :: r => skipGap .blank r
  | .blockComment, _ :: r => skipGap .blockComment r

/-- The text behind a gap. -/
def skip (cs : List Char) : Option (List Char) := skipGap .blank cs

/-! ### Texts and names -/

/-- The character of an escape with one letter; most letters stand for themselves. -/
def escape (c : Char) : Char :=
  if c = 'b' then '\x08'
  else if c = 'f' then '\x0c'
  else if c = 'n' then '\n'
  else if c = 'r' then '\r'
  else if c = 't' then '\t'
  else if c = 'v' then '\x0b'
  else c

/-- The next character is a digit. -/
def startsWithDigit : List Char → Bool
  | c :: _ => c.isDigit
  | [] => false

/-- One more unit in front of what was read. -/
def prepend (n : Nat) (p : List Nat × List Char) : List Nat × List Char := (n :: p.1, p.2)

/-- The units of a text behind its opening quote, with what follows the closing one. -/
def readUnits (quote : Char) : List Char → Option (List Nat × List Char)
  | [] => none
  | '\\' :: 'u' :: a :: b :: c :: d :: r => do
    return prepend (← Hex.value? [a, b, c, d]) (← readUnits quote r)
  | '\\' :: 'x' :: a :: b :: r => do
    return prepend (← Hex.value? [a, b]) (← readUnits quote r)
  | '\\' :: '\r' :: '\n' :: r => readUnits quote r
  | '\\' :: c :: r =>
    if isLineEnd c then readUnits quote r
    else if c = '0' && !startsWithDigit r then (readUnits quote r).map (prepend 0)
    else if c.isDigit || c = 'x' || c = 'u' then none
    else (readUnits quote r).map (prepend (escape c).toNat)
  | c :: r =>
    if c = quote then some ([], r)
    else if c = '\n' || c = '\r' || c = '\\' then none
    else (readUnits quote r).map (prepend c.toNat)

/-- The text of units, if no surrogate is alone. -/
def textOf? (units : List Nat) : Option String :=
  (JsonText.chars? ⟨units, false⟩).map String.ofList

/-- A text behind its opening quote, with what follows the closing one. -/
def readText (quote : Char) (cs : List Char) : Option (String × List Char) := do
  let (units, r) ← readUnits quote cs
  return (← textOf? units, r)

/-- A character that starts a name. -/
def startsName (c : Char) : Bool := Text.isLetter c || c = '$' || c = '_'

/-- A character inside a name. -/
def isInName (c : Char) : Bool :=
  startsName c || Text.isWordMark c || c = '\u200C' || c = '\u200D'

/-- The units of a name, of which the flag says that it goes on, with what follows. -/
def readNameUnits : (inside : Bool) → List Char → Option (List Nat × List Char)
  | _, '\\' :: 'u' :: a :: b :: c :: d :: r => do
    return prepend (← Hex.value? [a, b, c, d]) (← readNameUnits true r)
  | inside, c :: r =>
    if if inside then isInName c else startsName c then
      (readNameUnits true r).map (prepend c.toNat)
    else if inside then some ([], c :: r) else none
  | inside, [] => if inside then some ([], []) else none

/-- The name of an entry, with what follows. -/
def readName (cs : List Char) : Option (String × List Char) :=
  match cs with
  | '"' :: r => readText '"' r
  | '\'' :: r => readText '\'' r
  | cs => do
    let (units, r) ← readNameUnits false cs
    return (← textOf? units, r)

/-! ### Numbers -/

/-- The digits behind a point, if there is one, with what follows. -/
def readFraction : List Char → Option (List Char) × List Char
  | '.' :: r => (some (r.takeWhile Char.isDigit), r.dropWhile Char.isDigit)
  | cs => (none, cs)

/-- A decimal number behind its sign, with what follows. -/
def readDecimal (negative : Bool) (cs : List Char) : Option (Setting × List Char) := do
  let digits := cs.takeWhile Char.isDigit
  let whole := if digits.head? = some '0' then ['0'] else digits
  let behind := cs.drop whole.length
  let (part?, rest) := readFraction behind
  if whole = [] ∧ (part?.getD []) = [] then
    none
  let (e, rest₁) ← JsonValue.readExponent rest
  if part? = none ∧ rest₁.length = rest.length then
    let n ← Integral.signed? (if negative then '-' :: whole else whole)
    return (.integer n, rest₁)
  let part := part?.getD []
  let size : Decimal := ⟨Nat.ofDigitChars 10 (whole ++ part) 0, e - part.length⟩
  return (.float (size.toBinary64 negative), rest₁)

/-- A number without a sign, with what follows. -/
def readUnsigned (cs : List Char) : Option (Setting × List Char) :=
  let isHexDigit (c : Char) : Bool := (Hex.digit? c).isSome
  match cs with
  | 'I' :: 'n' :: 'f' :: 'i' :: 'n' :: 'i' :: 't' :: 'y' :: r => some (.float (.inf false), r)
  | 'N' :: 'a' :: 'N' :: r => some (.float .nan, r)
  | '0' :: c :: r =>
    if (c = 'x' || c = 'X') && r.takeWhile isHexDigit ≠ [] then
      ((Hex.value? (r.takeWhile isHexDigit)).filter (· < 0x100000000)).map fun n =>
        (.integer n, r.dropWhile isHexDigit)
    else readDecimal false ('0' :: c :: r)
  | cs => readDecimal false cs

/-- A number, with what follows. -/
def readNumber (cs : List Char) : Option (Setting × List Char) :=
  match cs with
  | '-' :: 'I' :: 'n' :: 'f' :: 'i' :: 'n' :: 'i' :: 't' :: 'y' :: r =>
    some (.float (.inf true), r)
  | '-' :: 'N' :: 'a' :: 'N' :: r => some (.float .nan, r)
  | '-' :: r => readDecimal true r
  | '+' :: r => readDecimal false r
  | cs => readUnsigned cs

/-! ### Values -/

/-- A value that is no list and no object, with what follows. -/
def readToken (cs : List Char) : Option (Setting × List Char) :=
  let text (p : String × List Char) : Setting × List Char := (.text p.1, p.2)
  match cs with
  | 'n' :: 'u' :: 'l' :: 'l' :: r => some (.nil, r)
  | 't' :: 'r' :: 'u' :: 'e' :: r => some (.bool true, r)
  | 'f' :: 'a' :: 'l' :: 's' :: 'e' :: r => some (.bool false, r)
  | '"' :: r => (readText '"' r).map text
  | '\'' :: r => (readText '\'' r).map text
  | cs => readNumber cs

mutual

/-- A value with what follows; the number bounds the depth of the recursion. -/
def readValue : Nat → List Char → Option (Setting × List Char)
  | 0, _ => none
  | n + 1, cs => do
    match ← skip cs with
    | '[' :: r =>
      match ← skip r with
      | ']' :: r => return (.list, r)
      | r => return (.list, ← readItems n r)
    | '\x7b' :: r =>
      match ← skip r with
      | '\x7d' :: r => return (.table [], r)
      | r => readMembers n (.table []) r
    | cs => readToken cs

/-- Reads the items of a list up to its end. -/
def readItems : Nat → List Char → Option (List Char)
  | 0, _ => none
  | n + 1, cs => do
    let (_, r) ← readValue n cs
    match ← skip r with
    | ']' :: r => return r
    | ',' :: r =>
      match ← skip r with
      | ']' :: r => return r
      | r => readItems n r
    | _ => none

/-- The entries of an object up to its end, over those read before. -/
def readMembers : Nat → Setting → List Char → Option (Setting × List Char)
  | 0, _, _ => none
  | n + 1, t, cs => do
    let (name, r) ← readName cs
    match ← skip r with
    | ':' :: r =>
      let (v, r) ← readValue n r
      let t := t.put name v
      match ← skip r with
      | '\x7d' :: r => return (t, r)
      | ',' :: r =>
        match ← skip r with
        | '\x7d' :: r => return (t, r)
        | r => readMembers n t r
      | _ => none
    | _ => none

end

/-- The entries of a text whose value is an object.  Every second level of the recursion takes at
least one character, so twice the length is enough. -/
def entries? (cs : List Char) : Option (List (String × Setting)) := do
  let (v, r) ← readValue (2 * cs.length + 2) cs
  match v, ← skip r with
  | .table es, [] => return es
  | _, _ => none

end Json5

end KeyWalk
