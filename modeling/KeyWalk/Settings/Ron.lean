import KeyWalk.Number.Decimal
import KeyWalk.Settings.Value
import KeyWalk.Text.Hex
import KeyWalk.Text.Letter

/-!
Settings from a RON text.

RON writes a map as `\x7b"key": value\x7d` and a record as `(key: value)`, with or without a name
in front; `Some(v)` is `v` itself, and `None`, `()` and a lone name are nothing.  Lists stand
between square brackets, tuples between round ones.

* `Ron.readString` reads a text behind its opening quote, `Ron.readNumber` a number, each with
  what follows,
* `Ron.entries? cs` is the map or record that a text spells; of entries with one key the last
  counts.

Design notes.  Every value and every pair of brackets around it counts as a level of nesting, and
there are at most 128 of them.  An integer that does not fit into 64 bits is a floating-point
number.
-/

namespace KeyWalk

namespace Ron

/-! ### Gaps -/

/-- A character between tokens (Pattern_White_Space). -/
def isSpace (c : Char) : Bool :=
  ('\t' ≤ c && c ≤ '\r') ||
    [' ', '\u0085', '\u200E', '\u200F', '\u2028', '\u2029'].contains c

/-- What the text between two tokens is at some place; comments between stars may be nested. -/
inductive Gap where
  | blank
  | lineComment
  | blockComment (outer : Nat)

/-- The text behind white space and comments, if every comment is closed. -/
def skipGap : Gap → List Char → Option (List Char)
  | .blockComment _, [] => none
  | _, [] => some []
  | .blank, '/' :: '/' :: r => skipGap .lineComment r
  | .blank, '/' :: '*' :: r => skipGap (.blockComment 0) r
  | .blank, c :: r => if isSpace c then skipGap .blank r else some (c :: r)
  | .lineComment, c :: r => skipGap (if c = '\n' then .blank else .lineComment) r
  | .blockComment outer, '/' :: '*' :: r => skipGap (.blockComment (outer + 1)) r
  | .blockComment 0, '*' :: '/' :: r => skipGap .blank r
  | .blockComment (outer + 1), '*' :: '/' :: r => skipGap (.blockComment outer) r
  | .blockComment outer, _ :: r => skipGap (.blockComment outer) r

/-- The text behind a gap. -/
def skip (cs : List Char) : Option (List Char) := skipGap .blank cs

/-! ### Names -/

/-- A character that starts a name. -/
def startsName (c : Char) : Bool := Text.isLetter c || c = '_'

/-- A character inside a name. -/
def isInName (c : Char) : Bool := Text.isLetter c || Text.isWordMark c

/-- A character inside a name behind `r#`. -/
def isInRawName (c : Char) : Bool := isInName c || c = '.' || c = '+' || c = '-'

/-- The text behind some characters, if it starts with them. -/
def behind? (start cs : List Char) : Option (List Char) :=
  if start.isPrefixOf cs then some (cs.drop start.length) else none

/-- The text behind a word, if it starts with it and the word ends there. -/
def behindWord? (word : String) (cs : List Char) : Option (List Char) :=
  (behind? word.toList cs).filter fun r => !(r.head?.any isInName)

/-- The text starts with a text in quotes behind letters, and not with a name. -/
def startsQuoted (cs : List Char) : Bool :=
  ["b\"", "b'", "br\"", "br#\"", "br##", "r\"", "r#\"", "r##"].any fun s =>
    s.toList.isPrefixOf cs

/-- A name, with what follows. -/
def readName (cs : List Char) : Option (String × List Char) :=
  if startsQuoted cs then none
  else match cs with
    | 'r' :: '#' :: r =>
      if r.takeWhile isInRawName = [] then none
      else some (String.ofList (r.takeWhile isInRawName), r.dropWhile isInRawName)
    | c :: r =>
      if startsName c then
        some (String.ofList (c :: r.takeWhile isInName), r.dropWhile isInName)
      else none
    | [] => none

/-- The name of an entry: no character that only names behind `r#` have may follow it. -/
def readKey (cs : List Char) : Option (String × List Char) :=
  (readName cs).filter fun p => !(p.2.head?.any isInRawName)

/-! ### Texts -/

/-- The character of an escape with one letter. -/
def escape? (c : Char) : Option Char :=
  if c = '\'' ∨ c = '"' ∨ c = '\\' then some c
  else if c = 'n' then some '\n'
  else if c = 'r' then some '\r'
  else if c = 't' then some '\t'
  else if c = '0' then some '\x00'
  else none

/-- A character by its number between braces, with what follows. -/
def readScalar (cs : List Char) : Option (Char × List Char) := do
  let digits := cs.takeWhile (· ≠ '\x7d')
  let n ← Hex.value? digits
  if 6 < digits.length || !n.isValidChar then
    none
  match cs.drop digits.length with
  | '\x7d' :: r => return (Char.ofNat n, r)
  | _ => none

/-- A character by the bytes of its UTF-8 form, each written `\x` and two digits; the bytes read
so far come first, and at most `n` more may follow. -/
def readByteEscapes : (n : Nat) → Bytes → List Char → Option (Char × List Char)
  | n + 1, bytes, a :: b :: r => do
    let bytes := bytes ++ [UInt8.ofNat (← Hex.value? [a, b])]
    match Utf8.decode? bytes, r with
    | some [c], _ => return (c, r)
    | _, '\\' :: 'x' :: r => readByteEscapes n bytes r
    | _, _ => none
  | _, _, _ => none

/-- The character of an escape behind its backslash, with what follows; at most `bytes` bytes may
spell it. -/
def readEscape (bytes : Nat) : List Char → Option (Char × List Char)
  | 'u' :: '\x7b' :: r => readScalar r
  | 'x' :: r => readByteEscapes bytes [] r
  | c :: r => (escape? c).map fun e => (e, r)
  | [] => none

/-- White space that a backslash at the end of a line drops. -/
def isDropped (c : Char) : Bool := c = ' ' || c = '\t' || c = '\n' || c = '\r'

/-- A text behind its opening quote, with what follows the closing one; the number bounds its
length. -/
def readChars : Nat → List Char → Option (List Char × List Char)
  | 0, _ => none
  | _, [] => none
  | _, '"' :: r => some ([], r)
  | n + 1, '\\' :: '\n' :: r => readChars n (r.dropWhile isDropped)
  | n + 1, '\\' :: '\r' :: '\n' :: r => readChars n (r.dropWhile isDropped)
  | n + 1, '\\' :: r => do
    let (c, r) ← readEscape 4 r
    let (cs, rest) ← readChars n r
    return (c :: cs, rest)
  | n + 1, c :: r => do
    let (cs, rest) ← readChars n r
    return (c :: cs, rest)

/-- The text up to some characters, with what follows them. -/
def upTo? (stop : List Char) : List Char → Option (List Char × List Char)
  | [] => none
  | c :: r =>
    if stop.isPrefixOf (c :: r) then some ([], (c :: r).drop stop.length)
    else (upTo? stop r).map fun p => (c :: p.1, p.2)

/-- A text as it stands, behind the letter in front of its quote: as many `#` as open it close
it. -/
def readRaw (cs : List Char) : Option (List Char × List Char) :=
  let hashes := cs.takeWhile (· = '#')
  match cs.drop hashes.length with
  | '"' :: r => upTo? ('"' :: hashes) r
  | _ => none

/-- A character behind its opening quote, with what follows the closing one. -/
def readChar (cs : List Char) : Option (Char × List Char) := do
  let (c, r) ← match cs with
    | '\\' :: r => readEscape 1 r
    | c :: r => some (c, r)
    | [] => none
  match r with
  | '\'' :: r => return (c, r)
  | _ => none

/-! ### Numbers -/

/-- The types of integers: the mark behind the digits, and the least and greatest value. -/
def integerTypes : List (String × Int × Int) :=
  [("i8", -0x80, 0x7F), ("i16", -0x8000, 0x7FFF), ("i32", -0x80000000, 0x7FFFFFFF),
    ("i64", Integral.least, Integral.greatest), ("u8", 0, 0xFF), ("u16", 0, 0xFFFF),
    ("u32", 0, 0xFFFFFFFF), ("u64", 0, Integral.unsignedBound - 1)]

/-- A character in a run of digits of any base. -/
def isDigitChar (c : Char) : Bool := (Hex.digit? c).isSome || c = '_'

/-- The value of a run of digits that does not start with an underscore. -/
def digits? (base : Nat) (cs : List Char) : Option Nat := do
  if cs.head? = some '_' then
    none
  let ds ← (cs.filter (· ≠ '_')).mapM Hex.digit?
  if ds ≠ [] ∧ ds.all (· < base) then some (ds.foldl (fun n d => base * n + d) 0) else none

/-- The base of an integer, and its digits with what follows. -/
def base : List Char → Nat × List Char
  | '0' :: 'x' :: r => (16, r)
  | '0' :: 'o' :: r => (8, r)
  | '0' :: 'b' :: r => (2, r)
  | cs => (10, cs)

/-- An integer behind its sign, with what follows. -/
def readInteger (negative : Bool) (cs : List Char) : Option (Int × List Char) := do
  let (b, ds) := base cs
  let n ← digits? b (ds.takeWhile isDigitChar)
  let n : Int := if negative then -n else n
  let r := ds.dropWhile isDigitChar
  let typed? := integerTypes.findSome? fun t => (behindWord? t.1 r).map fun rest => (t.2, rest)
  let ((least, greatest), r) :=
    typed?.getD (if negative then (Integral.least, 0) else (0, Integral.unsignedBound - 1), r)
  if least ≤ n ∧ n ≤ greatest then return (n, r) else none

/-- A character of a floating-point number. -/
def isFloatChar (c : Char) : Bool :=
  c.isDigit || c = 'e' || c = 'E' || c = '.' || c = '+' || c = '-' || c = '_'

/-- The number without its underscores, none of which stands at the start or behind a point; the
flag says that one may follow. -/
def plain? : (allowed : Bool) → List Char → Option (List Char)
  | _, [] => some []
  | allowed, '_' :: r => if allowed then plain? allowed r else none
  | allowed, c :: r =>
    (plain? (c.isDigit || c = 'e' || c = 'E' || (allowed && c ≠ '.')) r).map (c :: ·)

/-- The word of a number that is not finite, with what follows; a mark of its type may follow. -/
def readWord (word : String) (cs : List Char) : Option (List Char) :=
  ["", "f32", "f64"].findSome? fun mark => behindWord? (word ++ mark) cs

/-- A floating-point number, with what follows. -/
def readFloat (cs : List Char) : Option (Binary64 × List Char) :=
  let words : List (String × Binary64) :=
    [("inf", .inf false), ("+inf", .inf false), ("-inf", .inf true), ("NaN", .nan),
      ("+NaN", .nan), ("-NaN", .nan)]
  match words.findSome? fun w => (readWord w.1 cs).map fun r => (w.2, r) with
  | some found => some found
  | none => do
    let a ← Setting.float? (← plain? false (cs.takeWhile isFloatChar))
    return (a, (readWord "" (cs.dropWhile isFloatChar)).getD (cs.dropWhile isFloatChar))

/-- A number, with what follows: an integer if its digits and sign are one, else a floating-point
number. -/
def readNumber (cs : List Char) : Option (Setting × List Char) :=
  let (negative, r) := match cs with
    | '-' :: r => (true, r)
    | '+' :: r => (false, r)
    | r => (false, r)
  let float := (readFloat cs).map fun p => (Setting.float p.1, p.2)
  if (r.takeWhile isDigitChar).length < (r.takeWhile isFloatChar).length then float
  else match readInteger negative r with
    | some (n, rest) => some (.integer n, rest)
    | none => float

/-! ### Values -/

/-- A value that starts with a word of its own or is no list, map or record, with what follows. -/
def readToken (cs : List Char) : Option (Setting × List Char) :=
  let words : List (String × Setting) :=
    [("true", .bool true), ("false", .bool false), ("None", .nil), ("inf", .float (.inf false)),
      ("inff32", .float (.inf false)), ("inff64", .float (.inf false)), ("NaN", .float .nan),
      ("NaNf32", .float .nan), ("NaNf64", .float .nan)]
  let text (p : List Char × List Char) : Setting × List Char := (.text (String.ofList p.1), p.2)
  match words.findSome? fun w => (behindWord? w.1 cs).map fun r => (w.2, r) with
  | some found => some found
  | none =>
    match cs with
    | '"' :: r => (readChars cs.length r).map text
    | '\'' :: r => (readChar r).map fun p => (.text (String.ofList [p.1]), p.2)
    | 'r' :: r => (readRaw r).map text
    | 'b' :: '\'' :: r => (readChar r).map fun p => (.integer p.1.toNat, p.2)
    | 'b' :: '"' :: r => (readChars cs.length r).map fun p => (.list, p.2)
    | 'b' :: 'r' :: r => (readRaw r).map fun p => (.list, p.2)
    | c :: _ =>
      if c.isDigit || c = '+' || c = '-' || c = '.' then readNumber cs else none
    | [] => none

/-- The text behind an opening bracket is that of a record: a name and a colon come first. -/
def startsRecord (cs : List Char) : Bool :=
  match skip cs >>= readName with
  | some (_, r) => (skip r).any fun r => r.head? = some ':'
  | none => false

/-- The text behind a comma with the gaps around it, or `none` if there is no comma. -/
def behindComma (cs : List Char) : Option (Bool × List Char) := do
  match ← skip cs with
  | ',' :: r => return (true, ← skip r)
  | r => return (false, r)

mutual

/-- A value with what follows.  The first number bounds the depth of the recursion, the second is
the number of levels of nesting that are left. -/
def readValue : Nat → (levels : Nat) → List Char → Option (Setting × List Char)
  | 0, _, _ => none
  | n + 1, levels, cs =>
    match behindWord? "Some" cs with
    | some r => do
      match levels, ← skip r with
      | levels + 1, '(' :: r =>
        let (v, r) ← readValue n levels (← skip r)
        match ← behindComma r with
        | (_, ')' :: r) => return (v, r)
        | _ => none
      | _, _ => none
    | none =>
      match readToken cs with
      | some found => some found
      | none =>
        match cs with
        | '(' :: ')' :: r => some (.nil, r)
        | '(' :: r => readBrackets n levels r
        | '[' :: r =>
          match levels with
          | levels + 1 => (readItems n levels ']' r).map fun r => (.list, r)
          | 0 => none
        | '\x7b' :: r =>
          match levels with
          | levels + 1 => readEntries n levels (.table []) r
          | 0 => none
        | cs => do
          let (_, r) ← readName cs
          match ← skip r with
          | '(' :: r => readBrackets n levels r
          | r => return (.nil, r)

/-- A record or a tuple behind its opening bracket, with what follows. -/
def readBrackets : Nat → (levels : Nat) → List Char → Option (Setting × List Char)
  | n + 1, levels + 1, cs =>
    if startsRecord cs then readFields n levels (.table []) cs
    else (readItems n levels ')' cs).map fun r => (.list, r)
  | _, _, _ => none

/-- Reads the items of a list or tuple up to its end. -/
def readItems : Nat → (levels : Nat) → (stop : Char) → List Char → Option (List Char)
  | 0, _, _, _ => none
  | n + 1, levels, stop, cs => do
    match ← skip cs with
    | [] => none
    | c :: r =>
      if c = stop then
        return r
      match levels with
      | 0 => none
      | inner + 1 =>
        let (_, r) ← readValue n inner (c :: r)
        match ← behindComma r with
        | (true, r) => readItems n (inner + 1) stop r
        | (false, d :: r) => if d = stop then some r else none
        | (false, []) => none

/-- The entries of a map up to its end, over those read before.  A key is a text. -/
def readEntries : Nat → (levels : Nat) → Setting → List Char → Option (Setting × List Char)
  | 0, _, _, _ => none
  | n + 1, levels, t, cs => do
    match ← skip cs, levels with
    | '\x7d' :: r, _ => return (t, r)
    | _, 0 => none
    | cs, inner + 1 =>
      match ← readValue n inner cs with
      | (.text key, r) =>
        match ← skip r with
        | ':' :: r =>
          let (v, r) ← readValue n inner (← skip r)
          match ← behindComma r with
          | (true, r) => readEntries n (inner + 1) (t.put key v) r
          | (false, '\x7d' :: r) => return (t.put key v, r)
          | _ => none
        | _ => none
      | _ => none

/-- The fields of a record up to its end, over those read before. -/
def readFields : Nat → (levels : Nat) → Setting → List Char → Option (Setting × List Char)
  | 0, _, _, _ => none
  | n + 1, levels, t, cs => do
    match ← skip cs, levels with
    | ')' :: r, _ => return (t, r)
    | _, 0 => none
    | cs, inner + 1 =>
      let (key, r) ← readKey cs
      match ← skip r with
      | ':' :: r =>
        let (v, r) ← readValue n inner (← skip r)
        match ← behindComma r with
        | (true, r) => readFields n (inner + 1) (t.put key v) r
        | (false, ')' :: r) => return (t.put key v, r)
        | _ => none
      | _ => none

end

/-! ### Documents -/

/-- The names that a header may enable. -/
def features : List String :=
  ["unwrap_newtypes", "implicit_some", "unwrap_variant_newtypes", "explicit_struct_names"]

/-- The text behind some tokens, each with a gap behind it. -/
def skipTokens : List String → List Char → Option (List Char)
  | [], cs => some cs
  | token :: tokens, cs => do skipTokens tokens (← skip (← behind? token.toList cs))

/-- The text behind the names of a header. -/
def skipFeatures : Nat → List Char → Option (List Char)
  | 0, _ => none
  | n + 1, cs => do
    let (name, r) ← readKey cs
    if !features.contains name then
      none
    match ← behindComma r with
    | (true, c :: r) => if startsName c then skipFeatures n (c :: r) else some (c :: r)
    | (_, r) => return r

/-- The text behind at most `n` headers. -/
def skipHeaders : Nat → List Char → Option (List Char)
  | n + 1, '#' :: r => do
    let r ← skipTokens ["#", "!", "[", "enable", "("] ('#' :: r)
    skipHeaders n (← skipTokens [")", "]"] (← skipFeatures r.length r))
  | _, cs => some cs

/-- The entries of a text whose value is a map or a record. -/
def entries? (cs : List Char) : Option (List (String × Setting)) := do
  let start ← skip cs
  let (v, r) ← readValue (2 * cs.length + 2) 128 (← skipHeaders start.length start)
  match v, ← skip r with
  | .table es, [] => return es
  | _, _ => none

end Ron

end KeyWalk
