import KeyWalk.Json
import KeyWalk.Text.Hex

/-!
JSON texts.

* `JsonValue.parse? cs` reads one value with white space around it,
* `JsonMember.record members` is the text of a record without white space, in which bytes are the
  list of their numbers,
* `JsonCodec.compact` is the codec of the two.

Design notes.  A text is read in one pass.  The names of members that are written are plain words,
which need no escapes.
-/

namespace KeyWalk

namespace JsonValue

/-! ### Leaves -/

/-- White space between tokens. -/
def isSpace (c : Char) : Bool := c = ' ' || c = '\t' || c = '\n' || c = '\r'

/-- The text behind its white space. -/
def skip (cs : List Char) : List Char := cs.dropWhile isSpace

/-- The character that an escape with one letter stands for. -/
def escape? (c : Char) : Option Char :=
  if c = '"' ∨ c = '\\' ∨ c = '/' then some c
  else if c = 'b' then some '\x08'
  else if c = 'f' then some '\x0c'
  else if c = 'n' then some '\n'
  else if c = 'r' then some '\r'
  else if c = 't' then some '\t'
  else none

/-- A text behind its opening quote, with what follows the closing one. -/
def readText : List Char → Option (JsonText × List Char)
  | [] => none
  | '"' :: r => some (⟨[], false⟩, r)
  | '\\' :: 'u' :: a :: b :: c :: d :: r => do
    let n ← Hex.value? [a, b, c, d]
    let (t, rest) ← readText r
    return (t.cons n, rest)
  | '\\' :: e :: r => do
    let c ← escape? e
    let (t, rest) ← readText r
    return (t.cons c.toNat, rest)
  | c :: r => do
    let (t, rest) ← readText r
    return (⟨c.toNat :: t.units, t.raw || c < ' '⟩, rest)

/-- The exponent behind a number, zero if there is none, with what follows. -/
def readExponent : List Char → Option (Int × List Char)
  | c :: r =>
    if c = 'e' ∨ c = 'E' then
      let (negative, r) := match r with
        | '-' :: r => (true, r)
        | '+' :: r => (false, r)
        | r => (false, r)
      (Integral.digits? (r.takeWhile Char.isDigit)).map fun n =>
        (if negative then -(n : Int) else n, r.dropWhile Char.isDigit)
    else some (0, c :: r)
  | [] => some (0, [])

/-- The fraction behind a point, empty if there is none, with what follows. -/
def readFraction : List Char → Option (List Char × List Char)
  | '.' :: r =>
    if r.takeWhile Char.isDigit = [] then none
    else some (r.takeWhile Char.isDigit, r.dropWhile Char.isDigit)
  | cs => some ([], cs)

/-- A number behind its sign, with what follows.  Its whole part has no leading zero. -/
def readUnsigned (negative : Bool) (cs : List Char) : Option (JsonNumber × List Char) := do
  let whole := cs.takeWhile Char.isDigit
  let rest := cs.dropWhile Char.isDigit
  if whole = [] ∨ (whole.head? = some '0' ∧ whole ≠ ['0']) then
    none
  let (part, rest₁) ← readFraction rest
  let (e, rest₂) ← readExponent rest₁
  let plain := rest₂.length = rest.length
  return (⟨negative, ⟨Nat.ofDigitChars 10 (whole ++ part) 0, e - part.length⟩, plain⟩, rest₂)

/-- A number with what follows. -/
def readNumber : List Char → Option (JsonNumber × List Char)
  | '-' :: cs => readUnsigned true cs
  | cs => readUnsigned false cs

/-- A value that is a single token, with what follows. -/
def readToken (cs : List Char) : Option (JsonValue × List Char) :=
  match cs with
  | 'n' :: 'u' :: 'l' :: 'l' :: r => some (null, r)
  | 't' :: 'r' :: 'u' :: 'e' :: r => some (bool true, r)
  | 'f' :: 'a' :: 'l' :: 's' :: 'e' :: r => some (bool false, r)
  | '"' :: r => (readText r).map fun t => (text t.1, t.2)
  | cs => (readNumber cs).map fun n => (number n.1, n.2)

/-! ### Values -/

mutual

/-- A value with what follows; the number bounds the depth of the recursion. -/
def readValue : Nat → List Char → Option (JsonValue × List Char)
  | 0, _ => none
  | n + 1, cs =>
    match skip cs with
    | '[' :: r =>
      match skip r with
      | ']' :: r => some (array [], r)
      | _ => (readItems n r).map fun l => (array l.1, l.2)
    | '\x7b' :: r =>
      match skip r with
      | '\x7d' :: r => some (object [], r)
      | _ => (readMembers n r).map fun l => (object l.1, l.2)
    | cs => readToken cs

/-- The items of an array up to its end. -/
def readItems : Nat → List Char → Option (List JsonValue × List Char)
  | 0, _ => none
  | n + 1, cs => do
    let (v, r) ← readValue n cs
    match skip r with
    | ']' :: r => return ([v], r)
    | ',' :: r =>
      let (l, rest) ← readItems n r
      return (v :: l, rest)
    | _ => none

/-- The members of an object up to its end. -/
def readMembers : Nat → List Char → Option (List (JsonText × JsonValue) × List Char)
  | 0, _ => none
  | n + 1, cs =>
    match skip cs with
    | '"' :: r => do
      let (k, r) ← readText r
      match skip r with
      | ':' :: r =>
        let (v, r) ← readValue n r
        match skip r with
        | '\x7d' :: r => return ([(k, v)], r)
        | ',' :: r =>
          let (l, rest) ← readMembers n r
          return ((k, v) :: l, rest)
        | _ => none
      | _ => none
    | _ => none

end

/-- The value that a text spells.  Every second level of the recursion takes at least one
character, so twice the length is enough. -/
def parse? (cs : List Char) : Option JsonValue :=
  match readValue (2 * cs.length + 2) cs with
  | some (v, rest) => if skip rest = [] then some v else none
  | none => none

end JsonValue

namespace JsonMember

/-- Numbers with commas between them. -/
def numbersText (ns : List Nat) : List Char :=
  List.intercalate [','] (ns.map (Nat.toDigits 10))

/-- The text of what stands in a record. -/
def text : JsonMember → List Char
  | bytes b => '[' :: numbersText (b.map UInt8.toNat) ++ [']']
  | flag true => "true".toList
  | flag false => "false".toList

/-- The text of a record. -/
def record (members : List (String × JsonMember)) : List Char :=
  let texts := members.map fun m => '"' :: m.1.toList ++ '"' :: ':' :: m.2.text
  '\x7b' :: List.intercalate [','] texts ++ ['\x7d']

end JsonMember

/-- The codec for these texts. -/
abbrev JsonCodec.compact : JsonCodec := ⟨JsonMember.record, JsonValue.parse?⟩

end KeyWalk
