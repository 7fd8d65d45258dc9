import KeyWalk.Settings.Toml.Date
import KeyWalk.Settings.Toml.Text
import KeyWalk.Settings.Value

/-!
Settings from a TOML text.

* `Toml.readValue` reads a value: a text, a number, a date, an array or a table between braces,
* `Toml.Node` is a table while it is read; it remembers how it came about, as that decides who may
  add to it,
* `Toml.entries? cs` is the table that a text spells.

Design notes.  A key is given once and a table is opened once.  A table that only stands on the
way to another may still be opened, one made by a dotted key may only get more such keys or tables
below it, and one between braces nothing.  No setting looks into a list, so of an array of tables
only the latest is kept.  Arrays and braces may be nested 80 deep.
-/

namespace KeyWalk

namespace Toml

/-! ### Tokens -/

/-- The characters of a numeral without its underscores, each of which stands between two
digits of its base. -/
def plainDigits? (isDigit : Char → Bool) : List Char → Option (List Char)
  | [] => some []
  | [c] => if c = '_' then none else some [c]
  | a :: '_' :: b :: r =>
    if isDigit a && isDigit b then (plainDigits? isDigit (b :: r)).map (a :: ·) else none
  | a :: b :: r => if a = '_' then none else (plainDigits? isDigit (b :: r)).map (a :: ·)

/-- A whole part has no leading zero. -/
def isWhole (cs : List Char) : Bool :=
  cs ≠ [] && cs.all Char.isDigit && (cs == ['0'] || cs.head? != some '0')

/-- The digits of an integer in another base. -/
def inBase? (base : Nat) (cs : List Char) : Option Nat := do
  let ds ← (← plainDigits? (fun c => (Hex.digit? c).isSome) cs).mapM Hex.digit?
  if ds ≠ [] ∧ ds.all (· < base) then some (ds.foldl (fun n d => base * n + d) 0) else none

/-- A numeral without a sign: its whole part is checked, a point has digits on both sides, and a
number that is too great is refused. -/
def unsigned? (negative : Bool) (cs : List Char) : Option Setting :=
  let whole := cs.takeWhile Char.isDigit
  if cs = ['i', 'n', 'f'] then some (.float (.inf negative))
  else if cs = ['n', 'a', 'n'] then some (.float .nan)
  else if !isWhole whole then none
  else if whole = cs then
    (Integral.signed? (if negative then '-' :: cs else cs)).map .integer
  else if endsAtPoint (cs.drop whole.length) then none
  else
    let size? := (Decimal.parse? (Text.lower cs)).map fun d : Decimal => d.toBinary64 negative
    (size?.filter Binary64.isFinite).map .float
where
  /-- A point without a digit behind it. -/
  endsAtPoint : List Char → Bool
    | '.' :: c :: _ => !c.isDigit
    | ['.'] => true
    | _ => false

/-- A value that is one bare token; a date counts as its text. -/
def bare? (token : List Char) : Option Setting :=
  if token = "true".toList then some (.bool true)
  else if token = "false".toList then some (.bool false)
  else match Date.text? token with
    | some shown => some (.text (String.ofList shown))
    | none =>
      match token with
      | '0' :: 'x' :: r => (inBase? 16 r).bind ofNat?
      | '0' :: 'o' :: r => (inBase? 8 r).bind ofNat?
      | '0' :: 'b' :: r => (inBase? 2 r).bind ofNat?
      | '-' :: r => plainDigits? Char.isDigit r >>= unsigned? true
      | '+' :: r => plainDigits? Char.isDigit r >>= unsigned? false
      | r => plainDigits? Char.isDigit r >>= unsigned? false
where
  /-- An integer that fits. -/
  ofNat? (n : Nat) : Option Setting :=
    if Integral.fits n then some (.integer n) else none

/-- A character of a bare token. -/
def isTokenChar (c : Char) : Bool := isBareChar c || c = '+' || c = '.' || c = ':'

/-- A bare token, with what follows: a date and a time may stand in one, with a space between
them. -/
def readBare (cs : List Char) : List Char × List Char :=
  let token := cs.takeWhile isTokenChar
  let rest := cs.dropWhile isTokenChar
  match rest, Date.readDate token with
  | ' ' :: c :: r, some (_, []) =>
    if c.isDigit then
      (token ++ ' ' :: (c :: r).takeWhile isTokenChar, (c :: r).dropWhile isTokenChar)
    else (token, rest)
  | _, _ => (token, rest)

/-- A value that is no array and no table. -/
def readScalar (cs : List Char) : Option (Setting × List Char) :=
  let text (p : List Char × List Char) : Setting × List Char := (.text (String.ofList p.1), p.2)
  match cs with
  | '"' :: '"' :: '"' :: r => (readLongBasic .here (dropLineEnd r)).map text
  | '"' :: r => (readBasic 0 r).map text
  | '\'' :: '\'' :: '\'' :: r => (readLongLiteral (dropLineEnd r)).map text
  | '\'' :: r => (readLiteral r).map text
  | cs =>
    let (token, rest) := readBare cs
    (bare? token).map fun v => (v, rest)

/-! ### Tables -/

/-- How a table came about. -/
inductive Kind where
  /-- Its header opened it. -/
  | opened
  /-- It stands on the way to a table that was opened. -/
  | passed
  /-- It stands on the way of a dotted key. -/
  | dotted
  /-- It stands between braces. -/
  | braced
  /-- It is the latest of an array of tables. -/
  | latest
  deriving DecidableEq, Repr

/-- What stands under a key. -/
inductive Node where
  | value (v : Setting)
  | table (kind : Kind) (entries : List (String × Node))

/-- The entries of a table. -/
abbrev Entries := List (String × Node)

/-- The entries with a node put under a key. -/
def Entries.put (es : Entries) (key : String) (n : Node) : Entries :=
  es.filter (fun e => e.1 != key) ++ [(key, n)]

mutual

/-- The value of a node. -/
def Node.toSetting : Node → Setting
  | .value v => v
  | .table .latest _ => .list
  | .table _ es => .table (settingsOf es)

/-- The values of entries. -/
def settingsOf : Entries → List (String × Setting)
  | [] => []
  | (k, n) :: r => (k, n.toSetting) :: settingsOf r

end

/-- Adds a node under a dotted key.  The tables on its way are made by dotted keys; only the last
of them has to be when it was there before. -/
def define? (n : Node) : List String → Entries → Option Entries
  | [], _ => none
  | [k], es => if (es.lookup k).isSome then none else some (es ++ [(k, n)])
  | k :: ks, es =>
    match es.lookup k with
    | none => (define? n ks []).map fun sub => es ++ [(k, .table .dotted sub)]
    | some (.table kind sub) =>
      if kind = .dotted ∨ ((kind = .passed ∨ kind = .latest) ∧ 1 < ks.length) then
        (define? n ks sub).map fun sub => es.put k (.table kind sub)
      else none
    | some (.value _) => none

/-- Changes the table at the end of a path, on which only braces stop. -/
def within? (change : Entries → Option Entries) : List String → Entries → Option Entries
  | [], es => change es
  | k :: ks, es =>
    match es.lookup k with
    | none => (within? change ks []).map fun sub => es.put k (.table .passed sub)
    | some (.table kind sub) =>
      if kind = .braced then none
      else (within? change ks sub).map fun sub => es.put k (.table kind sub)
    | some (.value _) => none

/-- Opens a table, for the first time. -/
def open? (name : String) (es : Entries) : Option Entries :=
  match es.lookup name with
  | none => some (es.put name (.table .opened []))
  | some (.table .passed sub) => some (es.put name (.table .opened sub))
  | some _ => none

/-- Opens one more table of an array. -/
def openNext? (name : String) (es : Entries) : Option Entries :=
  match es.lookup name with
  | none | some (.table .latest _) => some (es.put name (.table .latest []))
  | some _ => none

/-! ### Values -/

mutual

/-- A value with what follows.  The first number bounds the depth of the recursion, the second is
the number of levels of nesting that are left. -/
def readValue : Nat → (levels : Nat) → List Char → Option (Node × List Char)
  | 0, _, _ => none
  | n + 1, levels, cs =>
    match cs, levels with
    | '[' :: _, 0 => none
    | '\x7b' :: _, 0 => none
    | '[' :: r, levels + 1 => do return (.value .list, ← readItems n levels (← skipLines false r))
    | '\x7b' :: r, levels + 1 => do
      let (es, rest) ← readMembers n levels [] (← skipLines false r)
      return (.table .braced es, rest)
    | cs, _ => (readScalar cs).map fun p => (.value p.1, p.2)

/-- Reads the items of an array up to its end. -/
def readItems : Nat → (levels : Nat) → List Char → Option (List Char)
  | 0, _, _ => none
  | n + 1, levels, cs =>
    match cs with
    | ']' :: r => some r
    | cs => do
      let (_, r) ← readValue n levels cs
      match ← skipLines false r with
      | ']' :: r => return r
      | ',' :: r => readItems n levels (← skipLines false r)
      | _ => none

/-- The members of a table between braces up to its end, behind those read before. -/
def readMembers : Nat → (levels : Nat) → Entries → List Char → Option (Entries × List Char)
  | 0, _, _, _ => none
  | n + 1, levels, es, cs =>
    match cs with
    | '\x7d' :: r => some (es, r)
    | cs => do
      match ← readKey cs.length cs with
      | (key, '=' :: r) =>
        let (v, r) ← readValue n levels (skip r)
        let es ← define? v key es
        match ← skipLines false r with
        | '\x7d' :: r => return (es, r)
        | ',' :: r => readMembers n levels es (← skipLines false r)
        | _ => none
      | _ => none

end

/-! ### Documents -/

/-- What was read before a line: the table as a whole, and where the open table is. -/
structure State where
  root : Entries := []
  here : List String := []

/-- Opens the table or array of tables that a path leads to. -/
def State.enter? (s : State) (opening : String → Entries → Option Entries) (path : List String) :
    Option State := do
  let name ← path.getLast?
  return { root := ← within? (opening name) path.dropLast s.root, here := path }

/-- Reads one statement. -/
def readStatement (s : State) (cs : List Char) : Option (State × List Char) :=
  match cs with
  | '[' :: '[' :: r => do
    match ← readKey r.length r with
    | (path, ']' :: ']' :: r) => return (← s.enter? openNext? path, ← endLine? r)
    | _ => none
  | '[' :: r => do
    match ← readKey r.length r with
    | (path, ']' :: r) => return (← s.enter? open? path, ← endLine? r)
    | _ => none
  | cs => do
    match ← readKey cs.length cs with
    | (key, '=' :: r) =>
      let (v, r) ← readValue (2 * r.length + 2) 80 (skip r)
      return ({ s with root := ← within? (define? v key) s.here s.root }, ← endLine? r)
    | _ => none

/-- Reads at most `n` statements. -/
def readAll : (n : Nat) → State → List Char → Option State
  | 0, _, _ => none
  | n + 1, s, cs => do
    match ← skipLines false cs with
    | [] => return s
    | cs =>
      let (s, r) ← readStatement s cs
      readAll n s r

/-- The text without a byte order mark. -/
def content : List Char → List Char
  | '\uFEFF' :: r => r
  | cs => cs

/-- The entries of a text. -/
def entries? (cs : List Char) : Option (List (String × Setting)) :=
  (readAll (cs.length + 1) {} (content cs)).map fun s => settingsOf s.root

end Toml

end KeyWalk
