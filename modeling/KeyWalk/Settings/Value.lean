import KeyWalk.Logging
import KeyWalk.Score

/-!
Loose values: what a setting is before its meaning is known.

A source of settings hands over a table of values in whatever kind its notation has, and each
setting takes its own meaning out of them:

* `unsigned?` takes numbers, truth values and their words, `text?` takes any scalar,
* `format?` takes the name of a layout, `optional` lets `nil` stand for nothing,
* `ofToken` is the kind that a bare token suggests,
* `overlay` puts a value over another: tables are joined entry by entry, anything else replaces,
* `path` is what a key spells, and `merge` puts each entry where its key says.
-/

namespace KeyWalk

/-- A value of a settings source. -/
inductive Setting where
  | nil
  | bool (b : Bool)
  | integer (n : Int)
  | float (a : Binary64)
  | text (s : String)
  /-- A list; no setting reads its items. -/
  | list
  | table (entries : List (String × Setting))
  deriving Repr

namespace Setting

/-! ### Meanings -/

/-- The nearest natural number, a half going up, of a number that is not negative: what fits into
64 bits, the bound for anything greater and zero for `nan`. -/
def roundUnsigned : Binary64 → Nat
  | .nan => 0
  | .signed true _ _ => 0
  | .signed false m _ =>
    if m = infMagnitude then Integral.unsignedBound - 1
    else Nat.min ((2 * Binary64.units m + Binary64.one) / (2 * Binary64.one))
      (Integral.unsignedBound - 1)

/-- The number that a text spells, or the number of a truth value in words. -/
def unsignedOfText? (s : String) : Option Nat :=
  let word := Text.lower s.toList
  if ["true", "on", "yes"].any fun w => word == w.toList then some 1
  else if ["false", "off", "no"].any fun w => word == w.toList then some 0
  else Integral.unsigned? s.toList

/-- The value as a natural number of 64 bits. -/
def unsigned? : Setting → Option Nat
  | integer n => if 0 ≤ n then some n.toNat else none
  | bool b => some b.toNat
  | float a => some (roundUnsigned a)
  | text s => unsignedOfText? s
  | _ => none

/-- The value as a text. -/
def text? : Setting → Option String
  | text s => some s
  | bool b => some (if b then "true" else "false")
  | integer n => some (String.ofList (Integral.render n))
  | float a => some (String.ofList (Shortest.render a))
  | _ => none

/-- The value as a layout: its name, or a table with the name as its only key. -/
def format? : Setting → Option LogFormat
  | text s => LogFormat.named? s
  | table [(name, _)] => LogFormat.named? name
  | _ => none

/-- Nothing for `nil`, else the value as `read` takes it. -/
def optional {α : Type} (read : Setting → Option α) : Setting → Option (Option α)
  | nil => some none
  | v => (read v).map some

/-! ### Bare tokens -/

/-- A floating-point number without a sign, in small letters. -/
def unsignedFloat? (negative : Bool) (cs : List Char) : Option Binary64 :=
  if cs = ['n', 'a', 'n'] then some .nan else Score.unsignedText? negative cs

/-- A floating-point number behind at most one sign, ASCII case aside. -/
def float? (cs : List Char) : Option Binary64 :=
  match Text.lower cs with
  | '-' :: r => unsignedFloat? true r
  | '+' :: r => unsignedFloat? false r
  | r => unsignedFloat? false r

/-- The value of a token: a truth value, an integer or a number if it looks like one, else a
text. -/
def ofToken (s : String) : Setting :=
  let cs := s.toList
  if Text.lower cs = "true".toList then bool true
  else if Text.lower cs = "false".toList then bool false
  else match Integral.signed? cs with
    | some n => integer n
    | none =>
      match float? cs with
      | some a => float a
      | none => text s

/-! ### Tables -/

/-- The entries of a table; other values have none. -/
def entries : Setting → List (String × Setting)
  | table es => es
  | _ => []

/-- The value under a key. -/
def get? (t : Setting) (key : String) : Option Setting := t.entries.lookup key

/-- The table with a value put under a key. -/
def put (t : Setting) (key : String) (v : Setting) : Setting :=
  table ((t.entries.filter fun e => e.1 != key) ++ [(key, v)])

mutual

/-- The value over what was there: a table keeps the entries below it that it does not have. -/
def overlay : Setting → Setting → Setting
  | table es, t => overlayEntries es (table t.entries)
  | v, _ => v

/-- Each entry over what a table has under its key. -/
def overlayEntries : List (String × Setting) → Setting → Setting
  | [], t => t
  | (k, v) :: r, t => overlayEntries r (t.put k (v.overlay ((t.get? k).getD nil)))

end

/-! ### Paths -/

/-- One step of a path: into a table by name, or into a list by number.  As no setting looks into
a list, the number does not matter. -/
inductive Step where
  | name (s : String)
  | item
  deriving DecidableEq, Repr

/-- Puts a value at the end of a path; what stands in its way gives way. -/
def set (v : Setting) : List Step → Setting → Setting
  | [], t => v.overlay t
  | .name k :: ks, t => t.put k (set v ks ((t.get? k).getD nil))
  | .item :: _, _ => list

/-- A character of a name in a path. -/
def isNameChar (c : Char) : Bool := c.isAlphanum || c = '_' || c = '-'

/-- A name, with what follows. -/
def readName (cs : List Char) : Option (Step × List Char) :=
  match cs.takeWhile isNameChar with
  | [] => none
  | name => some (.name (String.ofList name), cs.dropWhile isNameChar)

/-- A blank between brackets. -/
def isGap (c : Char) : Bool := c = ' ' || c = '\t'

/-- A number behind an opening bracket, with what follows the closing one. -/
def readItem (cs : List Char) : Option (Step × List Char) :=
  let (negative, digits) := match cs.dropWhile isGap with
    | '-' :: r => (true, r)
    | r => (false, r)
  let number := if negative then '-' :: digits.takeWhile Char.isDigit
    else digits.takeWhile Char.isDigit
  match Integral.signed? number, (digits.dropWhile Char.isDigit).dropWhile isGap with
  | some _, ']' :: r => some (.item, r)
  | _, _ => none

/-- The steps behind the first name, at most `n` of them. -/
def readSteps : (n : Nat) → List Char → Option (List Step)
  | _, [] => some []
  | 0, _ :: _ => none
  | n + 1, '.' :: r => do
    let (step, r) ← readName r
    return step :: (← readSteps n r)
  | n + 1, '[' :: r => do
    let (step, r) ← readItem r
    return step :: (← readSteps n r)
  | _, _ => none

/-- The path that a key spells: names behind points and numbers between brackets behind a first
name.  A key that is no path is a name as a whole. -/
def path (key : String) : List Step :=
  let steps? := do
    let (step, r) ← readName key.toList
    return step :: (← readSteps r.length r)
  steps?.getD [.name key]

/-- Puts each entry where its key says, later ones over earlier ones. -/
def merge (t : Setting) (es : List (String × Setting)) : Setting :=
  es.foldl (fun t e => set e.2 (path e.1) t) t

end Setting

end KeyWalk
