import KeyWalk.Score

/-!
Bounds of ranges.

A range has a lower and an upper bound, and a bound knows what it admits in either place.

* `ScoreBound` and `ScoreRange` select scores; `ScoreBound.parse` reads `1.5`, `(1.5`, `-inf`,
  `+inf`, and `ScoreBound.token` writes them,
* `LexBound` and `LexRange` select names by their bytes; `LexBound.parse` reads a text and
  `LexBound.ofToken?` an argument token, both in the forms `-`, `+`, `[name`, `(name`.
-/

namespace KeyWalk

/-! ### Scores -/

/-- One end of a score range. -/
inductive ScoreBound where
  | inclusive (s : Score)
  | exclusive (s : Score)
  | negInf
  | posInf
  deriving DecidableEq, Repr

namespace ScoreBound

/-- The inclusive bound at a score; an infinite score is the bound of its name. -/
def ofScore (s : Score) : ScoreBound :=
  if s.isNegInf then negInf else if s.isPosInf then posInf else inclusive s

/-- The bound that a text spells: a leading parenthesis excludes the score.  At an infinity
nothing is excluded. -/
def ofText? (cs : List Char) : Option ScoreBound :=
  match cs with
  | '(' :: r => (Score.ofText? r).map fun s =>
      if s.isNegInf then negInf else if s.isPosInf then posInf else exclusive s
  | _ => (Score.ofText? cs).map ofScore

/-- Reads a bound. -/
def parse (text : String) : Outcome ScoreBound :=
  match ofText? text.toList with
  | some b => .ok b
  | none => refuse ("invalid score bound " ++ Quoted.text text.toList)

/-- The text of a bound. -/
def render : ScoreBound → List Char
  | inclusive s => Score.render s
  | exclusive s => '(' :: Score.render s
  | negInf => ['-', 'i', 'n', 'f']
  | posInf => ['+', 'i', 'n', 'f']

/-- A bound as an argument token. -/
def token (b : ScoreBound) : Bytes := Utf8.encode b.render

/-- The score lies on the allowed side of a lower bound. -/
def admitsFromBelow : ScoreBound → Score → Bool
  | inclusive v, s => v.le s
  | exclusive v, s => v.lt s
  | negInf, _ => true
  | posInf, s => s.isPosInf

/-- The score lies on the allowed side of an upper bound. -/
def admitsFromAbove : ScoreBound → Score → Bool
  | inclusive v, s => s.le v
  | exclusive v, s => s.lt v
  | negInf, s => s.isNegInf
  | posInf, _ => true

end ScoreBound

/-- An interval of scores. -/
structure ScoreRange where
  min : ScoreBound
  max : ScoreBound
  deriving DecidableEq, Repr

/-- The score lies in the interval. -/
def ScoreRange.contains (r : ScoreRange) (s : Score) : Bool :=
  r.min.admitsFromBelow s && r.max.admitsFromAbove s

/-! ### Names -/

/-- One end of a range of names. -/
inductive LexBound where
  | inclusive (name : Bytes)
  | exclusive (name : Bytes)
  /-- Below every name. -/
  | least
  /-- Above every name. -/
  | greatest
  deriving DecidableEq, Repr

namespace LexBound

/-- Reads a bound from a text. -/
def parse (text : String) : Outcome LexBound :=
  match text.toList with
  | ['-'] => .ok least
  | ['+'] => .ok greatest
  | '[' :: cs => .ok (inclusive (Utf8.encode cs))
  | '(' :: cs => .ok (exclusive (Utf8.encode cs))
  | cs => refuse ("lex bound must start with '[' or '(' or be '-'/'+', got " ++ Quoted.text cs)

/-- Reads a bound from an argument token, whose name may be any bytes. -/
def ofToken? : Bytes → Option LexBound
  | [] => none
  | c :: name =>
    if c = 0x5B then some (inclusive name)
    else if c = 0x28 then some (exclusive name)
    else if c = 0x2D ∧ name = [] then some least
    else if c = 0x2B ∧ name = [] then some greatest
    else none

/-- A bound as an argument token. -/
def token : LexBound → Bytes
  | inclusive name => 0x5B :: name
  | exclusive name => 0x28 :: name
  | least => [0x2D]
  | greatest => [0x2B]

/-- The name lies on the allowed side of a lower bound. -/
def admitsFromBelow : LexBound → Bytes → Bool
  | inclusive b, name => b ≤ name
  | exclusive b, name => b < name
  | least, _ => true
  | greatest, _ => false

/-- The name lies on the allowed side of an upper bound. -/
def admitsFromAbove : LexBound → Bytes → Bool
  | inclusive b, name => name ≤ b
  | exclusive b, name => name < b
  | least, _ => false
  | greatest, _ => true

end LexBound

/-- An interval of names. -/
structure LexRange where
  min : LexBound
  max : LexBound
  deriving DecidableEq, Repr

/-- The name lies in the interval. -/
def LexRange.contains (r : LexRange) (name : Bytes) : Bool :=
  r.min.admitsFromBelow name && r.max.admitsFromAbove name

end KeyWalk
