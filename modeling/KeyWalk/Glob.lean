import KeyWalk.Store.ScanWindow

/-!
Glob patterns on names.

`?` stands for one byte, `*` for any bytes, `[a-z]` and `[!a-z]` for one byte in or out of a
class, `{a,b}` for either of its alternatives, and a backslash takes the next character as it is.
`**` stands for whole path components where it fills one: before a `/` at the start, between two,
or after one at the end; anywhere else it is two stars.

* `Glob.parse` reads a pattern or says what is wrong with it,
* `g.admits name` matches a whole name, byte by byte,
* `Glob.engine` is the engine that compiles such patterns.

Design notes.  Reading is one pass over the characters that keeps the character before the
current one and the alternatives that are still open.  Matching computes, token by token, the set
of what can be left of the name, so it takes no backtracking and is total on the tokens alone.
-/

namespace KeyWalk

/-- What is wrong with a pattern. -/
inductive PatternError where
  | unclosedClass
  | invalidRange (first last : Char)
  | unopenedAlternates
  | unclosedAlternates
  | danglingEscape
  deriving DecidableEq, Repr

/-- The wording of a pattern error. -/
def PatternError.message : PatternError → String
  | unclosedClass => "unclosed character class; missing ']'"
  | invalidRange a b =>
    "invalid range; '" ++ String.singleton a ++ "' > '" ++ String.singleton b ++ "'"
  | unopenedAlternates =>
    "unopened alternate group; missing '\x7b' (maybe escape '\x7d' with '[\x7d]'?)"
  | unclosedAlternates =>
    "unclosed alternate group; missing '\x7d' (maybe escape '\x7b' with '[\x7b]'?)"
  | danglingEscape => "dangling '\\'"

/-- One part of a pattern. -/
inductive GlobToken where
  | literal (c : Char)
  /-- One byte. -/
  | any
  /-- Any bytes. -/
  | star
  /-- Nothing, or whole components with the `/` behind them. -/
  | leading
  /-- A `/` and all that follows. -/
  | trailing
  /-- A `/`, or whole components between two. -/
  | between
  /-- One byte in a class, or one outside it. -/
  | oneOf (negated : Bool) (ranges : List (Char × Char))
  | alternatives (branches : List (List GlobToken))

/-- A glob pattern. -/
structure Glob where
  tokens : List GlobToken

namespace Glob

/-! ### Reading a pattern -/

/-- A group of alternatives under construction: the finished ones, last first, and the tokens of
the current one, last first. -/
structure Group where
  finished : List (List GlobToken)
  current : List GlobToken

/-- The tokens read so far, last first, and the open groups, innermost first. -/
structure Builder where
  base : List GlobToken
  groups : List Group

namespace Builder

/-- The tokens of the innermost sequence, last first. -/
def current (b : Builder) : List GlobToken :=
  match b.groups with
  | [] => b.base
  | g :: _ => g.current

/-- The builder with other tokens in its innermost sequence. -/
def withCurrent (b : Builder) (tokens : List GlobToken) : Builder :=
  match b.groups with
  | [] => { b with base := tokens }
  | g :: gs => { b with groups := { g with current := tokens } :: gs }

/-- One more token. -/
def push (b : Builder) (t : GlobToken) : Builder := b.withCurrent (t :: b.current)

/-- A group is open. -/
def inGroup (b : Builder) : Bool := !b.groups.isEmpty

/-- Opens a group. -/
def openGroup (b : Builder) : Builder := { b with groups := ⟨[], []⟩ :: b.groups }

/-- A comma: the next alternative of an open group, else a character. -/
def comma (b : Builder) : Builder :=
  match b.groups with
  | [] => b.push (.literal ',')
  | g :: gs => { b with groups := ⟨g.current.reverse :: g.finished, []⟩ :: gs }

/-- Closes the innermost group. -/
def closeGroup (b : Builder) : Except PatternError Builder :=
  match b.groups with
  | [] => .error .unopenedAlternates
  | g :: gs =>
    .ok (push { b with groups := gs } (.alternatives (g.current.reverse :: g.finished).reverse))

/-- A `**` that fills a component behind a `/`: it replaces the token of that `/`. -/
def components (b : Builder) (atEnd : Bool) : Builder :=
  match b.current with
  | .leading :: ts => b.withCurrent (.leading :: ts)
  | .trailing :: ts => b.withCurrent (.trailing :: ts)
  | ts => b.withCurrent ((if atEnd then .trailing else .between) :: ts.tail)

end Builder

/-- Whether the reader is inside a class.  There it keeps the ranges, last first, whether a dash
waits for the end of a range, and whether no character was read. -/
inductive Mode where
  | plain
  | inClass (negated : Bool) (ranges : List (Char × Char)) (dash first : Bool)

/-- The class with its last range extended to `c`. -/
def extendRange (c : Char) : List (Char × Char) → Except PatternError (List (Char × Char))
  | [] => .ok [(c, c)]
  | (a, _) :: rs => if c < a then .error (.invalidRange a c) else .ok ((a, c) :: rs)

/-- The stars of `**` between these characters fill no component, so they are two stars: `before`
is neither a `/` nor the start of an alternative. -/
def isTwoStars (b : Builder) (before : Option Char) : Bool :=
  before != some '/' && (!b.inGroup || (before != some ',' && before != some '\x7b'))

/-- Reads the rest of a pattern; `before` is the character in front of it. -/
def read : Mode → Option Char → Builder → List Char → Except PatternError Builder
  | .plain, _, b, [] => .ok b
  | .inClass .., _, _, [] => .error .unclosedClass
  | .inClass negated ranges dash first, _, b, c :: rest =>
    if c = ']' && !first then
      let all := if dash then ('-', '-') :: ranges else ranges
      read .plain (some c) (b.push (.oneOf negated all.reverse)) rest
    else if c = '-' && !first && !dash then
      read (.inClass negated ranges true false) (some c) b rest
    else if dash then do
      let extended ← extendRange c ranges
      read (.inClass negated extended false false) (some c) b rest
    else read (.inClass negated ((c, c) :: ranges) false false) (some c) b rest
  | .plain, before, b, c :: rest =>
    let go (mode : Mode) (b : Builder) := read mode (some c) b rest
    if c = '?' then go .plain (b.push .any)
    else if c = '*' then
      match rest with
      | '*' :: behind =>
        let go₁ (b : Builder) := read .plain (some '*') b behind
        let twoStars := (b.push .star).push .star
        if b.current.isEmpty then
          match behind with
          | [] => .ok (b.push .leading)
          | '/' :: behind₁ => read .plain (some '/') (b.push .leading) behind₁
          | _ => go₁ twoStars
        else if isTwoStars b before then go₁ twoStars
        else
          match behind with
          | [] => .ok (b.components true)
          | '/' :: behind₁ => read .plain (some '/') (b.components false) behind₁
          | d :: _ =>
            go₁ (if (d = ',' || d = '\x7d') && b.inGroup then b.components true else twoStars)
      | _ => go .plain (b.push .star)
    else if c = '[' then
      match rest with
      | '!' :: behind => read (.inClass true [] false true) (some '!') b behind
      | '^' :: behind => read (.inClass true [] false true) (some '^') b behind
      | _ => go (.inClass false [] false true) b
    else if c = '\x7b' then go .plain b.openGroup
    else if c = '\x7d' then b.closeGroup >>= go .plain
    else if c = ',' then go .plain b.comma
    else if c = '\\' then
      match rest with
      | [] => .error .danglingEscape
      | d :: behind => read .plain (some d) (b.push (.literal d)) behind
    else go .plain (b.push (.literal c))

/-- Reads a pattern. -/
def parse (pattern : List Char) : Except PatternError Glob := do
  let b ← read .plain none ⟨[], []⟩ pattern
  if b.inGroup then .error .unclosedAlternates
  else .ok ⟨b.base.reverse⟩

/-! ### Matching a name -/

/-- The ends of a byte string, itself and the empty one included. -/
def suffixes : Bytes → List Bytes
  | [] => [[]]
  | a :: r => (a :: r) :: suffixes r

/-- What follows each `/` of a byte string. -/
def behindSlashes : Bytes → List Bytes
  | [] => []
  | a :: r => if a = 0x2F then r :: behindSlashes r else behindSlashes r

/-- What follows a literal beginning, if the name begins so. -/
def strip : Bytes → Bytes → List Bytes
  | [], s => [s]
  | _ :: _, [] => []
  | a :: l, b :: s => if a = b then strip l s else []

/-- The byte ranges of a class.  A character of several bytes counts each of its bytes; a range
runs from the last byte of its first character to the first byte of its last one. -/
def byteRanges (r : Char × Char) : List (UInt8 × UInt8) :=
  let first := Utf8.encode [r.1]
  let last := Utf8.encode [r.2]
  if r.1 = r.2 then first.map fun b => (b, b)
  else
    first.dropLast.map (fun b => (b, b)) ++ [(first.getLastD 0, last.headD 0)] ++
      last.tail.map fun b => (b, b)

/-- The byte is in one of the ranges. -/
def inClass (ranges : List (Char × Char)) (b : UInt8) : Bool :=
  ranges.any fun r => (byteRanges r).any fun s => s.1 ≤ b && b ≤ s.2

mutual

/-- The token stands for nothing at all: a group of alternatives that are all empty. -/
def isVoid : GlobToken → Bool
  | .alternatives branches => allVoid branches
  | _ => false

/-- A sequence of such tokens. -/
def isVoidSequence : List GlobToken → Bool
  | [] => true
  | t :: ts => isVoid t && isVoidSequence ts

/-- Alternatives that are all such sequences. -/
def allVoid : List (List GlobToken) → Bool
  | [] => true
  | b :: bs => isVoidSequence b && allVoid bs

end

mutual

/-- What can be left of a name behind a token. -/
def rests : GlobToken → Bytes → List Bytes
  | .literal c, s => strip (Utf8.encode [c]) s
  | .any, [] => []
  | .any, _ :: r => [r]
  | .star, s => suffixes s
  | .leading, s => s :: behindSlashes s
  | .trailing, [] => []
  | .trailing, a :: r => if a = 0x2F then suffixes r else []
  | .between, [] => []
  | .between, a :: r => if a = 0x2F then r :: behindSlashes r else []
  | .oneOf _ _, [] => []
  | .oneOf negated ranges, b :: r => if inClass ranges b != negated then [r] else []
  | .alternatives branches, s => if allVoid branches then [s] else branchRests branches s

/-- What can be left behind a sequence of tokens, out of several beginnings. -/
def sequenceRests : List GlobToken → List Bytes → List Bytes
  | [], left => left
  | t :: ts, left => sequenceRests ts (left.flatMap fun s => rests t s).eraseDups

/-- What can be left behind one of several alternatives; an empty alternative counts for
nothing. -/
def branchRests : List (List GlobToken) → Bytes → List Bytes
  | [], _ => []
  | b :: bs, s => (if isVoidSequence b then [] else sequenceRests b [s]) ++ branchRests bs s

end

/-- The pattern matches the whole name.  A lone `**` matches everything. -/
def admits (g : Glob) (name : Bytes) : Bool :=
  match g.tokens with
  | [.leading] => true
  | tokens => (sequenceRests tokens [name]).any (·.isEmpty)

/-- The names that a pattern matches, by the bytes of their characters, or what is wrong with it. -/
def compile (pattern : List Char) : Except String Matcher :=
  match parse pattern with
  | .error e => .error e.message
  | .ok g => .ok fun name => g.admits (Utf8.encode name)

/-- The engine for these patterns. -/
abbrev engine : GlobEngine := ⟨compile⟩

end Glob

end KeyWalk
