import KeyWalk.Aggregate
import KeyWalk.Store.Ranked

/-!
Requests: what a command asks of the store.

`Request.ofCommand` reads the argument tokens of a command from left to right, and the first token
that is missing or wrong decides the fault.  A request is read completely before the store looks
at any key.
-/

namespace KeyWalk

/-- What a command asks of the store. -/
inductive Request where
  | askHash (key : Bytes) (query : HashQuery)
  | changeHash (key : Bytes) (update : HashUpdate)
  | askSet (key : Bytes) (query : SetQuery)
  | changeSet (key : Bytes) (update : SetUpdate)
  /-- Stores the combination of weighted sources at the destination. -/
  | combine (mode : StoreMode) (destination : Bytes) (sources : List (Score × Bytes))
      (op : Aggregate)

/-! ### Reading argument tokens -/

/-- Reads from the front of a token list. -/
abbrev Arguments (α : Type) := StateT (List Bytes) (Except Fault) α

namespace Arguments

/-- Fails. -/
def reject {α : Type} (f : Fault) : Arguments α := fun _ => .error f

/-- A value that was found, or a fault. -/
def require {α : Type} (f : Fault) : Option α → Arguments α
  | some a => pure a
  | none => reject f

/-- The next token. -/
def next : Arguments Bytes
  | [] => .error .arity
  | a :: r => .ok (a, r)

/-- The next token as an integer. -/
def integer : Arguments Int := do require .notInteger (Integral.ofToken? (← next))

/-- The next token as a score. -/
def score : Arguments Score := do require .notFloat (Score.ofToken? (← next))

/-- All remaining tokens, at least one. -/
def rest : Arguments (List Bytes)
  | [] => .error .arity
  | a :: r => .ok (a :: r, [])

/-- No token is left. -/
def finish : Arguments Unit
  | [] => .ok ((), [])
  | _ :: _ => .error .badSyntax

/-- The next token as the bound of a score range; a missing one is no bound either. -/
def scoreBound : Arguments ScoreBound
  | [] => .error .scoreRange
  | a :: r =>
    match Utf8.decode? a >>= ScoreBound.ofText? with
    | some b => .ok (b, r)
    | none => .error .scoreRange

/-- The next token as the bound of a range of names. -/
def lexBound : Arguments LexBound := do require .lexRange (LexBound.ofToken? (← next))

/-- The next two tokens as the bounds of a score range, the upper one first if `reverse`. -/
def scoreRange (reverse : Bool) : Arguments ScoreRange := do
  let first ← scoreBound
  let second ← scoreBound
  return if reverse then ⟨second, first⟩ else ⟨first, second⟩

/-- The next two tokens as the bounds of a range of names, the upper one first if `reverse`. -/
def lexRange (reverse : Bool) : Arguments LexRange := do
  let first ← lexBound
  let second ← lexBound
  return if reverse then ⟨second, first⟩ else ⟨first, second⟩

end Arguments

/-- The tokens in pairs; of an odd number there is no such list. -/
def pairs? : List Bytes → Option (List (Bytes × Bytes))
  | [] => some []
  | [_] => none
  | a :: b :: r => ((a, b) :: ·) <$> pairs? r

/-! ### Trailing options -/

/-- The options behind the bounds of a range read. -/
structure RangeOptions where
  withScores : Bool := false
  portion : Portion := {}

namespace RangeOptions

/-- The options with a limit.  A negative offset selects nothing; a negative count selects all
that is left. -/
def limited (o : RangeOptions) (offset count : Int) : RangeOptions :=
  if offset < 0 then { o with portion := { o.portion with count := some 0 } }
  else { o with portion := ⟨offset.toNat, if count < 0 then none else some count.toNat⟩ }

/-- Reads the options to the end.  An option may be given again; the later one counts. -/
def read (allowScores allowLimit : Bool) : RangeOptions → List Bytes → Except Fault RangeOptions
  | o, [] => .ok o
  | o, word :: r =>
    if allowScores && Bytes.isWord "WITHSCORES" word then
      read allowScores allowLimit { o with withScores := true } r
    else if allowLimit && Bytes.isWord "LIMIT" word then
      match r with
      | [] => .error .arity
      | offset :: r₁ =>
        match Integral.ofToken? offset, r₁ with
        | none, _ => .error .notInteger
        | some _, [] => .error .arity
        | some offset, count :: r₂ =>
          match Integral.ofToken? count with
          | none => .error .notInteger
          | some count => read allowScores allowLimit (o.limited offset count) r₂
    else .error .badSyntax

end RangeOptions

/-- The options of a range read, as a reader of arguments. -/
def Arguments.rangeOptions (allowScores allowLimit : Bool) : Arguments RangeOptions := fun tokens =>
  (RangeOptions.read allowScores allowLimit {} tokens).map fun o => (o, [])

section Windows

variable [GlobEngine]

/-- Reads the options of a scan step to the end. -/
def ScanWindow.readOptions : ScanWindow → List Bytes → Except Fault ScanWindow
  | w, [] => .ok w
  | w, word :: r =>
    if Bytes.isWord "MATCH" word then
      match r with
      | [] => .error .arity
      | pattern :: r₁ =>
        match GlobEngine.compile (Utf8.lossy pattern) with
        | .error reason => .error (.pattern reason)
        | .ok matcher => readOptions { w with pattern := some matcher } r₁
    else if Bytes.isWord "COUNT" word then
      match r with
      | [] => .error .arity
      | count :: r₁ =>
        match Integral.ofToken? count with
        | none => .error .notInteger
        | some n =>
          if n < 1 then .error .badSyntax else readOptions { w with count := n.toNat } r₁
    else .error .badSyntax

/-- A cursor with the options of a scan step. -/
def Arguments.scanWindow : Arguments ScanWindow := do
  let cursor ← next
  let offset ← require .invalidCursor (Utf8.decode? cursor >>= Integral.unsigned?)
  fun tokens => (ScanWindow.readOptions { offset } tokens).map fun w => (w, [])

end Windows

/-- Reads the clauses of a store command to the end: `open_` weights are still to come for the
list `weights`, which is built last first. -/
def readClauses (sources : Nat) :
    Nat → List Score → Aggregate → List Bytes → Except Fault (List Score × Aggregate)
  | 0, weights, op, [] => .ok (weights.reverse, op)
  | _ + 1, _, _, [] => .error .badSyntax
  | open_ + 1, weights, op, token :: r =>
    match Score.ofToken? token with
    | none => .error .badSyntax
    | some w => readClauses sources open_ (w :: weights) op r
  | 0, weights, op, word :: r =>
    if Bytes.isWord "WEIGHTS" word then readClauses sources sources [] op r
    else if Bytes.isWord "AGGREGATE" word then
      match r with
      | [] => .error .arity
      | name :: r₁ =>
        match Utf8.decode? name >>= Aggregate.ofName? with
        | none => .error .badSyntax
        | some op => readClauses sources 0 weights op r₁
    else .error .badSyntax

/-- The next `n` tokens. -/
def Arguments.take (n : Nat) : Arguments (List Bytes) := fun tokens =>
  if tokens.length < n then .error .badSyntax else .ok (tokens.take n, tokens.drop n)

/-! ### Requests -/

namespace Request

open Arguments

/-- A question to the hash at the next token. -/
def hashQuestion (query : Arguments HashQuery) : Arguments Request := do
  let key ← next
  let query ← query
  finish
  return .askHash key query

/-- A change of the hash at the next token. -/
def hashChange (update : Arguments HashUpdate) : Arguments Request := do
  let key ← next
  let update ← update
  finish
  return .changeHash key update

/-- A question to the sorted set at the next token. -/
def setQuestion (query : Arguments SetQuery) : Arguments Request := do
  let key ← next
  let query ← query
  finish
  return .askSet key query

/-- A change of the sorted set at the next token. -/
def setChange (update : Arguments SetUpdate) : Arguments Request := do
  let key ← next
  let update ← update
  finish
  return .changeSet key update

/-- A combination: `destination n key… [WEIGHTS w…] [AGGREGATE op]`. -/
def combination (mode : StoreMode) : Arguments Request := do
  let destination ← next
  let n ← integer
  if n ≤ 0 then reject .noKeys
  let keys ← take n.toNat
  let ones := List.replicate keys.length (Binary64.ofNat 1)
  fun tokens =>
    (readClauses keys.length 0 ones.reverse .default tokens).map fun (weights, op) =>
      (.combine mode destination (weights.zip keys) op, [])

/-- A range read by rank. -/
def rankRange (reverse : Bool) : Arguments SetQuery := do
  let start ← integer
  let stop ← integer
  let o ← rangeOptions true false
  return .range (.rank start stop) reverse o.withScores o.portion

/-- A range read by score. -/
def byScore (reverse : Bool) : Arguments SetQuery := do
  let range ← scoreRange reverse
  let o ← rangeOptions true true
  return .range (.score range) reverse o.withScores o.portion

/-- A range read by name. -/
def byName (reverse : Bool) : Arguments SetQuery := do
  let range ← lexRange reverse
  let o ← rangeOptions false true
  return .range (.lex range) reverse false o.portion

/-- The arguments of each command. -/
def reader [GlobEngine] : CommandKind → Arguments Request
  | .hdel => hashChange (return .delete (← rest))
  | .hexists => hashQuestion (return .holds (← next))
  | .hget => hashQuestion (return .get (← next))
  | .hincrby => hashChange (return .increment (← next) (← integer))
  | .hincrbyfloat => hashChange (return .incrementFloat (← next) (← score))
  | .hgetall => hashQuestion (return .allEntries)
  | .hkeys => hashQuestion (return .allFields)
  | .hlen => hashQuestion (return .length)
  | .hmget => hashQuestion (return .getMany (← rest))
  | .hmset => hashChange (return .setMany (← require .arity (pairs? (← rest))))
  | .hset => hashChange (return .set (← next) (← next))
  | .hsetnx => hashChange (return .setIfAbsent (← next) (← next))
  | .hvals => hashQuestion (return .allValues)
  | .hscan => hashQuestion (return .scan (← scanWindow))
  | .zadd => setChange do
    let pairs ← require .badSyntax (pairs? (← rest))
    let entries ← require .notFloat
      (pairs.mapM fun p => (Score.ofToken? p.1).map fun s => (s, p.2))
    return .add entries
  | .zcard => setQuestion (return .cardinality)
  | .zcount => setQuestion (return .count (.score (← scoreRange false)))
  | .zincrby => setChange (return .increment (← score) (← next))
  | .zinterstore => combination .intersection
  | .zlexcount => setQuestion (return .count (.lex (← lexRange false)))
  | .zrange => setQuestion (rankRange false)
  | .zrangebylex => setQuestion (byName false)
  | .zrangebyscore => setQuestion (byScore false)
  | .zrank => setQuestion (return .rank (← next) false)
  | .zrem => setChange (return .remove (← rest))
  | .zremrangebylex => setChange (return .removeSelected (.lex (← lexRange false)))
  | .zremrangebyrank => setChange (return .removeSelected (.rank (← integer) (← integer)))
  | .zremrangebyscore => setChange (return .removeSelected (.score (← scoreRange false)))
  | .zrevrange => setQuestion (rankRange true)
  | .zrevrangebylex => setQuestion (byName true)
  | .zrevrangebyscore => setQuestion (byScore true)
  | .zrevrank => setQuestion (return .rank (← next) true)
  | .zscore => setQuestion (return .score (← next))
  | .zunionstore => combination .union
  | .zscan => setQuestion (return .scan (← scanWindow))

/-- What a command asks. -/
def ofCommand [GlobEngine] (c : Command) : Except Fault Request := (·.1) <$> reader c.kind c.args

end Request

end KeyWalk
