import KeyWalk.Command
import KeyWalk.Delivery

/-!
Range reads of a sorted set.

A `RangeQuery` selects members by rank, by score or by name, in ascending or descending order,
and may ask for a part of them and for their scores.  It is one round trip: there is no cursor.

* `q.command key` is the request, refused where the store has no such form,
* `q.expect reader` refuses a reader that does not fit the shape of the answer,
* `q.page` and `q.stream` interpret the answer.
-/

namespace KeyWalk

/-- What a range read selects on. -/
inductive Selection where
  /-- Ranks from zero; negative ones count from the end. -/
  | rank (start stop : Int)
  | score (range : ScoreRange)
  | lex (range : LexRange)
  deriving DecidableEq, Repr

/-- One range read. -/
structure RangeQuery where
  selection : Selection
  reverse : Bool := false
  limit : Option (Int × Int) := none
  withScores : Bool := false
  deriving DecidableEq, Repr

namespace RangeQuery

/-- The command of the query. -/
def kind (q : RangeQuery) : CommandKind :=
  match q.selection, q.reverse with
  | .rank .., false => .zrange
  | .rank .., true => .zrevrange
  | .score _, false => .zrangebyscore
  | .score _, true => .zrevrangebyscore
  | .lex _, false => .zrangebylex
  | .lex _, true => .zrevrangebylex

/-- Refuses the query for a reason. -/
def invalid {α : Type} (q : RangeQuery) (reason : String) : Outcome α :=
  refuse (q.kind.name ++ ": " ++ reason)

/-- The tokens of the two bounds; a descending range by score or name names its upper bound
first. -/
def bounds (q : RangeQuery) : Outcome (List Bytes) :=
  match q.selection with
  | .rank start stop =>
    if q.limit.isSome then q.invalid "LIMIT is not supported on rank ranges"
    else .ok [Integral.token start, Integral.token stop]
  | .score range =>
    if q.reverse then .ok [range.max.token, range.min.token]
    else .ok [range.min.token, range.max.token]
  | .lex range =>
    if q.withScores then q.invalid "WITHSCORES is not supported on lex ranges"
    else if q.reverse then .ok [range.max.token, range.min.token]
    else .ok [range.min.token, range.max.token]

/-- The tokens behind the bounds. -/
def options (q : RangeQuery) : List Bytes :=
  (if q.withScores then [Bytes.ofString "WITHSCORES"] else []) ++
    match q.limit with
    | none => []
    | some (offset, count) =>
      [Bytes.ofString "LIMIT", Integral.token offset, Integral.token count]

/-- The request. -/
def command (q : RangeQuery) (key : Bytes) : Outcome Command := do
  let bounds ← q.bounds
  return ⟨q.kind, key :: bounds ++ q.options⟩

/-- Refuses a reader that does not fit the answer: with scores an element has two tokens. -/
def expect {ε : Type} (q : RangeQuery) (reader : Reader ε) : Outcome Unit :=
  if reader.arity = (if q.withScores then 2 else 1) then .ok ()
  else if q.withScores then q.invalid "WITHSCORES query read as plain members"
  else q.invalid "plain member query read with scores"

/-- The answer as a list. -/
def page {ε : Type} (q : RangeQuery) (reader : Reader ε) (reply : Reply) : Outcome (List ε) := do
  q.expect reader
  let tokens ← reply.readArray q.kind.name
  collect reader q.kind.name tokens

/-- The answer into a channel. -/
def stream {ε γ : Type} (q : RangeQuery) (reader : Reader ε) (channel : Channel ε γ)
    (reply : Reply) (g : γ) : Outcome Nat × γ :=
  match q.expect reader *> reply.readArray q.kind.name with
  | .error f => (.error f, g)
  | .ok tokens => deliver reader q.kind.name channel tokens g

end RangeQuery

end KeyWalk
