import KeyWalk.Aggregate
import KeyWalk.Call.Hash
import KeyWalk.RangeQuery

/-!
The calls on sorted sets.

A score that is not a number is refused before anything is sent, and so is a range read whose
elements would not fit the answer.
-/

namespace KeyWalk.Call

variable {γ ε : Type}

/-- Refuses what is not a number. -/
def checkScore (s : Score) : Outcome Unit :=
  if s.isNaN then refuse "score is not a number" else .ok ()

/-- The tokens of scored members, each score checked in turn. -/
def scoredTokens : List (Score × Bytes) → Outcome (List Bytes)
  | [] => .ok []
  | (s, m) :: r => do
    checkScore s
    return Score.token s :: m :: (← scoredTokens r)

/-- Adds or updates members; the result is the number of new ones. -/
def zaddMulti (key : Bytes) (entries : List (Score × Bytes)) : Outcome (Prepared γ Int) := do
  if entries.isEmpty then
    refuse "ZADD needs at least one member"
  return integer .zadd (key :: (← scoredTokens entries))

/-- Adds or updates one member. -/
def zadd (key : Bytes) (s : Score) (member : Bytes) : Outcome (Prepared γ Int) :=
  zaddMulti key [(s, member)]

/-- The number of members. -/
def zcard (key : Bytes) : Prepared γ Int := integer .zcard [key]

/-- The number of members with a score in a range. -/
def zcount (key : Bytes) (range : ScoreRange) : Prepared γ Int :=
  integer .zcount [key, range.min.token, range.max.token]

/-- Adds a number to the score of a member; the result is the new score. -/
def zincrby (key : Bytes) (amount : Score) (member : Bytes) : Outcome (Prepared γ Score) := do
  checkScore amount
  return .reading ⟨.zincrby, [key, Score.token amount, member]⟩
    (Reply.readRequiredScore "ZINCRBY" "nil score")

/-- Stores a combination of sorted sets; the result is its size. -/
def combine (mode : StoreMode) (destination : Bytes) (keys : List Bytes)
    (args : Option StoreArgs) : Outcome (Prepared γ Int) := do
  let command ← storeCommand mode destination keys args
  return .reading command (Reply.readInteger command.name)

/-- The number of members in a range of names. -/
def zlexcount (key : Bytes) (range : LexRange) : Prepared γ Int :=
  integer .zlexcount [key, range.min.token, range.max.token]

/-- A range read as a list. -/
def range (reader : Reader ε) (key : Bytes) (query : RangeQuery) :
    Outcome (Prepared γ (List ε)) := do
  query.expect reader
  return .collected reader (← query.command key)

/-- A range read into a channel. -/
def rangeStream (reader : Reader ε) (channel : Channel ε γ) (key : Bytes) (query : RangeQuery) :
    Outcome (Prepared γ Nat) := do
  query.expect reader
  return .streamed reader channel (← query.command key)

/-- The members of a range. -/
def zrange (key : Bytes) (query : RangeQuery) : Outcome (Prepared γ (List Bytes)) :=
  range .bytes key query

/-- The members of a range with their scores. -/
def zrangeWithScores (key : Bytes) (query : RangeQuery) :
    Outcome (Prepared γ (List ScoredValue)) :=
  range .scoredValue key { query with withScores := true }

/-- A call with a rank as its reply. -/
def rank (kind : CommandKind) (key member : Bytes) : Prepared γ (Option Int) :=
  .reading ⟨kind, [key, member]⟩ (Reply.readOptionalInteger kind.name)

/-- The rank of a member by ascending score. -/
def zrank (key member : Bytes) : Prepared γ (Option Int) := rank .zrank key member

/-- The rank of a member by descending score. -/
def zrevrank (key member : Bytes) : Prepared γ (Option Int) := rank .zrevrank key member

/-- Removes members; the result is the number removed. -/
def zrem (key : Bytes) (members : List Bytes) : Outcome (Prepared γ Int) :=
  if members.isEmpty then refuse "ZREM needs at least one member"
  else .ok (integer .zrem (key :: members))

/-- Removes the members in a range of names. -/
def zremrangebylex (key : Bytes) (range : LexRange) : Prepared γ Int :=
  integer .zremrangebylex [key, range.min.token, range.max.token]

/-- Removes the members in a range of ranks. -/
def zremrangebyrank (key : Bytes) (start stop : Int) : Prepared γ Int :=
  integer .zremrangebyrank [key, Integral.token start, Integral.token stop]

/-- Removes the members with a score in a range. -/
def zremrangebyscore (key : Bytes) (range : ScoreRange) : Prepared γ Int :=
  integer .zremrangebyscore [key, range.min.token, range.max.token]

/-- The score of a member. -/
def zscore (key member : Bytes) : Prepared γ (Option Score) :=
  .reading ⟨.zscore, [key, member]⟩ (Reply.readScore "ZSCORE")

end KeyWalk.Call
