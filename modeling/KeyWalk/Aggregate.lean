import KeyWalk.Command
import KeyWalk.SortedSet

/-!
Combining weighted sorted sets.

`aggregate mode op sources` goes through the sources in order.  A source gives each of its
members the contribution `weight · score`, and a member that several sources hold gets their
contributions combined by `op`.  A union keeps every member, an intersection those that every
source holds.  A source without the member contributes nothing.

* `Aggregate.parse` reads the name of an operation,
* `StoreArgs` are the optional weights and operation of a store command, `storeCommand` builds it.

Design notes.  `0 · ∞` and `∞ - ∞` count as zero, so that no combined score is ever `nan`.
-/

namespace KeyWalk

/-- How the contributions to one member are combined. -/
inductive Aggregate where
  | sum
  | min
  | max
  deriving DecidableEq, Repr

namespace Aggregate

/-- The operation when none is named. -/
def default : Aggregate := sum

/-- The name of an operation. -/
def keyword : Aggregate → String
  | sum => "SUM"
  | min => "MIN"
  | max => "MAX"

/-- The operation with a name, ASCII case aside. -/
def ofName? (text : List Char) : Option Aggregate :=
  [sum, min, max].find? fun op => Text.upper text == op.keyword.toList

/-- Reads the name of an operation. -/
def parse (text : String) : Outcome Aggregate :=
  match ofName? text.toList with
  | some op => .ok op
  | none => refuse ("unknown aggregate " ++ Quoted.text (Text.upper text.toList))

/-- Combines what has been gathered with one more contribution. -/
def combine : Aggregate → Score → Score → Score
  | sum, a, c => (a.add c).nanToZero
  | min, a, c => a.min c
  | max, a, c => a.max c

end Aggregate

/-- Which members a combination keeps. -/
inductive StoreMode where
  /-- The members of any source. -/
  | union
  /-- The members of every source. -/
  | intersection
  deriving DecidableEq, Repr

/-- The command that stores a combination. -/
def StoreMode.kind : StoreMode → CommandKind
  | union => .zunionstore
  | intersection => .zinterstore

/-- What one source contributes to a member that it holds. -/
def contribution (weight score : Score) : Score := (weight.mul score).nanToZero

/-- What has been gathered for one member: the combined score and the number of sources. -/
abbrev Gathered := Score × Nat

/-- One more contribution to a member. -/
def gather (op : Aggregate) (acc : ByteMap Gathered) (m : Bytes) (c : Score) : ByteMap Gathered :=
  match acc.get? m with
  | some (total, seen) => acc.insert m (op.combine total c, seen + 1)
  | none => acc.insert m (c, 1)

/-- One more source. -/
def gatherSource (op : Aggregate) (acc : ByteMap Gathered) (source : Score × ByteMap Score) :
    ByteMap Gathered :=
  source.2.entries.foldl (fun acc e => gather op acc e.1 (contribution source.1 e.2)) acc

/-- The combined members with their scores. -/
def aggregate (mode : StoreMode) (op : Aggregate) (sources : List (Score × ByteMap Score)) :
    ByteMap Score :=
  ((sources.foldl (gatherSource op) ByteMap.empty).filter fun _ g =>
    mode = .union || g.2 = sources.length).mapValues (·.1)

/-! ### The command -/

/-- The optional clauses of a store command. -/
structure StoreArgs where
  weights : Option (List Score) := none
  op : Option Aggregate := none

namespace StoreArgs

/-- The operation to use. -/
def operation (args : StoreArgs) : Aggregate := args.op.getD Aggregate.default

/-- One weight for each of `n` sources, one where none were given. -/
def weightsFor (args : StoreArgs) (n : Nat) : Outcome (List Score) :=
  match args.weights with
  | none => .ok (List.replicate n (Binary64.ofNat 1))
  | some ws =>
    if ws.length ≠ n then
      refuse (toString ws.length ++ " weights given for " ++ toString n ++ " source keys")
    else if ws.any Binary64.isNaN then refuse "weight is not a number"
    else .ok ws

end StoreArgs

/-- The tokens of the optional clauses. -/
def StoreArgs.tokens (args : StoreArgs) (sources : Nat) : Outcome (List Bytes) := do
  let weights ← match args.weights with
    | none => pure []
    | some _ => do
      let ws ← args.weightsFor sources
      pure (Bytes.ofString "WEIGHTS" :: ws.map Score.token)
  let operation := match args.op with
    | none => []
    | some op => [Bytes.ofString "AGGREGATE", Bytes.ofString op.keyword]
  return weights ++ operation

/-- The command that stores the combination of the collections under `keys` at `destination`. -/
def storeCommand (mode : StoreMode) (destination : Bytes) (keys : List Bytes)
    (args : Option StoreArgs) : Outcome Command := do
  if keys.isEmpty then
    refuse (mode.kind.name ++ " needs at least one source key")
  if Integral.greatest < keys.length then
    refuse "too many source keys"
  let clauses ← match args with
    | none => pure []
    | some args => args.tokens keys.length
  return ⟨mode.kind, destination :: Integral.token keys.length :: keys ++ clauses⟩

end KeyWalk
