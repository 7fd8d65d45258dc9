import KeyWalk.RangeQuery
import KeyWalk.SortedSet
import KeyWalk.Store.Hash

/-!
Sorted sets in a store: what can be asked of one and what can be done to one.

A `Selection` picks members from a list in rank order, so counting, reading and removing a
selection are three uses of one function.  An absent key is the empty set.
-/

namespace KeyWalk

/-! ### Selections -/

/-- The first and the last position of a range of ranks over `n` members, if it holds any.
Negative ranks count from the end. -/
def rankWindow (n : Nat) (start stop : Int) : Option (Nat × Nat) :=
  let first := if start < 0 then max (n + start) 0 else start
  let last := if stop < 0 then n + stop else min stop (n - 1)
  if n = 0 ∨ last < first ∨ n ≤ first ∨ last < 0 then none
  else some (first.toNat, last.toNat)

/-- The selected part of a list of members in rank order. -/
def Selection.pick (members : List (Bytes × Score)) : Selection → List (Bytes × Score)
  | rank start stop =>
    match rankWindow members.length start stop with
    | none => []
    | some (first, last) => (members.drop first).take (last - first + 1)
  | score range => members.filter fun e => range.contains e.2
  | lex range => members.filter fun e => range.contains e.1

/-- The part of a list that a range read asks for: `offset` members are left out, and at most
`count` of the others are kept. -/
structure Portion where
  offset : Nat := 0
  count : Option Nat := none

/-- The portion of a list. -/
def Portion.of {α : Type} (p : Portion) (l : List α) : List α :=
  match p.count with
  | none => l.drop p.offset
  | some n => (l.drop p.offset).take n

/-! ### Questions and changes -/

/-- A question to a sorted set. -/
inductive SetQuery where
  | cardinality
  | count (selection : Selection)
  | range (selection : Selection) (reverse withScores : Bool) (portion : Portion)
  | rank (member : Bytes) (reverse : Bool)
  | score (member : Bytes)
  | scan (window : ScanWindow)

/-- A change of a sorted set. -/
inductive SetUpdate where
  | add (entries : List (Score × Bytes))
  | increment (by_ : Score) (member : Bytes)
  | remove (members : List Bytes)
  | removeSelected (selection : Selection)

/-- Members as tokens, each followed by its score if asked for. -/
def Reply.members (withScores : Bool) (members : List (Bytes × Score)) : Reply :=
  .array (members.flatMap fun e =>
    if withScores then [.value e.1, .value (Score.token e.2)] else [.value e.1])

namespace SortedSet

/-- The members in the order of a range read. -/
def ordered (z : SortedSet) (reverse : Bool) : List (Bytes × Score) :=
  if reverse then z.ascending.reverse else z.ascending

/-- The rank of a member in the order of a range read. -/
def orderedRank? (z : SortedSet) (reverse : Bool) (member : Bytes) : Option Nat :=
  (z.rank? member).map fun r => if reverse then z.size - 1 - r else r

/-- Adds a number to the score of a member; an absent member counts as zero. -/
def increment (z : SortedSet) (by_ : Score) (member : Bytes) : Except Fault Score × SortedSet :=
  let next := ((z.score? member).getD (.zero false)).add by_
  if next.isNaN then (.error .notFinite, z) else (.ok next, (z.insert member next).2)

end SortedSet

/-- The answer to a question. -/
def SetQuery.answer (z : SortedSet) : SetQuery → Reply
  | cardinality => .count z.size
  | count selection => .count (selection.pick z.ascending).length
  | range selection reverse withScores portion =>
    .members withScores (portion.of (selection.pick (z.ordered reverse)))
  | rank member reverse =>
    match z.orderedRank? reverse member with
    | some r => .count r
    | none => .nil
  | score member => .bulk ((z.score? member).map Score.token)
  | scan window => window.reply Score.token z.members

/-- Makes a change: the reply or a fault, and the set afterwards. -/
def SetUpdate.run (z : SortedSet) : SetUpdate → Except Fault Reply × SortedSet
  | add entries =>
    let (n, z₁) := z.insertAll entries
    (.ok (.count n), z₁)
  | increment by_ member =>
    let (result, z₁) := z.increment by_ member
    (result.map fun s => .value (Score.token s), z₁)
  | remove members =>
    let (n, z₁) := z.removeAll members
    (.ok (.count n), z₁)
  | removeSelected selection =>
    let doomed := (selection.pick z.ascending).map (·.1)
    (.ok (.count doomed.length), (z.removeAll doomed).2)

end KeyWalk
