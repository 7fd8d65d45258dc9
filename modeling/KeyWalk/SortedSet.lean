import KeyWalk.ByteMap
import KeyWalk.Number.Binary64

/-!
Sorted sets: members with scores, in the order of their scores.

A set keeps its members twice: `scores` finds the score of a member, `ranking` lists the members
by ascending score, equal scores by ascending member.  Every operation changes both.

* `z.insert m s` and `z.remove m` also tell whether `m` is new, or was there,
* `z.rank? m` is the place of `m` in `z.ascending`,
* `SortedSet.ofScores` builds a set from its map of scores.
-/

namespace KeyWalk

/-- A sorted set, as the map from members to scores and the list of members by rank. -/
structure SortedSet where
  scores : ByteMap Binary64
  ranking : List (Bytes × Binary64)
  deriving DecidableEq

namespace SortedSet

/-! ### The order of ranks -/

/-- The order of ranks: by score in the total order, then by member. -/
def precedes (a b : Bytes × Binary64) : Bool :=
  a.2.key < b.2.key || (a.2.key == b.2.key && a.1 < b.1)

/-- Two entries have the same rank: one member, with scores that do not differ in order. -/
def sameRank (a b : Bytes × Binary64) : Bool := a.2.key == b.2.key && a.1 == b.1

/-- The ranking with `e` at its place, unless an entry of the same rank is there. -/
def insertRanked (e : Bytes × Binary64) : List (Bytes × Binary64) → List (Bytes × Binary64)
  | [] => [e]
  | a :: r =>
    if precedes e a then e :: a :: r
    else if precedes a e then a :: insertRanked e r
    else a :: r

/-- The ranking without the entry of the rank of `e`. -/
def removeRanked (e : Bytes × Binary64) (l : List (Bytes × Binary64)) : List (Bytes × Binary64) :=
  l.filter fun a => !sameRank a e

/-! ### Sets -/

/-- The set without members. -/
def empty : SortedSet := ⟨ByteMap.empty, []⟩

instance : Inhabited SortedSet := ⟨empty⟩

/-- The number of members. -/
def size (z : SortedSet) : Nat := z.scores.size

/-- The set has no members. -/
def isEmpty (z : SortedSet) : Bool := z.scores.isEmpty

/-- The score of a member. -/
def score? (z : SortedSet) (m : Bytes) : Option Binary64 := z.scores.get? m

/-- The members with their scores, by ascending score, ties by member. -/
def ascending (z : SortedSet) : List (Bytes × Binary64) := z.ranking

/-- The members with their scores, by ascending member. -/
def members (z : SortedSet) : List (Bytes × Binary64) := z.scores.entries

/-- The number of members that rank before `m`, if `m` is a member. -/
def rank? (z : SortedSet) (m : Bytes) : Option Nat :=
  (z.score? m).map fun s => z.ranking.countP fun a => precedes a (m, s)

/-- Adds a member or changes its score; the answer is whether the member is new. -/
def insert (z : SortedSet) (m : Bytes) (s : Binary64) : Bool × SortedSet :=
  match z.score? m with
  | some old =>
    (false, ⟨z.scores.insert m s, insertRanked (m, s) (removeRanked (m, old) z.ranking)⟩)
  | none => (true, ⟨z.scores.insert m s, insertRanked (m, s) z.ranking⟩)

/-- Removes a member; the answer is whether it was there. -/
def remove (z : SortedSet) (m : Bytes) : Bool × SortedSet :=
  match z.score? m with
  | some old => (true, ⟨z.scores.erase m, removeRanked (m, old) z.ranking⟩)
  | none => (false, z)

/-- Adds members one after another, counting the new ones. -/
def insertAll (z : SortedSet) : List (Binary64 × Bytes) → Nat × SortedSet
  | [] => (0, z)
  | (s, m) :: r =>
    let (isNew, z₁) := z.insert m s
    let (n, z₂) := z₁.insertAll r
    (n + isNew.toNat, z₂)

/-- Removes members one after another, counting those that were there. -/
def removeAll (z : SortedSet) : List Bytes → Nat × SortedSet
  | [] => (0, z)
  | m :: r =>
    let (wasThere, z₁) := z.remove m
    let (n, z₂) := z₁.removeAll r
    (n + wasThere.toNat, z₂)

/-- The set with the given scores. -/
def ofScores (scores : ByteMap Binary64) : SortedSet :=
  ⟨scores, scores.entries.foldl (fun ranking e => insertRanked e ranking) []⟩

end SortedSet

end KeyWalk
