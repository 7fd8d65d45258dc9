import KeyWalk.Proofs.Binary64
import KeyWalk.Proofs.LastChange
import KeyWalk.Proofs.Ranks
import Mathlib.Data.Set.Card

/-!
Sorted sets and their histories.

A sorted set keeps two indexes and changes both by hand.  Seen from outside it is a finite map: what
it tells about a member follows from the last operation on that member.  `z.Presents map` says that
every observation of `z` is one of `map`:

* `Binary64.before_iff`: the order of keys is the order of numbers with `nan` behind them,
* `SortedSet.Indexed.presents`: a set whose indexes agree presents its own scores,
* `SortedSet.Operation.presents_run`: after any operations on the empty set, whichever scores were
  inserted, the set presents the map of the last insertions.

Design notes.  Building a set from its own scores is one of the operations.  It inserts in the order
of names and not of time, and still there is no difference: a set is determined by its scores.
-/

namespace KeyWalk

/-! ### The order of scores -/

namespace Binary64

/-- Before in the total order: `-0` and `0` have one place, `nan` is behind all numbers. -/
def Before (a b : Binary64) : Prop := a.lt b = true ∨ a.isNaN = false ∧ b.isNaN = true

/-- The total order is the order of keys. -/
theorem before_iff {a b : Binary64} : a.Before b ↔ a.key < b.key := by
  cases hb : b.isNaN with
  | true =>
    obtain rfl := isNaN_iff.1 hb
    cases ha : a.isNaN with
    | true =>
      obtain rfl := isNaN_iff.1 ha
      exact iff_of_false (by simp [Before, lt, isNaN]) (Int.lt_irrefl _)
    | false => exact iff_of_true (.inr ⟨ha, rfl⟩) (key_lt_nan ha)
  | false =>
    have hlt : a.Before b ↔ a.lt b = true := or_iff_left fun h => by simp [hb] at h
    rw [hlt]
    cases ha : a.isNaN with
    | true =>
      obtain rfl := isNaN_iff.1 ha
      exact iff_of_false (by simp [lt, isNaN]) (Int.not_lt.2 (Int.le_of_lt (key_lt_nan hb)))
    | false => exact lt_iff ha hb

end Binary64

namespace SortedSet

/-! ### Histories -/

/-- What can be done to a sorted set. -/
inductive Operation where
  | insert (m : Bytes) (s : Score)
  | remove (m : Bytes)
  /-- The set is built anew from its scores. -/
  | rebuild

namespace Operation

/-- Performs an operation. -/
def perform (z : SortedSet) : Operation → SortedSet
  | insert m s => (z.insert m s).2
  | remove m => (z.remove m).2
  | rebuild => ofScores z.scores

/-- Performs operations one after another. -/
def run (z : SortedSet) (ops : List Operation) : SortedSet := ops.foldl perform z

/-- What an operation says about members. -/
def changes : Operation → List (Bytes × Option Score)
  | insert m s => [(m, some s)]
  | remove m => [(m, none)]
  | rebuild => []

/-- The score of the last insertion of a member that was not removed since. -/
def held (ops : List Operation) (m : Bytes) : Option Score :=
  lastChange (ops.flatMap changes) none m

end Operation

/-- **Every observation of the set is one of the map.** -/
structure Presents (z : SortedSet) (map : Bytes → Option Score) : Prop where
  score : ∀ m, z.score? m = map m
  size : {m | map m ≠ none}.encard = z.size
  isEmpty : z.isEmpty = true ↔ ∀ m, map m = none
  isNew : ∀ m s, (z.insert m s).1 = true ↔ map m = none
  wasThere : ∀ m, (z.remove m).1 = true ↔ map m ≠ none
  mem_members : ∀ m s, (m, s) ∈ z.members ↔ map m = some s
  members : z.members.Pairwise fun a b => a.1 < b.1
  mem_ascending : ∀ m s, (m, s) ∈ z.ascending ↔ map m = some s
  /-- Scores ascend strictly, and where they do not the names do. -/
  ascending : z.ascending.Pairwise fun a b => a.2.Before b.2 ∨ ¬b.2.Before a.2 ∧ a.1 < b.1
  descending : z.ordered true = z.ascending.reverse
  rank : ∀ m i, z.rank? m = some i ↔ ∃ s, z.ascending[i]? = some (m, s)
  rebuilt : ofScores z.scores = z

variable {z : SortedSet} {map : Bytes → Option Score}

/-- The order of ranks in terms of scores and names. -/
theorem precedes_iff_before {a b : Bytes × Score} :
    precedes a b = true ↔ a.2.Before b.2 ∨ ¬b.2.Before a.2 ∧ a.1 < b.1 := by
  rw [precedes_iff, Binary64.before_iff, Binary64.before_iff]
  constructor
  · rintro (hlt | ⟨heq, hname⟩)
    · exact .inl hlt
    · exact .inr ⟨Int.not_lt.2 (Int.le_of_eq heq), hname⟩
  · rintro (hlt | ⟨hge, hname⟩)
    · exact .inl hlt
    · rcases Int.lt_or_eq_of_le (Int.not_lt.1 hge) with hlt | heq
      · exact .inl hlt
      · exact .inr ⟨heq, hname⟩

theorem mem_members_iff {m : Bytes} {s : Score} : (m, s) ∈ z.members ↔ z.score? m = some s :=
  ByteMap.get?_eq_some_iff.symm

theorem isEmpty_iff (z : SortedSet) : z.isEmpty = true ↔ ∀ m, z.score? m = none := by
  rw [isEmpty, ByteMap.isEmpty, List.isEmpty_iff, List.eq_nil_iff_forall_not_mem]
  constructor
  · exact fun h m => Option.eq_none_iff_forall_ne_some.2 fun s hs => h (m, s) (mem_members_iff.2 hs)
  · rintro h ⟨m, s⟩ hmem
    have hs : z.score? m = some s := mem_members_iff.1 hmem
    rw [h m] at hs
    cases hs

/-- There are as many members as the set says. -/
theorem encard_members (z : SortedSet) : {m | z.score? m ≠ none}.encard = z.size := by
  have hnodup : (z.members.map (·.1)).Nodup := z.scores.nodup_names
  have hset : {m | z.score? m ≠ none} = ((z.members.map (·.1)).toFinset : Set Bytes) := by
    ext m
    rw [Set.mem_ofPred_eq, Finset.mem_coe, List.mem_toFinset, List.mem_map,
      Option.ne_none_iff_exists']
    constructor
    · rintro ⟨s, hs⟩
      exact ⟨(m, s), mem_members_iff.2 hs, rfl⟩
    · rintro ⟨e, he, rfl⟩
      exact ⟨e.2, mem_members_iff.1 he⟩
  rw [hset, Set.encard_coe_eq_coe_finsetCard, List.toFinset_card_of_nodup hnodup, List.length_map]
  rfl

/-- The rank of a member is its place, and only members have ranks. -/
theorem Indexed.rank?_eq_some_iff (h : z.Indexed) {m : Bytes} {i : Nat} :
    z.rank? m = some i ↔ ∃ s, z.ranking[i]? = some (m, s) := by
  constructor
  · intro hrank
    cases hs : z.score? m with
    | none =>
      rw [rank?, hs] at hrank
      cases hrank
    | some s =>
      obtain ⟨j, hj, hentry, hplace, -⟩ := h.exists_place ((h.mem_iff m s).2 hs)
      obtain rfl : j = i := Option.some.inj (hplace.symm.trans hrank)
      exact ⟨s, List.getElem?_eq_some_iff.2 ⟨hj, hentry⟩⟩
  · rintro ⟨s, hs⟩
    obtain ⟨hi, hentry⟩ := List.getElem?_eq_some_iff.1 hs
    have hrank := h.rank?_getElem hi
    rwa [hentry] at hrank

/-- A set whose indexes agree is the set that is built from its scores. -/
theorem Indexed.ofScores_scores (h : z.Indexed) : ofScores z.scores = z :=
  (indexed_ofScores z.scores).eq_of_score? h fun _ => rfl

/-- **A set whose indexes agree presents its scores.** -/
theorem Indexed.presents (h : z.Indexed) (hmap : ∀ m, z.score? m = map m) : z.Presents map := by
  obtain rfl : z.score? = map := funext hmap
  exact {
    score := fun _ => rfl
    size := z.encard_members
    isEmpty := z.isEmpty_iff
    isNew := fun m s => by rw [insert_fst, Option.isNone_iff_eq_none]
    wasThere := fun m => by rw [remove_fst, ByteMap.contains, Option.isSome_iff_ne_none]; rfl
    mem_members := fun _ _ => mem_members_iff
    members := z.scores.ascending
    mem_ascending := h.mem_iff
    ascending := h.ascending.imp precedes_iff_before.1
    descending := rfl
    rank := fun _ _ => h.rank?_eq_some_iff
    rebuilt := h.ofScores_scores }

namespace Operation

/-- One step of a history: the indexes agree, and a member has what the operation says. -/
theorem perform_spec (h : z.Indexed) (op : Operation) :
    (perform z op).Indexed ∧
      ∀ m, (perform z op).score? m = lastChange op.changes (z.score? m) m := by
  cases op with
  | insert m' s =>
    refine ⟨h.insert m' s, fun m => ?_⟩
    rw [perform, score?_insert, changes, lastChange_singleton]
  | remove m' =>
    refine ⟨h.remove m', fun m => ?_⟩
    rw [perform, score?_remove, changes, lastChange_singleton]
  | rebuild => exact ⟨indexed_ofScores z.scores, fun _ => rfl⟩

/-- A history of any set whose indexes agree. -/
theorem run_spec (h : z.Indexed) (ops : List Operation) :
    (run z ops).Indexed ∧
      ∀ m, (run z ops).score? m = lastChange (ops.flatMap changes) (z.score? m) m := by
  -- the set is general, as the operations behind the first meet what that one leaves
  induction ops generalizing z with
  | nil => exact ⟨h, fun _ => rfl⟩
  | cons op r ih =>
    obtain ⟨hstep, hscore⟩ := perform_spec h op
    obtain ⟨hindexed, hrest⟩ := ih hstep
    refine ⟨hindexed, fun m => ?_⟩
    rw [List.flatMap_cons, lastChange_append, ← hscore]
    exact hrest m

/-- **A sorted set presents the map of its history**, whatever was done to the empty set. -/
theorem presents_run (ops : List Operation) : (run empty ops).Presents (held ops) := by
  obtain ⟨hindexed, hscore⟩ := run_spec indexed_empty ops
  exact hindexed.presents hscore

/-- A zero with the other sign takes the place of the first one, and `nan` is behind infinity. -/
example :
    (run empty [insert [0x61] (.zero false), insert [0x62] .nan, insert [0x63] (.inf false),
        insert [0x61] (.zero true), rebuild]).ascending =
      [([0x61], .zero true), ([0x63], .inf false), ([0x62], .nan)] := by
  decide

end Operation

end SortedSet

end KeyWalk
