import KeyWalk.Proofs.Aggregate
import Mathlib.Data.List.Forall2

/-!
A combination, member by member.

The combination goes source by source over all members and counts for each the sources that hold it.
Seen from one member it is a fold over `contributions sources m`, what the sources that hold the
member contribute, in their order.  What is folded is told by the arithmetic and the order of the
numbers alone:

* `weighted`, `Aggregate.join`: a score with its weight, and two scores combined,
* `contributions`, `Aggregate.total?`: the fold over the sources that hold a member,
* `Gathered.get?_gatherSource`: a source adds to what is gathered for its members, once for each,
* `Gathered.get?_gatherSources`: so the sources add what they contribute one after the other,
* `get?_aggregate`: the combination under each name,
* `aggregate_memberwise`: which members it has, and with which scores.

Design notes.  A source may be listed more than once, and then contributes as often.  The count of
an intersection is right because a source has each member at most once.  Combining compares scores
without a test for `nan`, so it is the same only for numbers, and contributions are numbers.
-/

namespace KeyWalk

variable {op : Aggregate} {mode : StoreMode} {sources sources' : List (Score × ByteMap Score)}
  {acc : ByteMap Gathered} {m : Bytes} {a c : Score} {cs : List Score}

/-! ### The fold -/

/-- A score with its weight: the product, and zero where the product is `nan`. -/
def weighted (weight score : Score) : Score :=
  if (weight.mul score).isNaN = true then .zero false else weight.mul score

/-- Two scores combined: their sum, with zero where the sum is `nan`; or the second score if it is
less or greater than the first one, and else the first. -/
def Aggregate.join : Aggregate → Score → Score → Score
  | sum, a, c => if (a.add c).isNaN = true then .zero false else a.add c
  | min, a, c => if c.lt a = true then c else a
  | max, a, c => if a.lt c = true then c else a

/-- What the sources that hold the member contribute to it, in the order of the sources. -/
def contributions (sources : List (Score × ByteMap Score)) (m : Bytes) : List Score :=
  sources.filterMap fun source => (source.2.get? m).map (weighted source.1)

/-- Scores combined from the first one on; there is nothing to combine in an empty list. -/
def Aggregate.total? (op : Aggregate) : List Score → Option Score
  | [] => none
  | c :: cs => some (cs.foldl op.join c)

theorem contribution_eq_weighted (weight score : Score) :
    contribution weight score = weighted weight score := rfl

theorem mem_contributions_iff :
    c ∈ contributions sources m ↔
      ∃ source ∈ sources, ∃ s, source.2.get? m = some s ∧ weighted source.1 s = c := by
  simp only [contributions, List.mem_filterMap, Option.map_eq_some_iff]

theorem isNaN_of_mem_contributions (h : c ∈ contributions sources m) : c.isNaN = false := by
  obtain ⟨source, -, s, -, rfl⟩ := mem_contributions_iff.1 h
  rw [← contribution_eq_weighted]
  exact isNaN_contribution source.1 s

namespace Aggregate

/-- **Numbers are combined so.** -/
theorem combine_eq_join (op : Aggregate) (ha : a.isNaN = false) (hc : c.isNaN = false) :
    op.combine a c = op.join a c := by
  cases op with
  | sum => rfl
  | min => simp [combine, join, Binary64.min, Binary64.lt, ha, hc]
  | max => simp [combine, join, Binary64.max, Binary64.lt, ha, hc]

theorem foldl_combine_eq_join (op : Aggregate) (ha : a.isNaN = false)
    (hcs : ∀ c ∈ cs, c.isNaN = false) : cs.foldl op.combine a = cs.foldl op.join a := by
  induction cs generalizing a with
  | nil => rfl
  | cons c r ih =>
    have hc : c.isNaN = false := hcs c List.mem_cons_self
    rw [List.foldl_cons, List.foldl_cons,
      ih (op.isNaN_combine ha hc) fun x hx => hcs x (List.mem_cons_of_mem _ hx),
      op.combine_eq_join ha hc]

end Aggregate

namespace Gathered

/-- What is gathered for a member, with one more contribution. -/
def add (op : Aggregate) : Option Gathered → Score → Gathered
  | none, c => (c, 1)
  | some g, c => (op.combine g.1 c, g.2 + 1)

theorem get?_gather (op : Aggregate) (acc : ByteMap Gathered) (m : Bytes) (c : Score) (m' : Bytes) :
    (gather op acc m c).get? m' = if m = m' then some (add op (acc.get? m) c) else acc.get? m' := by
  rw [gather]
  cases hm : acc.get? m with
  | none => exact ByteMap.get?_insert acc m m' (c, 1)
  | some g => exact ByteMap.get?_insert acc m m' (op.combine g.1 c, g.2 + 1)

/-! ### One source -/

theorem get?_gather_entries_of_not_mem (w : Score) {l : List (Bytes × Score)}
    (h : ∀ e ∈ l, e.1 ≠ m) (acc : ByteMap Gathered) :
    (l.foldl (fun acc e => gather op acc e.1 (contribution w e.2)) acc).get? m = acc.get? m := by
  induction l generalizing acc with
  | nil => rfl
  | cons e r ih =>
    have he : e.1 ≠ m := h e List.mem_cons_self
    rw [List.foldl_cons, ih fun x hx => h x (List.mem_cons_of_mem _ hx), get?_gather, if_neg he]

/-- The one entry of the member is all that matters to it. -/
theorem get?_gather_entries_of_mem (w : Score) {l : List (Bytes × Score)} {s : Score}
    (hl : l.Pairwise fun a b => a.1 < b.1) (h : (m, s) ∈ l) (acc : ByteMap Gathered) :
    (l.foldl (fun acc e => gather op acc e.1 (contribution w e.2)) acc).get? m =
      some (add op (acc.get? m) (contribution w s)) := by
  induction l generalizing acc with
  | nil => exact absurd h List.not_mem_nil
  | cons e r ih =>
    obtain ⟨he, hr⟩ := List.pairwise_cons.1 hl
    rw [List.foldl_cons]
    rcases List.mem_cons.1 h with rfl | hmem
    · -- the member was just added to, and does not come again
      have hbehind : ∀ x ∈ r, x.1 ≠ m := fun x hx heq => List.lt_irrefl m (heq ▸ he x hx)
      rw [get?_gather_entries_of_not_mem w hbehind, get?_gather, if_pos rfl]
    · have hne : e.1 ≠ m := fun heq => List.lt_irrefl m (heq ▸ he (m, s) hmem)
      rw [ih hr hmem, get?_gather, if_neg hne]

/-- One more source adds its contribution to a member that it holds, and nothing to any other. -/
theorem get?_gatherSource (op : Aggregate) (acc : ByteMap Gathered)
    (source : Score × ByteMap Score) (m : Bytes) :
    (gatherSource op acc source).get? m =
      ((source.2.get? m).map (weighted source.1)).elim (acc.get? m)
        fun c => some (add op (acc.get? m) c) := by
  rw [gatherSource]
  cases hm : source.2.get? m with
  | none =>
    refine get?_gather_entries_of_not_mem source.1 (fun e he heq => ?_) acc
    have hget : source.2.get? e.1 = some e.2 := ByteMap.get?_eq_some_iff.2 he
    rw [heq, hm] at hget
    cases hget
  | some s =>
    exact get?_gather_entries_of_mem source.1 source.2.ascending (ByteMap.get?_eq_some_iff.1 hm) acc

/-! ### All sources -/

/-- The sources add what they contribute, one after the other. -/
theorem get?_gatherSources (op : Aggregate) (sources : List (Score × ByteMap Score))
    (acc : ByteMap Gathered) (m : Bytes) :
    (sources.foldl (gatherSource op) acc).get? m =
      (contributions sources m).foldl (fun g c => some (add op g c)) (acc.get? m) := by
  induction sources generalizing acc with
  | nil => rfl
  | cons source r ih =>
    rw [List.foldl_cons, ih, get?_gatherSource, contributions, contributions, List.filterMap_cons]
    cases (source.2.get? m).map (weighted source.1) <;> rfl

theorem foldl_add_some (cs : List Score) (total : Score) (n : Nat) :
    cs.foldl (fun g c => some (add op g c)) (some (total, n)) =
      some (cs.foldl op.combine total, n + cs.length) := by
  induction cs generalizing total n with
  | nil => rfl
  | cons c r ih =>
    rw [List.foldl_cons, List.foldl_cons, add, ih, List.length_cons, Nat.add_assoc, Nat.add_comm 1]

/-- The combined numbers, and how many they are. -/
theorem foldl_add_none (hcs : ∀ c ∈ cs, c.isNaN = false) :
    cs.foldl (fun g c => some (add op g c)) none = (op.total? cs).map fun s => (s, cs.length) := by
  cases cs with
  | nil => rfl
  | cons c r =>
    have htotal : r.foldl op.combine c = r.foldl op.join c :=
      op.foldl_combine_eq_join (hcs c List.mem_cons_self) fun x hx =>
        hcs x (List.mem_cons_of_mem _ hx)
    rw [List.foldl_cons, add, foldl_add_some, htotal, Aggregate.total?, Option.map_some,
      List.length_cons, Nat.add_comm]

end Gathered

/-! ### The combination -/

/-- **The combination under a name**: the contributions combined, if there is one, and for an
intersection one from every source. -/
theorem get?_aggregate (mode : StoreMode) (op : Aggregate)
    (sources : List (Score × ByteMap Score)) (m : Bytes) :
    (aggregate mode op sources).get? m =
      if mode = .union ∨ (contributions sources m).length = sources.length then
        op.total? (contributions sources m)
      else none := by
  rw [aggregate, ByteMap.get?_mapValues, ByteMap.get?_filter, Gathered.get?_gatherSources,
    ByteMap.get?_empty, Gathered.foldl_add_none fun _ => isNaN_of_mem_contributions]
  cases op.total? (contributions sources m) with
  | none => simp
  | some s =>
    rw [Option.map_some, Option.filter_some]
    by_cases hkeep : mode = .union ∨ (contributions sources m).length = sources.length
    · rw [if_pos hkeep, if_pos (by simpa using hkeep), Option.map_some]
    · rw [if_neg hkeep, if_neg (by simpa using hkeep), Option.map_none]

theorem Aggregate.total?_eq_none_iff {cs : List Score} : op.total? cs = none ↔ cs = [] := by
  cases cs <;> simp [total?]

/-- Nothing is contributed to a member that no source holds. -/
theorem contributions_eq_nil_iff :
    contributions sources m = [] ↔ ∀ source ∈ sources, source.2.get? m = none := by
  simp [contributions]

/-- As many contributions as sources: every source holds the member. -/
theorem length_contributions_eq_iff :
    (contributions sources m).length = sources.length ↔
      ∀ source ∈ sources, source.2.contains m = true := by
  rw [contributions, List.length_filterMap_eq_countP, List.countP_eq_length]
  simp [ByteMap.contains]

/-- The contributions to a member depend on what the sources hold under its name alone. -/
theorem contributions_congr
    (h : List.Forall₂ (fun a b => a.1 = b.1 ∧ a.2.get? m = b.2.get? m) sources sources') :
    contributions sources m = contributions sources' m := by
  induction h with
  | nil => rfl
  | cons hhead _ ih =>
    obtain ⟨hweight, hscore⟩ := hhead
    rw [contributions, contributions] at ih
    rw [contributions, contributions, List.filterMap_cons, List.filterMap_cons, ih, hweight, hscore]

/-- **What a combination is, member by member.**  A union has the members of any source, an
intersection those of every source.  The score of a member is what the sources that hold it
contribute to it, each its score with the weight of the source, combined from the first one on; the
others add nothing, not even a zero.  It is a number, and does not depend on what the sources hold
under other names. -/
theorem aggregate_memberwise (op : Aggregate) (sources : List (Score × ByteMap Score)) (m : Bytes) :
    ((aggregate .union op sources).contains m = true ↔
        ∃ source ∈ sources, source.2.contains m = true) ∧
      ((aggregate .intersection op sources).contains m = true ↔
        sources ≠ [] ∧ ∀ source ∈ sources, source.2.contains m = true) ∧
      (∀ mode s, (aggregate mode op sources).get? m = some s →
        op.total? (contributions sources m) = some s ∧ s.isNaN = false) ∧
      ∀ mode sources',
        List.Forall₂ (fun a b => a.1 = b.1 ∧ a.2.get? m = b.2.get? m) sources sources' →
          (aggregate mode op sources).get? m = (aggregate mode op sources').get? m := by
  have hcontains : ∀ {β : Type} (map : ByteMap β), map.contains m = true ↔ map.get? m ≠ none :=
    fun map => Option.isSome_iff_ne_none
  have hempty : contributions sources m ≠ [] ↔ ∃ source ∈ sources, source.2.contains m = true := by
    simp only [ne_eq, contributions_eq_nil_iff, hcontains, Classical.not_forall, exists_prop]
  refine ⟨?_, ?_, fun mode s h => ⟨?_, isNaN_aggregate h⟩, fun mode sources' h => ?_⟩
  · rw [hcontains, get?_aggregate, if_pos (.inl rfl), ← hempty, Ne, Aggregate.total?_eq_none_iff]
  · rw [hcontains, get?_aggregate, ← length_contributions_eq_iff]
    by_cases hall : (contributions sources m).length = sources.length
    · -- there are as many contributions as sources, so one if and only if there is a source
      rw [if_pos (.inr hall), Ne, Aggregate.total?_eq_none_iff, ← List.length_eq_zero_iff, hall,
        List.length_eq_zero_iff]
      exact (and_iff_left rfl).symm
    · rw [if_neg (by simpa using hall)]
      exact iff_of_false (absurd rfl) fun h => hall h.2
  · rw [get?_aggregate] at h
    split at h
    · exact h
    · cases h
  · rw [get?_aggregate, get?_aggregate, contributions_congr h, h.length_eq]

end KeyWalk
