import KeyWalk.Proofs.ByteMap
import KeyWalk.SortedSet

/-!
The two sides of a sorted set agree.

A set keeps a map from members to scores and a ranking.  `Indexed z` says that the ranking lists
the members of the map, each exactly once and with the very score that the map holds for it, in
strictly ascending order of ranks.  Every operation keeps it:

* `Indexed.insert`, `Indexed.remove`, and their runs `Indexed.insertAll`, `Indexed.removeAll`,
* `indexed_ofScores`: a set that is built from its scores.

`Numeric z` says that no score is `nan`; it is kept as long as no `nan` is inserted.

Design notes.  The ranking is searched by order, not by equality: `-0` and `0` have the same
place, so an entry is found by its rank even where its score was written the other way.
-/

namespace KeyWalk

namespace SortedSet

variable {a b c e : Bytes × Binary64} {l : List (Bytes × Binary64)} {z : SortedSet}

/-! ### The order of ranks -/

theorem precedes_iff :
    precedes a b = true ↔ a.2.key < b.2.key ∨ a.2.key = b.2.key ∧ a.1 < b.1 := by
  simp only [precedes, Bool.or_eq_true, Bool.and_eq_true, decide_eq_true_eq, beq_iff_eq]

theorem sameRank_iff : sameRank a b = true ↔ a.2.key = b.2.key ∧ a.1 = b.1 := by
  simp only [sameRank, Bool.and_eq_true, beq_iff_eq]

theorem precedes_trans (hab : precedes a b = true) (hbc : precedes b c = true) :
    precedes a c = true := by
  rw [precedes_iff] at *
  rcases hab with hab | ⟨hab, hab'⟩
  · rcases hbc with hbc | ⟨hbc, -⟩ <;> exact .inl (by omega)
  · rcases hbc with hbc | ⟨hbc, hbc'⟩
    · exact .inl (by omega)
    · exact .inr ⟨hab.trans hbc, List.lt_trans hab' hbc'⟩

theorem ne_of_precedes (h : precedes a b = true) : a ≠ b := by
  rintro rfl
  rcases precedes_iff.1 h with h | ⟨-, h⟩
  · exact absurd h (Int.lt_irrefl _)
  · exact absurd h (List.lt_irrefl _)

/-- Of two entries with different members one is before the other. -/
theorem precedes_or_precedes (h : a.1 ≠ b.1) : precedes a b = true ∨ precedes b a = true := by
  rw [precedes_iff, precedes_iff]
  rcases Int.lt_trichotomy a.2.key b.2.key with hk | hk | hk
  · exact .inl (.inl hk)
  · rcases Bytes.lt_trichotomy a.1 b.1 with hm | hm | hm
    · exact .inl (.inr ⟨hk, hm⟩)
    · exact absurd hm h
    · exact .inr (.inr ⟨hk.symm, hm⟩)
  · exact .inr (.inl hk)

/-- A list in strictly ascending order of ranks. -/
def Ascending (l : List (Bytes × Binary64)) : Prop := l.Pairwise fun a b => precedes a b = true

theorem Ascending.nodup (h : Ascending l) : l.Nodup := h.imp ne_of_precedes

/-! ### Rankings -/

theorem mem_insertRanked (h : a ∈ insertRanked e l) : a = e ∨ a ∈ l := by
  induction l with
  | nil => exact .inl (List.mem_singleton.1 h)
  | cons b r ih =>
    rw [insertRanked] at h
    split at h
    · exact List.mem_cons.1 h
    · split at h
      · rcases List.mem_cons.1 h with h | h
        · exact .inr (h ▸ List.mem_cons_self)
        · exact (ih h).imp id (List.mem_cons_of_mem _)
      · exact .inr h

/-- A new member is put in its place and nothing else changes. -/
theorem mem_insertRanked_iff (h : ∀ b ∈ l, b.1 ≠ e.1) : a ∈ insertRanked e l ↔ a = e ∨ a ∈ l := by
  refine ⟨mem_insertRanked, ?_⟩
  induction l with
  | nil => exact fun ha => ha.elim (· ▸ List.mem_cons_self) fun ha => absurd ha List.not_mem_nil
  | cons b r ih =>
    have hr : ∀ x ∈ r, x.1 ≠ e.1 := fun x hx => h x (List.mem_cons_of_mem _ hx)
    intro ha
    rw [insertRanked]
    split
    · exact List.mem_cons.2 ha
    · -- the members differ, so `b` is before `e` and the place is further on
      rename_i heb
      rw [if_pos ((precedes_or_precedes (h b List.mem_cons_self)).resolve_right heb)]
      rcases ha with ha | ha
      · exact List.mem_cons_of_mem _ (ih hr (.inl ha))
      · rcases List.mem_cons.1 ha with ha | ha
        · exact ha ▸ List.mem_cons_self
        · exact List.mem_cons_of_mem _ (ih hr (.inr ha))

theorem Ascending.insertRanked (e : Bytes × Binary64) (h : Ascending l) :
    Ascending (insertRanked e l) := by
  induction l with
  | nil => exact List.pairwise_singleton _ e
  | cons b r ih =>
    obtain ⟨hb, hr⟩ := List.pairwise_cons.1 h
    rw [SortedSet.insertRanked]
    split
    · rename_i heb
      refine List.pairwise_cons.2 ⟨fun x hx => ?_, h⟩
      rcases List.mem_cons.1 hx with hx | hx
      · exact hx ▸ heb
      · exact precedes_trans heb (hb x hx)
    · split
      · rename_i hbe
        refine List.pairwise_cons.2 ⟨fun x hx => ?_, ih hr⟩
        rcases mem_insertRanked hx with hx | hx
        · exact hx ▸ hbe
        · exact hb x hx
      · exact h

theorem mem_removeRanked_iff :
    a ∈ removeRanked e l ↔ a ∈ l ∧ ¬(a.2.key = e.2.key ∧ a.1 = e.1) := by
  rw [removeRanked, List.mem_filter, Bool.not_eq_true', ← Bool.not_eq_true, sameRank_iff]

/-! ### Agreement -/

/-- The ranking lists every member of the map exactly once, with the very score that the map holds
for it, and nothing else. -/
structure Indexed (z : SortedSet) : Prop where
  ascending : Ascending z.ranking
  mem_iff : ∀ m s, (m, s) ∈ z.ranking ↔ z.scores.get? m = some s

/-- No score is `nan`. -/
def Numeric (z : SortedSet) : Prop := ∀ m s, z.scores.get? m = some s → s.isNaN = false

theorem indexed_empty : Indexed empty := ⟨.nil, fun m s => by simp [empty]⟩

theorem numeric_empty : Numeric empty := fun m s h => by simp [empty] at h

namespace Indexed

/-- Exactly one entry for each member, none for anything else. -/
theorem count_ranking (h : Indexed z) (m : Bytes) (s : Binary64) :
    z.ranking.count (m, s) = if z.score? m = some s then 1 else 0 := by
  rw [h.ascending.nodup.count]
  by_cases hs : z.score? m = some s
  · rw [if_pos hs, if_pos ((h.mem_iff m s).2 hs)]
  · rw [if_neg hs, if_neg fun hm => hs ((h.mem_iff m s).1 hm)]

/-- Looking for the rank of a member finds exactly the entry of the member. -/
theorem mem_removeRanked (h : Indexed z) {m : Bytes} {old : Binary64}
    (hold : z.scores.get? m = some old) :
    a ∈ removeRanked (m, old) z.ranking ↔ a ∈ z.ranking ∧ a.1 ≠ m := by
  rw [mem_removeRanked_iff]
  refine and_congr_right fun ha => not_congr ⟨And.right, fun hm => ⟨?_, hm⟩⟩
  have hget : z.scores.get? m = some a.2 := hm ▸ (h.mem_iff a.1 a.2).1 ha
  rw [Option.some.inj (hget.symm.trans hold)]

/-- One step of a run: a member is put at a score, over whatever it had. -/
theorem insert (h : Indexed z) (m : Bytes) (s : Binary64) : Indexed (z.insert m s).2 := by
  -- `r` is the ranking without the member, whether it had one or not
  have key : ∀ r, Ascending r → (∀ a, a ∈ r ↔ a ∈ z.ranking ∧ a.1 ≠ m) →
      Indexed ⟨z.scores.insert m s, insertRanked (m, s) r⟩ := by
    intro r hr hmem
    refine ⟨hr.insertRanked _, fun m' s' => ?_⟩
    show (m', s') ∈ insertRanked (m, s) r ↔ (z.scores.insert m s).get? m' = some s'
    rw [mem_insertRanked_iff fun b hb => ((hmem b).1 hb).2, hmem, h.mem_iff, ByteMap.get?_insert,
      Prod.mk.injEq]
    by_cases hm : m = m'
    · simp [hm, eq_comm]
    · simp [hm, Ne.symm hm]
  cases hs : z.score? m with
  | some old =>
    have hz : (z.insert m s).2 =
        ⟨z.scores.insert m s, insertRanked (m, s) (removeRanked (m, old) z.ranking)⟩ := by
      simp only [SortedSet.insert, hs]
    rw [hz]
    exact key _ (h.ascending.filter _) fun a => h.mem_removeRanked hs
  | none =>
    have hz : (z.insert m s).2 = ⟨z.scores.insert m s, insertRanked (m, s) z.ranking⟩ := by
      simp only [SortedSet.insert, hs]
    rw [hz]
    refine key _ h.ascending fun a => ⟨fun ha => ⟨ha, fun hm => ?_⟩, And.left⟩
    rw [score?, ← hm, (h.mem_iff a.1 a.2).1 ha] at hs
    exact absurd hs (by simp)

theorem remove (h : Indexed z) (m : Bytes) : Indexed (z.remove m).2 := by
  cases hs : z.score? m with
  | some old =>
    have hz : (z.remove m).2 = ⟨z.scores.erase m, removeRanked (m, old) z.ranking⟩ := by
      simp only [SortedSet.remove, hs]
    rw [hz]
    refine ⟨h.ascending.filter _, fun m' s' => ?_⟩
    show (m', s') ∈ removeRanked (m, old) z.ranking ↔ (z.scores.erase m).get? m' = some s'
    rw [h.mem_removeRanked hs, h.mem_iff, ByteMap.get?_erase]
    by_cases hm : m = m'
    · simp [hm]
    · simp [hm, Ne.symm hm]
  | none =>
    have hz : (z.remove m).2 = z := by simp only [SortedSet.remove, hs]
    rwa [hz]

end Indexed

/-! ### Runs of operations -/

/-- A property of sets that each insertion keeps is kept by all of them. -/
theorem insertAll_induction {P : SortedSet → Prop} {entries : List (Binary64 × Bytes)}
    (step : ∀ z, ∀ e ∈ entries, P z → P (z.insert e.2 e.1).2) (h : P z) :
    P (z.insertAll entries).2 := by
  induction entries generalizing z with
  | nil => exact h
  | cons e r ih =>
    exact ih (fun z e' he' => step z e' (List.mem_cons_of_mem _ he'))
      (step z e List.mem_cons_self h)

/-- A property of sets that each removal keeps is kept by all of them. -/
theorem removeAll_induction {P : SortedSet → Prop} {members : List Bytes}
    (step : ∀ z m, P z → P (z.remove m).2) (h : P z) : P (z.removeAll members).2 := by
  induction members generalizing z with
  | nil => exact h
  | cons m r ih => exact ih (step z m h)

theorem Indexed.insertAll (h : Indexed z) (entries : List (Binary64 × Bytes)) :
    Indexed (z.insertAll entries).2 :=
  insertAll_induction (fun _ e _ hz => hz.insert e.2 e.1) h

theorem Indexed.removeAll (h : Indexed z) (members : List Bytes) :
    Indexed (z.removeAll members).2 :=
  removeAll_induction (fun _ m hz => hz.remove m) h

/-! ### What each operation does to a score -/

theorem score?_insert (z : SortedSet) (m : Bytes) (s : Binary64) (m' : Bytes) :
    (z.insert m s).2.score? m' = if m = m' then some s else z.score? m' := by
  have hscores : (z.insert m s).2.scores = z.scores.insert m s := by
    rw [insert]
    split <;> rfl
  rw [score?, hscores, ByteMap.get?_insert]
  rfl

theorem score?_remove (z : SortedSet) (m m' : Bytes) :
    (z.remove m).2.score? m' = if m = m' then none else z.score? m' := by
  rw [remove]
  split
  · rw [score?, ByteMap.get?_erase]
    rfl
  · rename_i hs
    split
    · rename_i hm
      rw [← hm, hs]
    · rfl

theorem Numeric.insert {m : Bytes} {s : Binary64} (h : Numeric z) (hs : s.isNaN = false) :
    Numeric (z.insert m s).2 := by
  intro m' s' hget
  rw [← score?, score?_insert] at hget
  split at hget
  · exact Option.some.inj hget ▸ hs
  · exact h m' s' hget

theorem Numeric.remove (h : Numeric z) (m : Bytes) : Numeric (z.remove m).2 := by
  intro m' s' hget
  rw [← score?, score?_remove] at hget
  split at hget
  · exact absurd hget (by simp)
  · exact h m' s' hget

theorem Numeric.insertAll (h : Numeric z) {entries : List (Binary64 × Bytes)}
    (hs : ∀ e ∈ entries, e.1.isNaN = false) : Numeric (z.insertAll entries).2 :=
  insertAll_induction (fun _ e he hz => hz.insert (hs e he)) h

theorem Numeric.removeAll (h : Numeric z) (members : List Bytes) :
    Numeric (z.removeAll members).2 :=
  removeAll_induction (fun _ m hz => hz.remove m) h

/-! ### A set from its scores -/

theorem foldl_insertRanked {entries : List (Bytes × Binary64)} {r : List (Bytes × Binary64)}
    (hr : Ascending r) (hentries : entries.Pairwise fun a b => a.1 < b.1)
    (hnew : ∀ a ∈ entries, ∀ b ∈ r, b.1 ≠ a.1) :
    Ascending (entries.foldl (fun r e => insertRanked e r) r) ∧
      ∀ a, a ∈ entries.foldl (fun r e => insertRanked e r) r ↔ a ∈ r ∨ a ∈ entries := by
  induction entries generalizing r with
  | nil => exact ⟨hr, fun a => by simp⟩
  | cons e es ih =>
    obtain ⟨he, hes⟩ := List.pairwise_cons.1 hentries
    have hmem : ∀ {a}, a ∈ insertRanked e r ↔ a = e ∨ a ∈ r :=
      mem_insertRanked_iff (hnew e List.mem_cons_self)
    have hnew' : ∀ a ∈ es, ∀ b ∈ insertRanked e r, b.1 ≠ a.1 := by
      intro a ha b hb
      rcases hmem.1 hb with hb | hb
      · -- the members to come are all behind the one just put in
        exact hb ▸ fun h => List.lt_irrefl _ (h ▸ he a ha : a.1 < a.1)
      · exact hnew a (List.mem_cons_of_mem _ ha) b hb
    obtain ⟨hasc, hall⟩ := ih (hr.insertRanked e) hes hnew'
    refine ⟨hasc, fun a => ?_⟩
    rw [List.foldl_cons, hall, hmem, List.mem_cons]
    exact ⟨fun h => h.elim (·.elim (.inr ∘ .inl) .inl) (.inr ∘ .inr),
      fun h => h.elim (.inl ∘ .inr) (·.elim (.inl ∘ .inl) .inr)⟩

theorem indexed_ofScores (scores : ByteMap Binary64) : Indexed (ofScores scores) := by
  obtain ⟨hasc, hall⟩ := foldl_insertRanked (r := []) .nil scores.ascending (by simp)
  refine ⟨hasc, fun m s => ?_⟩
  show (m, s) ∈ scores.entries.foldl (fun r e => insertRanked e r) [] ↔ scores.get? m = some s
  rw [hall, ByteMap.get?_eq_some_iff]
  simp

end SortedSet

end KeyWalk
