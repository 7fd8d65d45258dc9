import KeyWalk.Proofs.SelectionReply

/-!
What a removal takes out of a sorted set.

A selection is counted, read and removed by three commands.  `Store.TakesOut` says that they speak
of the same members, and what the key shows afterwards:

* `SortedSet.Indexed.ranking_remove`, `SortedSet.Indexed.ranking_removeAll`: a removal takes the
  entries of its members out of the ranking and leaves the others where they were,
* `Selection.pick_rest`: behind a removal by score or by name nothing is left to select,
* `Store.exists_read_putBack`, `Store.contains_putBack_iff`: a sorted set that was put back is read
  again, and an empty one is not kept,
* `Store.removal_of_reachable`: the three commands, in every store that can come about.

Design notes.  A removal goes through its members one by one, and each of them is looked up in both
indexes.  That a member is found in the ranking under the score of the map is what keeps the other
entries in place.
-/

namespace KeyWalk

/-! ### The ranking -/

namespace SortedSet

variable {z : SortedSet}

/-- Removing a member takes its entry out of the ranking. -/
theorem Indexed.ranking_remove (h : z.Indexed) (m : Bytes) :
    (z.remove m).2.ranking = z.ranking.filter fun e => e.1 ≠ m := by
  cases hs : z.score? m with
  | some old =>
    have hz : (z.remove m).2.ranking = removeRanked (m, old) z.ranking := by
      simp only [SortedSet.remove, hs]
    rw [hz, removeRanked]
    refine List.filter_congr fun e he => ?_
    -- the entry with the rank of the member is the entry of the member
    have hmem : (!sameRank e (m, old)) = true ↔ e.1 ≠ m := by
      have hremoved := h.mem_removeRanked hs (a := e)
      rw [removeRanked, List.mem_filter] at hremoved
      simpa [he] using hremoved
    rw [Bool.eq_iff_iff, hmem, decide_eq_true_iff]
  | none =>
    have hz : (z.remove m).2 = z := by simp only [SortedSet.remove, hs]
    rw [hz, eq_comm, List.filter_eq_self]
    intro e he
    refine decide_eq_true fun heq => ?_
    have hscore : z.score? m = some e.2 := heq ▸ (h.mem_iff e.1 e.2).1 he
    rw [hs] at hscore
    cases hscore

/-- Removing members takes their entries out of the ranking, and no others. -/
theorem Indexed.ranking_removeAll (h : z.Indexed) (members : List Bytes) :
    (z.removeAll members).2.ranking = z.ranking.filter fun e => e.1 ∉ members := by
  induction members generalizing z with
  | nil => exact (List.filter_eq_self.2 fun e _ => decide_eq_true List.not_mem_nil).symm
  | cons m r ih =>
    show ((z.remove m).2.removeAll r).2.ranking = _
    rw [ih (h.remove m), h.ranking_remove, List.filter_filter]
    refine List.filter_congr fun e _ => ?_
    rw [← Bool.decide_and, decide_eq_decide, List.mem_cons, not_or]
    exact And.comm

/-- A set without members has an empty ranking. -/
theorem Indexed.ranking_eq_nil_iff (h : z.Indexed) : z.ranking = [] ↔ z.isEmpty = true := by
  rw [← List.length_eq_zero_iff, h.length_ranking, size, ByteMap.size, List.length_eq_zero_iff,
    ← List.isEmpty_iff]
  rfl

end SortedSet

/-! ### What is left -/

namespace Selection

variable {selection : Selection}

/-- Of the entries that were not selected by score or by name, none is selected. -/
theorem pick_rest (hselection : ∀ start stop, selection ≠ .rank start stop)
    (l : List (Bytes × Score)) :
    selection.pick (l.filter fun e => e.1 ∉ (selection.pick l).map (·.1)) = [] := by
  -- an entry that passes the test was among the selected ones
  have hnone : ∀ p : Bytes × Score → Bool,
      (l.filter fun e => e.1 ∉ (l.filter p).map (·.1)).filter p = [] := by
    intro p
    refine List.filter_eq_nil_iff.2 fun e he hp => ?_
    obtain ⟨hmem, hnot⟩ := List.mem_filter.1 he
    exact of_decide_eq_true hnot (List.mem_map_of_mem (List.mem_filter.2 ⟨hmem, hp⟩))
  cases selection with
  | rank start stop => exact absurd rfl (hselection start stop)
  | score range => exact hnone fun e => range.contains e.2
  | lex range => exact hnone fun e => range.contains e.1

end Selection

namespace Store

variable {s : Store} {z : SortedSet} {selection : Selection} {lower upper key : Bytes}

/-- What was put back is read again, an empty set as the empty one. -/
theorem exists_read_putBack (s : Store) (key : Bytes) (hz : z.Indexed) :
    ∃ z', (s.putBack .sortedSet key z).read .sortedSet key = .ok z' ∧ z'.ranking = z.ranking := by
  refine ⟨_, s.read_putBack .sortedSet key z, ?_⟩
  show (if z.isEmpty = true then SortedSet.empty else z).ranking = z.ranking
  by_cases hempty : z.isEmpty = true
  · rw [if_pos hempty, hz.ranking_eq_nil_iff.2 hempty]
    rfl
  · rw [if_neg hempty]

/-- A key is there just if what was put back under it has members. -/
theorem contains_putBack_iff (s : Store) (key : Bytes) (hz : z.Indexed) :
    (s.putBack .sortedSet key z).contains key = true ↔ z.ranking ≠ [] := by
  show ((s.putBack .sortedSet key z).get? key).isSome = true ↔ _
  rw [get?_putBack_self, ne_eq, hz.ranking_eq_nil_iff]
  show (if z.isEmpty = true then none else some (Collection.sortedSet z)).isSome = true ↔ _
  by_cases hempty : z.isEmpty = true
  · rw [if_pos hempty]
    exact iff_of_false Bool.false_ne_true (absurd hempty)
  · rw [if_neg hempty]
    exact iff_of_true rfl hempty

/-! ### The three commands -/

/-- **One selection is counted, read and removed alike.**  It has `picked` of the `entries` of the
key: they are counted and read, and the removal takes out these and no others. -/
structure TakesOut [GlobEngine] (s : Store) (selection : Selection) (key lower upper : Bytes)
    (entries picked : List (Bytes × Score)) : Prop where
  part : picked.Sublist entries
  counted : ∀ kind, selection.counting? = some kind →
    s.apply ⟨kind, [key, lower, upper]⟩ = (.count picked.length, s)
  read : s.apply ⟨selection.reading, [key, lower, upper]⟩ =
    (.array (picked.map fun e => .value e.1), s)
  /-- The store afterwards.  What was not read stays, in its order and with its scores, and the key
  is there as long as something stays.  By score or by name nothing more is selected. -/
  removed : ∃ s', s.apply ⟨selection.removing, [key, lower, upper]⟩ = (.count picked.length, s') ∧
    s'.ShowsSet key (entries.filter fun e => e.1 ∉ picked.map (·.1)) ∧
    (s'.contains key = true ↔ ∃ e ∈ entries, e.1 ∉ picked.map (·.1)) ∧
    ((∀ start stop, selection ≠ .rank start stop) →
      s'.apply ⟨selection.reading, [key, lower, upper]⟩ = (.array [], s'))

theorem takesOut_of_read [GlobEngine] (hs : s.Reachable) (hread : s.read .sortedSet key = .ok z)
    (h : selection.SpelledBy lower upper) :
    s.TakesOut selection key lower upper z.ranking (selection.pick z.ranking) := by
  have hindexed : z.Indexed := (hs.wellFormed.read hread).1
  have hremoving := apply_removing hread h
  refine ⟨selection.pick_sublist z.ranking, fun kind hkind => apply_counting hread h hkind,
    apply_reading hread h, _, hremoving, ?_⟩
  -- what the removal leaves, as a set and as it is read again
  obtain ⟨left, hleft⟩ : ∃ left,
      left = (z.removeAll ((selection.pick z.ascending).map (·.1))).2 := ⟨_, rfl⟩
  have hranking : left.ranking =
      z.ranking.filter fun e => e.1 ∉ (selection.pick z.ranking).map (·.1) :=
    hleft ▸ hindexed.ranking_removeAll _
  have hleftIndexed : left.Indexed := hleft ▸ hindexed.removeAll _
  rw [← hleft] at hremoving ⊢
  -- the removal is a step, so the store afterwards can come about as well
  have hreachable : (s.putBack .sortedSet key left).Reachable := by
    have hrun := reachable_run hs [.apply ⟨selection.removing, [key, lower, upper]⟩]
    rwa [run_cons, run_nil, step, hremoving] at hrun
  obtain ⟨left', hread', hranking'⟩ := s.exists_read_putBack key hleftIndexed
  refine ⟨?_, ?_, fun hselection => ?_⟩
  · rw [← hranking, ← hranking']
    exact showsSet_of_read hreachable hread'
  · rw [s.contains_putBack_iff key hleftIndexed, hranking, ne_eq, List.filter_eq_nil_iff]
    simp
  · rw [apply_reading hread' h, SortedSet.ascending, hranking', hranking,
      selection.pick_rest hselection]
    rfl

/-- **Counting, reading and removing a selection agree**, in every store that can come about and
however the selection is spelled.  A key that holds a hash is refused by all three commands. -/
theorem removal_of_reachable [GlobEngine] (hs : s.Reachable) (h : selection.SpelledBy lower upper)
    (key : Bytes) :
    (¬s.HoldsHash key → ∃ entries picked, s.ShowsSet key entries ∧
        s.TakesOut selection key lower upper entries picked) ∧
      (s.HoldsHash key → ∀ kind, kind = selection.reading ∨ kind = selection.removing ∨
          selection.counting? = some kind →
        s.apply ⟨kind, [key, lower, upper]⟩ = (.error (Fault.wrongType.message kind), s)) := by
  refine ⟨fun hkey => ?_, fun hkey kind hkind => ?_⟩
  · obtain ⟨z, hread, -⟩ := read_sortedSet hkey
    exact ⟨z.ranking, _, showsSet_of_read hs hread, takesOut_of_read hs hread h⟩
  · rcases hkind with rfl | rfl | hcounting
    · exact apply_about_hash hkey (Request.ofCommand_reading h (.inl rfl)) (.inl ⟨_, rfl⟩)
    · exact apply_about_hash hkey (Request.ofCommand_removing h) (.inr ⟨_, rfl⟩)
    · exact apply_about_hash hkey (Request.ofCommand_counting h hcounting) (.inl ⟨_, rfl⟩)

attribute [local instance] Glob.engine

/-- The members at zero, whatever its sign is, are counted, read and removed. -/
theorem removal_of_reachable_at_zero :
    let s := empty.run
      [.apply ⟨.zadd, ["z", "0", "b", "-0", "a", "inf", "c"].map Bytes.ofString⟩]
    let key := Bytes.ofString "z"
    let lower := Bytes.ofString "-0"
    let upper := Bytes.ofString "0"
    let selection := Selection.score ⟨.inclusive (.zero true), .inclusive (.zero false)⟩
    selection.SpelledBy lower upper ∧
      (s.apply ⟨.zremrangebyscore, [key, lower, upper]⟩).1 = .count 2 ∧
      ∃ entries picked, s.ShowsSet key entries ∧
        s.TakesOut selection key lower upper entries picked := by
  intro s key lower upper selection
  have hspelled : selection.SpelledBy lower upper := ⟨rfl, rfl⟩
  have hkey : ¬s.HoldsHash key := not_holdsHash_of_type rfl
  exact ⟨hspelled, rfl, (removal_of_reachable ⟨_, rfl⟩ hspelled key).1 hkey⟩

end Store

end KeyWalk
