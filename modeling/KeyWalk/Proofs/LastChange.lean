import KeyWalk.Proofs.EntryCount

/-!
The last change of a name.

A list of changes gives names new values or takes their values away, and a name may be listed more
than once.  `lastChange changes old name` is what the name has in the end: what the last of its
changes says, or what it had before if there is none.

* `lastChange_append`, `lastChange_of_not_mem`, `lastChange_of_mem`: more changes, and names
  without changes and with some,
* `Hash.get?_deleteAll`, `Hash.get?_setMany`, `SortedSet.score?_insertAll`,
  `SortedSet.score?_removeAll`: the runs over many names are lists of changes,
* `SortedSet.Ascending.eq_of_mem_iff`, `SortedSet.Indexed.eq_of_score?`: a ranking is determined by
  its entries, and a sorted set by its scores.
-/

namespace KeyWalk

section LastChange

variable {β : Type} {changes : List (Bytes × Option β)} {old old' : Option β} {name : Bytes}

/-- What a name has after the changes, if it had `old` before. -/
def lastChange (changes : List (Bytes × Option β)) (old : Option β) (name : Bytes) : Option β :=
  (changes.reverse.lookup name).getD old

@[simp] theorem lastChange_nil : lastChange [] old name = old := rfl

/-- Changes behind other changes start from what those leave. -/
theorem lastChange_append (more : List (Bytes × Option β)) :
    lastChange (changes ++ more) old name = lastChange more (lastChange changes old name) name := by
  rw [lastChange, List.reverse_append, List.lookup_append, Option.getD_or, ← lastChange,
    ← lastChange]

theorem lastChange_singleton (change : Bytes × Option β) :
    lastChange [change] old name = if change.1 = name then change.2 else old := by
  rw [lastChange, List.reverse_singleton, List.lookup_cons]
  by_cases hname : change.1 = name
  · simp [hname]
  · have hbeq : (name == change.1) = false := beq_false_of_ne (Ne.symm hname)
    rw [if_neg hname, hbeq]
    rfl

theorem lastChange_cons (change : Bytes × Option β) :
    lastChange (change :: changes) old name =
      lastChange changes (if change.1 = name then change.2 else old) name := by
  rw [← List.singleton_append, lastChange_append, lastChange_singleton]

theorem lastChange_of_not_mem (h : name ∉ changes.map (·.1)) :
    lastChange changes old name = old := by
  induction changes generalizing old with
  | nil => rfl
  | cons change r ih =>
    obtain ⟨hne, hr⟩ := List.ne_and_not_mem_of_not_mem_cons h
    rw [lastChange_cons, if_neg (Ne.symm hne), ih hr]

/-- What a name had before does not matter if there is a change of it. -/
theorem lastChange_of_mem (h : name ∈ changes.map (·.1)) :
    lastChange changes old name = lastChange changes old' name := by
  induction changes generalizing old old' with
  | nil => exact absurd h List.not_mem_nil
  | cons change r ih =>
    rw [lastChange_cons, lastChange_cons]
    by_cases hname : change.1 = name
    · rw [if_pos hname, if_pos hname]
    · rcases List.mem_cons.1 h with hhead | hrest
      · exact absurd hhead.symm hname
      · exact ih hrest

end LastChange

/-! ### Runs over many names -/

namespace Hash

theorem get?_deleteAll (h : Hash) (fields : List Bytes) (name : Bytes) :
    (h.deleteAll fields).2.get? name =
      lastChange (fields.map fun f => (f, none)) (h.get? name) name := by
  induction fields generalizing h with
  | nil => rfl
  | cons f r ih =>
    show ((deleteAll (h.erase f) r).2).get? name = _
    rw [ih, List.map_cons, lastChange_cons, ByteMap.get?_erase]

theorem get?_setMany (h : Hash) (pairs : List (Bytes × Bytes)) (name : Bytes) :
    (pairs.foldl (fun h p => h.insert p.1 p.2) h).get? name =
      lastChange (pairs.map fun p => (p.1, some p.2)) (h.get? name) name := by
  induction pairs generalizing h with
  | nil => rfl
  | cons p r ih => rw [List.foldl_cons, ih, List.map_cons, lastChange_cons, ByteMap.get?_insert]

end Hash

namespace SortedSet

variable {z z' : SortedSet} {l l' : List (Bytes × Score)}

theorem score?_insertAll (z : SortedSet) (entries : List (Score × Bytes)) (name : Bytes) :
    (z.insertAll entries).2.score? name =
      lastChange (entries.map fun e => (e.2, some e.1)) (z.score? name) name := by
  induction entries generalizing z with
  | nil => rfl
  | cons e r ih =>
    show (((z.insert e.2 e.1).2.insertAll r).2).score? name = _
    rw [ih, List.map_cons, lastChange_cons, score?_insert]

theorem score?_removeAll (z : SortedSet) (members : List Bytes) (name : Bytes) :
    (z.removeAll members).2.score? name =
      lastChange (members.map fun m => (m, none)) (z.score? name) name := by
  induction members generalizing z with
  | nil => rfl
  | cons m r ih =>
    show (((z.remove m).2.removeAll r).2).score? name = _
    rw [ih, List.map_cons, lastChange_cons, score?_remove]

/-! ### Rankings and their entries -/

/-- A list in strictly ascending order of ranks is determined by what is in it. -/
theorem Ascending.eq_of_mem_iff (hl : Ascending l) (hl' : Ascending l')
    (h : ∀ e, e ∈ l ↔ e ∈ l') : l = l' := by
  have hperm : l.Perm l' := (List.perm_ext_iff_of_nodup hl.nodup hl'.nodup).2 h
  refine hperm.eq_of_pairwise (fun a b _ _ hab hba => ?_) hl hl'
  exact absurd rfl (ne_of_precedes (precedes_trans hab hba))

/-- **A sorted set is determined by its scores.** -/
theorem Indexed.eq_of_score? (h : z.Indexed) (h' : z'.Indexed)
    (hscore : ∀ m, z.score? m = z'.score? m) : z = z' := by
  have hscores : z.scores = z'.scores := ByteMap.ext_get? hscore
  have hranking : z.ranking = z'.ranking := h.ascending.eq_of_mem_iff h'.ascending fun e => by
    rw [h.mem_iff, h'.mem_iff, hscores]
  cases z
  cases z'
  cases hscores
  cases hranking
  rfl

end SortedSet

end KeyWalk
