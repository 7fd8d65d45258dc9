import KeyWalk.Proofs.Reachable

/-!
How many entries a change adds or removes.

One entry first: `ByteMap.size_insert`, `ByteMap.size_erase`, and for a sorted set
`SortedSet.size_insert`, `SortedSet.size_remove`, where the answer of the operation tells whether
the number changed.  Then runs of such steps:

* `Hash.size_deleteAll`, `SortedSet.size_insertAll`, `SortedSet.size_removeAll`: the count that a
  run answers is the change of the size, however often a name is listed,
* `Hash.exists_fresh_setMany`: a run of insertions adds the names that were absent, each once,
* `SortedSet.Indexed.size_removeSelected`: a selection has only members, and none of them twice.

`HashUpdate.Adjusts` and `SetUpdate.Adjusts` put them together: what each change does to the size,
and which reply goes with it.

Design notes.  Sizes are compared by sums, so that nothing is subtracted.
-/

namespace KeyWalk

/-! ### One entry -/

namespace ByteMap

variable {β : Type} {m n : ByteMap β} {k : Bytes}

theorem length_insertEntry (k : Bytes) (v : β) {l : List (Bytes × β)}
    (h : l.Pairwise fun a b => a.1 < b.1) :
    (insertEntry k v l).length = l.length + (l.find? (·.1 = k)).isNone.toNat := by
  induction l with
  | nil => rfl
  | cons e r ih =>
    obtain ⟨he, hr⟩ := List.pairwise_cons.1 h
    rw [insertEntry]
    by_cases hlt : e.1 < k
    · have hne : e.1 ≠ k := fun heq => List.lt_irrefl k (heq ▸ hlt)
      rw [if_pos hlt, List.length_cons, ih hr, List.length_cons,
        List.find?_cons_of_neg (by simpa using hne)]
      omega
    · rw [if_neg hlt]
      by_cases heq : e.1 = k
      · rw [if_pos heq, List.find?_cons_of_pos (by simpa using heq)]
        rfl
      · -- all keys of the rest are greater still
        have habsent : r.find? (·.1 = k) = none := by
          refine List.find?_eq_none.2 fun x hx hk => ?_
          have hxk : x.1 = k := by simpa using hk
          exact hlt (hxk ▸ he x hx)
        rw [if_neg heq, List.find?_cons_of_neg (by simpa using heq), habsent]
        rfl

theorem size_insert (m : ByteMap β) (k : Bytes) (v : β) :
    (m.insert k v).size = m.size + (m.get? k).isNone.toNat := by
  rw [get?, Option.isNone_map]
  exact length_insertEntry k v m.ascending

theorem size_erase (m : ByteMap β) (k : Bytes) :
    (m.erase k).size + (m.contains k).toNat = m.size := by
  rw [contains]
  cases hk : m.get? k with
  | none =>
    rw [erase_of_get?_eq_none hk]
    rfl
  | some v =>
    -- putting the entry back gives the map again
    have hback : (m.erase k).insert k v = m := by
      refine ext_get? fun k' => ?_
      rw [get?_insert, get?_erase]
      by_cases hk' : k = k'
      · rw [if_pos hk', ← hk', hk]
      · rw [if_neg hk', if_neg hk']
    have hsize := size_insert (m.erase k) k v
    rw [hback, get?_erase, if_pos rfl] at hsize
    exact hsize.symm

/-- Two maps that differ at most under one key. -/
theorem size_of_agree (h : ∀ k', k' ≠ k → m.get? k' = n.get? k') :
    m.size + (n.contains k).toNat = n.size + (m.contains k).toNat := by
  have herase : m.erase k = n.erase k := by
    refine ext_get? fun k' => ?_
    rw [get?_erase, get?_erase]
    split
    · rfl
    · rename_i hne
      exact h k' (Ne.symm hne)
  have hm := size_erase m k
  have hn := size_erase n k
  rw [herase] at hm
  omega

end ByteMap

namespace SortedSet

variable {z : SortedSet} {m : Bytes}

theorem scores_insert (z : SortedSet) (m : Bytes) (s : Score) :
    (z.insert m s).2.scores = z.scores.insert m s := by
  rw [insert]
  split <;> rfl

theorem insert_fst (z : SortedSet) (m : Bytes) (s : Score) :
    (z.insert m s).1 = (z.score? m).isNone := by
  rw [insert]
  split <;> rename_i h <;> rw [h] <;> rfl

theorem scores_remove (z : SortedSet) (m : Bytes) : (z.remove m).2.scores = z.scores.erase m := by
  rw [remove]
  split
  · rfl
  · rename_i h
    exact (ByteMap.erase_of_get?_eq_none h).symm

theorem remove_fst (z : SortedSet) (m : Bytes) : (z.remove m).1 = z.scores.contains m := by
  rw [remove, ByteMap.contains]
  split <;> rename_i h <;> rw [score?] at h <;> rw [h] <;> rfl

theorem size_insert (z : SortedSet) (m : Bytes) (s : Score) :
    (z.insert m s).2.size = z.size + (z.insert m s).1.toNat := by
  rw [size, scores_insert, insert_fst]
  exact ByteMap.size_insert z.scores m s

theorem size_remove (z : SortedSet) (m : Bytes) :
    (z.remove m).2.size + (z.remove m).1.toNat = z.size := by
  rw [size, scores_remove, remove_fst]
  exact ByteMap.size_erase z.scores m

end SortedSet

/-! ### Runs -/

/-- Fields that are removed are counted, each once. -/
theorem Hash.size_deleteAll (h : Hash) (fields : List Bytes) :
    (h.deleteAll fields).2.size + (h.deleteAll fields).1 = h.size := by
  induction fields generalizing h with
  | nil => rfl
  | cons f r ih =>
    have hrest := ih (h.erase f)
    have hfirst := ByteMap.size_erase h f
    rw [deleteAll]
    dsimp only
    omega

/-- Setting fields adds those that were absent, each once. -/
theorem Hash.exists_fresh_setMany (h : Hash) (pairs : List (Bytes × Bytes)) :
    ∃ fresh : List Bytes, fresh.Nodup ∧
      (∀ f, f ∈ fresh ↔ f ∈ pairs.map (·.1) ∧ h.get? f = none) ∧
      (pairs.foldl (fun h p => h.insert p.1 p.2) h).size = h.size + fresh.length := by
  -- the hash is general, as the pairs behind the first are set in what the first one leaves
  induction pairs generalizing h with
  | nil => exact ⟨[], List.nodup_nil, fun f => by simp, rfl⟩
  | cons p r ih =>
    obtain ⟨fresh, hnodup, hmem, hsize⟩ := ih (h.insert p.1 p.2)
    have hfirst := ByteMap.size_insert h p.1 p.2
    -- a field of the rest is new to the rest if it was absent and is not the one just set
    have hmem' : ∀ f, f ∈ fresh ↔ f ∈ r.map (·.1) ∧ p.1 ≠ f ∧ h.get? f = none := by
      intro f
      rw [hmem, ByteMap.get?_insert]
      by_cases hf : p.1 = f <;> simp [hf]
    cases hp : h.get? p.1 with
    | some v =>
      refine ⟨fresh, hnodup, fun f => ?_, ?_⟩
      · rw [hmem', List.map_cons, List.mem_cons]
        by_cases hf : p.1 = f
        · simp [← hf, hp]
        · simp [hf, Ne.symm hf]
      · rw [List.foldl_cons, hsize, hfirst, hp]
        rfl
    | none =>
      refine ⟨p.1 :: fresh, List.nodup_cons.2 ⟨fun h => ((hmem' _).1 h).2.1 rfl, hnodup⟩,
        fun f => ?_, ?_⟩
      · rw [List.mem_cons, hmem', List.map_cons, List.mem_cons]
        by_cases hf : p.1 = f
        · simp [← hf, hp]
        · simp [hf, Ne.symm hf]
      · rw [List.foldl_cons, hsize, hfirst, hp, List.length_cons]
        show h.size + 1 + fresh.length = _
        omega

theorem Selection.pick_sublist (selection : Selection) (l : List (Bytes × Score)) :
    (selection.pick l).Sublist l := by
  cases selection with
  | rank start stop =>
    rw [Selection.pick]
    split
    · exact List.nil_sublist l
    · exact (List.take_sublist _ _).trans (List.drop_sublist _ _)
  | score range | lex range => exact List.filter_sublist

namespace SortedSet

theorem size_insertAll (z : SortedSet) (entries : List (Score × Bytes)) :
    (z.insertAll entries).2.size = z.size + (z.insertAll entries).1 := by
  induction entries generalizing z with
  | nil => rfl
  | cons e r ih =>
    have hrest := ih (z.insert e.2 e.1).2
    have hfirst := size_insert z e.2 e.1
    rw [insertAll]
    dsimp only
    omega

theorem size_removeAll (z : SortedSet) (members : List Bytes) :
    (z.removeAll members).2.size + (z.removeAll members).1 = z.size := by
  induction members generalizing z with
  | nil => rfl
  | cons m r ih =>
    have hrest := ih (z.remove m).2
    have hfirst := size_remove z m
    rw [removeAll]
    dsimp only
    omega

variable {z : SortedSet} {members : List Bytes}

/-- Members that are all there, and listed once, are all counted. -/
theorem removeAll_fst_of_nodup (hnodup : members.Nodup)
    (h : ∀ m ∈ members, z.scores.contains m = true) : (z.removeAll members).1 = members.length := by
  induction members generalizing z with
  | nil => rfl
  | cons m r ih =>
    obtain ⟨hm, hr⟩ := List.nodup_cons.1 hnodup
    have hthere : (z.remove m).1 = true := by rw [remove_fst, h m List.mem_cons_self]
    have hrest : ∀ x ∈ r, (z.remove m).2.scores.contains x = true := by
      intro x hx
      have hne : m ≠ x := fun heq => hm (heq ▸ hx)
      rw [scores_remove, ByteMap.contains, ByteMap.get?_erase, if_neg hne]
      exact h x (List.mem_cons_of_mem _ hx)
    rw [removeAll]
    dsimp only
    rw [ih hr hrest, hthere]
    rfl

/-- The ranking names each member once. -/
theorem Indexed.nodup_names (h : z.Indexed) : (z.ranking.map (·.1)).Nodup := by
  refine List.pairwise_map.2 (h.ascending.imp_of_mem fun {a b} ha hb hab heq => ?_)
  have hscore : some a.2 = some b.2 := by
    rw [← (h.mem_iff a.1 a.2).1 ha, ← (h.mem_iff b.1 b.2).1 hb, heq]
  exact ne_of_precedes hab (Prod.ext heq (Option.some.inj hscore))

/-- A selection has only members, and none of them twice. -/
theorem Indexed.size_removeSelected (h : z.Indexed) (selection : Selection) :
    let doomed := (selection.pick z.ascending).map (·.1)
    (z.removeAll doomed).2.size + doomed.length = z.size := by
  intro doomed
  -- the selection is a part of the ranking, in which every member stands once
  have hpick : (selection.pick z.ascending).Sublist z.ranking := selection.pick_sublist _
  have hcount : (z.removeAll doomed).1 = doomed.length := by
    refine removeAll_fst_of_nodup (h.nodup_names.sublist (hpick.map _)) fun m hm => ?_
    obtain ⟨e, he, rfl⟩ := List.mem_map.1 hm
    rw [ByteMap.contains, (h.mem_iff e.1 e.2).1 (hpick.subset he)]
    rfl
  rw [← hcount]
  exact size_removeAll z doomed

end SortedSet

/-! ### Changes -/

/-- What a change does to the number of fields, and the reply that goes with it. -/
def HashUpdate.Adjusts (h h' : Hash) (reply : Reply) : HashUpdate → Prop
  | delete _ => ∃ n, reply = .count n ∧ h'.size + n = h.size
  | set _ _ | setIfAbsent _ _ => ∃ n, reply = .count n ∧ h'.size = h.size + n
  | increment field _ | incrementFloat field _ => h'.size = h.size + (h.get? field).isNone.toNat
  | setMany pairs => ∃ fresh : List Bytes, fresh.Nodup ∧
      (∀ f, f ∈ fresh ↔ f ∈ pairs.map (·.1) ∧ h.get? f = none) ∧ h'.size = h.size + fresh.length

/-- What a change does to the number of members, and the reply that goes with it. -/
def SetUpdate.Adjusts (z z' : SortedSet) (reply : Reply) : SetUpdate → Prop
  | add _ => ∃ n, reply = .count n ∧ z'.size = z.size + n
  | increment _ member => z'.size = z.size + (z.score? member).isNone.toNat
  | remove _ | removeSelected _ => ∃ n, reply = .count n ∧ z'.size + n = z.size

/-- An increment that succeeds sets the field. -/
theorem Hash.increment_eq_ok {h h' : Hash} {field : Bytes} {by_ n : Int}
    (hr : h.increment field by_ = (.ok n, h')) : h' = h.insert field (Integral.token n) := by
  rw [increment] at hr
  split at hr
  · cases hr
  · dsimp only at hr
    split at hr
    · cases hr
      rfl
    · cases hr

theorem Hash.incrementFloat_eq_ok {h h' : Hash} {field value : Bytes} {by_ : Score}
    (hr : h.incrementFloat field by_ = (.ok value, h')) : h' = h.insert field value := by
  rw [incrementFloat] at hr
  split at hr
  · cases hr
  · dsimp only at hr
    split at hr
    · cases hr
      rfl
    · cases hr

theorem SortedSet.increment_eq_ok {z z' : SortedSet} {member : Bytes} {by_ s : Score}
    (hr : z.increment by_ member = (.ok s, z')) : z' = (z.insert member s).2 := by
  simp only [increment] at hr
  split at hr
  · cases hr
  · cases hr
    rfl

theorem Except.exists_of_map_eq_ok {α β : Type} {g : α → β} {x : Except Fault α} {b : β}
    (h : x.map g = .ok b) : ∃ a, x = .ok a := by
  cases x with
  | error f => cases h
  | ok a => exact ⟨a, rfl⟩

theorem HashUpdate.adjusts_of_run {update : HashUpdate} {h h' : Hash} {reply : Reply}
    (hr : update.run h = (.ok reply, h')) : update.Adjusts h h' reply := by
  obtain ⟨hreply, hleft⟩ := Prod.mk.inj hr
  cases update with
  | delete fields =>
    subst hleft
    exact ⟨_, (Except.ok.inj hreply).symm, h.size_deleteAll fields⟩
  | increment field by_ =>
    obtain ⟨n, hn⟩ := Except.exists_of_map_eq_ok hreply
    rw [Hash.increment_eq_ok (Prod.ext hn hleft)]
    exact ByteMap.size_insert h field _
  | incrementFloat field by_ =>
    obtain ⟨value, hvalue⟩ := Except.exists_of_map_eq_ok hreply
    rw [Hash.incrementFloat_eq_ok (Prod.ext hvalue hleft)]
    exact ByteMap.size_insert h field _
  | setMany pairs =>
    subst hleft
    exact h.exists_fresh_setMany pairs
  | set field value =>
    subst hleft
    refine ⟨_, (Except.ok.inj hreply).symm, ?_⟩
    rw [ByteMap.size_insert, ByteMap.contains, Option.not_isSome]
  | setIfAbsent field value =>
    refine ⟨_, (Except.ok.inj hreply).symm, ?_⟩
    have hleft : (if h.contains field then h else h.insert field value) = h' := hleft
    rw [← hleft]
    by_cases hthere : h.contains field = true
    · rw [if_pos hthere, hthere]
      rfl
    · rw [if_neg hthere, ByteMap.size_insert, ByteMap.contains, Option.not_isSome]

theorem SetUpdate.adjusts_of_run {update : SetUpdate} {z z' : SortedSet} {reply : Reply}
    (hz : z.Indexed) (hr : update.run z = (.ok reply, z')) : update.Adjusts z z' reply := by
  obtain ⟨hreply, rfl⟩ := Prod.mk.inj hr
  cases update with
  | add entries => exact ⟨_, (Except.ok.inj hreply).symm, z.size_insertAll entries⟩
  | increment by_ member =>
    obtain ⟨s, hs⟩ := Except.exists_of_map_eq_ok hreply
    have hsize := z.size_insert member s
    rw [SortedSet.insert_fst, ← SortedSet.increment_eq_ok (Prod.ext hs rfl)] at hsize
    exact hsize
  | remove members => exact ⟨_, (Except.ok.inj hreply).symm, z.size_removeAll members⟩
  | removeSelected selection =>
    exact ⟨_, (Except.ok.inj hreply).symm, hz.size_removeSelected selection⟩

end KeyWalk
