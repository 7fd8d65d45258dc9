import KeyWalk.ByteMap

/-!
Look-ups in finite maps.

A map is determined by what it holds under each key (`ext_get?`), and `get?` says which entries
the map has:

* `get?_eq_some_iff`: `k` is bound to `v` exactly if `(k, v)` is an entry,
* `get?_insert`, `get?_erase`, `get?_filter`, `get?_mapValues`: what each operation does to a
  look-up,
* `insert_of_get?`, `erase_of_get?_eq_none`: operations that change nothing.
-/

namespace KeyWalk

namespace Bytes

theorem lt_trichotomy (a b : Bytes) : a < b ∨ a = b ∨ b < a := by
  by_cases hab : a < b
  · exact .inl hab
  · by_cases hba : b < a
    · exact .inr (.inr hba)
    · exact .inr (.inl (List.le_antisymm (List.not_lt.1 hba) (List.not_lt.1 hab)))

end Bytes

namespace ByteMap

variable {β γ : Type} {m n : ByteMap β} {k k' : Bytes} {v w : β}

/-- Two entries with one key are one entry. -/
theorem eq_of_pairwise {l : List (Bytes × β)} (hl : l.Pairwise (fun a b => a.1 < b.1))
    (hv : (k, v) ∈ l) (hw : (k, w) ∈ l) : v = w := by
  induction l with
  | nil => exact absurd hv List.not_mem_nil
  | cons e r ih =>
    obtain ⟨he, hr⟩ := List.pairwise_cons.1 hl
    rcases List.mem_cons.1 hv with hev | hvr
    · rcases List.mem_cons.1 hw with hew | hwr
      · exact (Prod.mk.inj (hev.trans hew.symm)).2
      · subst hev
        exact absurd (he (k, w) hwr) (List.lt_irrefl k)
    · rcases List.mem_cons.1 hw with hew | hwr
      · subst hew
        exact absurd (he (k, v) hvr) (List.lt_irrefl k)
      · exact ih hr hvr hwr

theorem get?_eq_some_iff : m.get? k = some v ↔ (k, v) ∈ m.entries := by
  constructor
  · intro h
    obtain ⟨e, he, rfl⟩ := Option.map_eq_some_iff.1 h
    have hk : e.1 = k := by simpa using List.find?_some he
    exact hk ▸ List.mem_of_find?_eq_some he
  · intro h
    cases hf : m.entries.find? (·.1 = k) with
    | none => simpa using List.find?_eq_none.1 hf _ h
    | some e =>
      have hk : e.1 = k := by simpa using List.find?_some hf
      have he : (k, e.2) ∈ m.entries := hk ▸ List.mem_of_find?_eq_some hf
      rw [get?, hf, eq_of_pairwise m.ascending h he]
      rfl

/-- The entries are already determined by what they are. -/
theorem entries_eq_of_mem_iff {l l' : List (Bytes × β)}
    (hl : l.Pairwise (fun a b => a.1 < b.1)) (hl' : l'.Pairwise (fun a b => a.1 < b.1))
    (h : ∀ e, e ∈ l ↔ e ∈ l') : l = l' := by
  induction l generalizing l' with
  | nil =>
    cases l' with
    | nil => rfl
    | cons b s => exact absurd ((h b).2 List.mem_cons_self) List.not_mem_nil
  | cons a r ih =>
    cases l' with
    | nil => exact absurd ((h a).1 List.mem_cons_self) List.not_mem_nil
    | cons b s =>
      obtain ⟨ha, hr⟩ := List.pairwise_cons.1 hl
      obtain ⟨hb, hs⟩ := List.pairwise_cons.1 hl'
      -- each head is in the other list, and before the head there is nothing
      have hab : a = b := by
        rcases List.mem_cons.1 ((h a).1 List.mem_cons_self) with hab | hab
        · exact hab
        · rcases List.mem_cons.1 ((h b).2 List.mem_cons_self) with hba | hba
          · exact hba.symm
          · exact absurd (List.lt_trans (ha _ hba) (hb _ hab)) (List.lt_irrefl _)
      subst hab
      congr 1
      refine ih hr hs fun e => ?_
      have hne : ∀ {t : List (Bytes × β)}, (∀ x ∈ t, a.1 < x.1) → e ∈ t → e ≠ a :=
        fun ht he hea => List.lt_irrefl _ (hea ▸ ht e he)
      constructor
      · intro he
        exact ((List.mem_cons.1 ((h e).1 (List.mem_cons_of_mem _ he))).resolve_left (hne ha he))
      · intro he
        exact ((List.mem_cons.1 ((h e).2 (List.mem_cons_of_mem _ he))).resolve_left (hne hb he))

theorem ext_get? (h : ∀ k, m.get? k = n.get? k) : m = n := by
  refine ext (entries_eq_of_mem_iff m.ascending n.ascending fun e => ?_)
  rw [← get?_eq_some_iff, ← get?_eq_some_iff, h]

@[simp] theorem get?_empty (k : Bytes) : (empty : ByteMap β).get? k = none := rfl

/-! ### What each operation does to a look-up -/

theorem self_mem_insertEntry (k : Bytes) (v : β) (l : List (Bytes × β)) :
    (k, v) ∈ insertEntry k v l := by
  induction l with
  | nil => simp [insertEntry]
  | cons a r ih =>
    rw [insertEntry]
    split
    · exact List.mem_cons_of_mem _ ih
    · split <;> exact List.mem_cons_self

theorem mem_insertEntry_of_ne {e : Bytes × β} {l : List (Bytes × β)} (h : e.1 ≠ k)
    (he : e ∈ l) : e ∈ insertEntry k v l := by
  induction l with
  | nil => exact absurd he List.not_mem_nil
  | cons a r ih =>
    rw [insertEntry]
    split
    · rcases List.mem_cons.1 he with rfl | he
      · exact List.mem_cons_self
      · exact List.mem_cons_of_mem _ (ih he)
    · split
      · rename_i hk
        rcases List.mem_cons.1 he with rfl | he
        · exact absurd hk h
        · exact List.mem_cons_of_mem _ he
      · exact List.mem_cons_of_mem _ he

theorem get?_insert (m : ByteMap β) (k k' : Bytes) (v : β) :
    (m.insert k v).get? k' = if k = k' then some v else m.get? k' := by
  split
  · rename_i h
    subst h
    exact get?_eq_some_iff.2 (self_mem_insertEntry k v m.entries)
  · rename_i h
    refine Option.ext fun w => ?_
    rw [get?_eq_some_iff, get?_eq_some_iff]
    constructor
    · intro hw
      rcases mem_insertEntry hw with hw | hw
      · exact absurd (Prod.mk.inj hw).1.symm h
      · exact hw
    · exact mem_insertEntry_of_ne (Ne.symm h)

theorem get?_filter (m : ByteMap β) (p : Bytes → β → Bool) (k : Bytes) :
    (m.filter p).get? k = (m.get? k).filter (p k) := by
  refine Option.ext fun w => ?_
  rw [get?_eq_some_iff, Option.filter_eq_some_iff, get?_eq_some_iff, filter, List.mem_filter]

theorem get?_erase (m : ByteMap β) (k k' : Bytes) :
    (m.erase k).get? k' = if k = k' then none else m.get? k' := by
  refine Option.ext fun w => ?_
  rw [get?_eq_some_iff, erase, List.mem_filter]
  by_cases h : k = k'
  · simp [h]
  · simp [h, Ne.symm h, get?_eq_some_iff]

theorem get?_mapValues (m : ByteMap β) (f : β → γ) (k : Bytes) :
    (m.mapValues f).get? k = (m.get? k).map f := by
  refine Option.ext fun w => ?_
  rw [get?_eq_some_iff, Option.map_eq_some_iff, mapValues, List.mem_map]
  constructor
  · rintro ⟨⟨k₁, v⟩, he, hkv⟩
    cases hkv
    exact ⟨v, get?_eq_some_iff.2 he, rfl⟩
  · rintro ⟨v, hv, rfl⟩
    exact ⟨(k, v), get?_eq_some_iff.1 hv, rfl⟩

/-! ### Operations that change nothing -/

theorem insert_of_get? (h : m.get? k = some v) : m.insert k v = m := by
  refine ext_get? fun k' => ?_
  rw [get?_insert]
  split
  · rename_i hk
    rw [← hk, h]
  · rfl

theorem erase_of_get?_eq_none (h : m.get? k = none) : m.erase k = m := by
  refine ext_get? fun k' => ?_
  rw [get?_erase]
  split
  · rename_i hk
    rw [← hk, h]
  · rfl

end ByteMap

end KeyWalk
