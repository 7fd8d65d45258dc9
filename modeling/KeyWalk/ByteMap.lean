import KeyWalk.Bytes

/-!
Finite maps from byte strings, in ascending order of keys.

A `ByteMap β` is its list of entries, and the type holds that the keys ascend strictly.  So two
maps with the same entries are equal, and a map is shown, scanned and compared by `entries` alone.

* `m.get? k` looks a key up, `m.insert k v` and `m.erase k` change one entry,
* `m.size` counts the entries.
-/

namespace KeyWalk

/-- A finite map from byte strings, as its entries in strictly ascending order of keys. -/
structure ByteMap (β : Type) where
  entries : List (Bytes × β)
  ascending : entries.Pairwise (fun a b => a.1 < b.1)

namespace ByteMap

variable {β γ : Type}

theorem ext {m n : ByteMap β} (h : m.entries = n.entries) : m = n := by
  cases m; cases n; cases h; rfl

instance [DecidableEq β] : DecidableEq (ByteMap β) := fun m n =>
  if h : m.entries = n.entries then isTrue (ext h) else isFalse fun e => h (e ▸ rfl)

/-- The map without entries. -/
def empty : ByteMap β := ⟨[], .nil⟩

instance : Inhabited (ByteMap β) := ⟨empty⟩

/-- The number of entries. -/
def size (m : ByteMap β) : Nat := m.entries.length

/-- The map has no entries. -/
def isEmpty (m : ByteMap β) : Bool := m.entries.isEmpty

/-- The keys, ascending. -/
def keys (m : ByteMap β) : List Bytes := m.entries.map (·.1)

/-- The values, in the order of their keys. -/
def values (m : ByteMap β) : List β := m.entries.map (·.2)

/-- The value under a key. -/
def get? (m : ByteMap β) (k : Bytes) : Option β :=
  (m.entries.find? (·.1 = k)).map (·.2)

/-- The key has a value. -/
def contains (m : ByteMap β) (k : Bytes) : Bool := (m.get? k).isSome

/-! ### Changing one entry -/

/-- The entries with `k` bound to `v`, at its place in the order. -/
def insertEntry (k : Bytes) (v : β) : List (Bytes × β) → List (Bytes × β)
  | [] => [(k, v)]
  | e :: r =>
    if e.1 < k then e :: insertEntry k v r
    else if e.1 = k then (k, v) :: r
    else (k, v) :: e :: r

theorem mem_insertEntry {k : Bytes} {v : β} {e : Bytes × β} {l : List (Bytes × β)}
    (h : e ∈ insertEntry k v l) : e = (k, v) ∨ e ∈ l := by
  induction l with
  | nil => simpa [insertEntry] using h
  | cons a r ih =>
    rw [insertEntry] at h
    split at h
    · rcases List.mem_cons.1 h with h | h
      · exact .inr (h ▸ List.mem_cons_self)
      · exact (ih h).imp id (List.mem_cons_of_mem _)
    · split at h
      · rcases List.mem_cons.1 h with h | h
        · exact .inl h
        · exact .inr (List.mem_cons_of_mem _ h)
      · simpa using h

theorem pairwise_insertEntry (k : Bytes) (v : β) {l : List (Bytes × β)}
    (h : l.Pairwise (fun a b => a.1 < b.1)) :
    (insertEntry k v l).Pairwise (fun a b => a.1 < b.1) := by
  induction l with
  | nil => simp [insertEntry]
  | cons e r ih =>
    obtain ⟨he, hr⟩ := List.pairwise_cons.1 h
    rw [insertEntry]
    split
    · rename_i hk
      refine List.pairwise_cons.2 ⟨fun b hb => ?_, ih hr⟩
      rcases mem_insertEntry hb with rfl | hb
      · exact hk
      · exact he b hb
    · split
      · rename_i hk
        exact List.pairwise_cons.2 ⟨fun b hb => hk ▸ he b hb, hr⟩
      · rename_i hlt hne
        have hk : k < e.1 := Classical.byContradiction fun hge =>
          hne (List.le_antisymm (List.not_lt.1 hge) (List.not_lt.1 hlt))
        refine List.pairwise_cons.2 ⟨fun b hb => ?_, h⟩
        rcases List.mem_cons.1 hb with rfl | hb
        · exact hk
        · exact List.lt_trans hk (he b hb)

/-- The map with `k` bound to `v`. -/
def insert (m : ByteMap β) (k : Bytes) (v : β) : ByteMap β :=
  ⟨insertEntry k v m.entries, pairwise_insertEntry k v m.ascending⟩

/-- The map without `k`. -/
def erase (m : ByteMap β) (k : Bytes) : ByteMap β :=
  ⟨m.entries.filter (·.1 ≠ k), m.ascending.filter _⟩

/-- The entries that satisfy a test. -/
def filter (m : ByteMap β) (p : Bytes → β → Bool) : ByteMap β :=
  ⟨m.entries.filter fun e => p e.1 e.2, m.ascending.filter _⟩

/-- The map with every value changed. -/
def mapValues (m : ByteMap β) (f : β → γ) : ByteMap γ :=
  ⟨m.entries.map fun e => (e.1, f e.2), List.pairwise_map.2 m.ascending⟩

/-- The map of a list of entries; of two entries with one key the later counts. -/
def ofList (l : List (Bytes × β)) : ByteMap β :=
  l.foldl (fun m e => m.insert e.1 e.2) empty

end ByteMap

end KeyWalk
