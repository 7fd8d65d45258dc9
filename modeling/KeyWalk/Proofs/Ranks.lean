import KeyWalk.Proofs.SelectionReply
import Mathlib.Data.Set.Function
import Mathlib.Order.Interval.Set.Defs

/-!
Ranks of members.

The rank of a member is counted: so many entries of the ranking are before the entry that the member
has by the map of scores.  As the two indexes agree, that is the place of the member:

* `SortedSet.Ascending.countP_precedes`: so many entries are before an entry as its place says,
* `SortedSet.Indexed.rank?_getElem`: the member at a place has the place as its rank,
* `SortedSet.Indexed.rank?_eq_none`: only members have ranks,
* `Store.Ranks`: the replies about the ranks of a sorted set,
* `Store.ranks_of_reachable`: in every store that can come about they are these.
-/

namespace KeyWalk

/-! ### Places and ranks -/

namespace SortedSet

variable {z : SortedSet} {l : List (Bytes × Score)} {i j : Nat}

theorem not_precedes_of_precedes {a b : Bytes × Score} (h : precedes a b = true) :
    precedes b a = false := by
  refine Bool.eq_false_iff.2 fun hba => ?_
  exact ne_of_precedes (precedes_trans h hba) rfl

/-- As many entries are before an entry as its place says. -/
theorem Ascending.countP_precedes (h : Ascending l) (hi : i < l.length) :
    l.countP (fun a => precedes a l[i]) = i := by
  induction l generalizing i with
  | nil => exact absurd hi (Nat.not_lt_zero i)
  | cons b r ih =>
    obtain ⟨hb, hr⟩ := List.pairwise_cons.1 h
    cases i with
    | zero =>
      -- nothing is before the first entry, which is before all others
      refine List.countP_eq_zero.2 fun a ha => ?_
      rw [List.getElem_cons_zero]
      rcases List.mem_cons.1 ha with rfl | ha
      · exact fun haa => ne_of_precedes haa rfl
      · exact Bool.eq_false_iff.1 (not_precedes_of_precedes (hb a ha))
    | succ j =>
      have hj : j < r.length := Nat.lt_of_succ_lt_succ hi
      have hbefore : precedes b r[j] = true := hb r[j] (List.getElem_mem hj)
      rw [List.getElem_cons_succ, List.countP_cons, ih hr hj, if_pos hbefore]

/-- Places are in the order of their entries. -/
theorem Ascending.precedes_iff_lt (h : Ascending l) (hi : i < l.length) (hj : j < l.length) :
    precedes l[i] l[j] = true ↔ i < j := by
  rcases Nat.lt_trichotomy i j with hij | rfl | hji
  · exact iff_of_true (List.pairwise_iff_getElem.1 h i j hi hj hij) hij
  · exact iff_of_false (fun hii => ne_of_precedes hii rfl) (Nat.lt_irrefl i)
  · have hbefore : precedes l[j] l[i] = true := List.pairwise_iff_getElem.1 h j i hj hi hji
    exact iff_of_false (Bool.eq_false_iff.1 (not_precedes_of_precedes hbefore))
      (Nat.not_lt.2 (Nat.le_of_lt hji))

/-- **The member at a place has the place as its rank.** -/
theorem Indexed.rank?_getElem (h : z.Indexed) (hi : i < z.ranking.length) :
    z.rank? z.ranking[i].1 = some i := by
  have hscore : z.score? z.ranking[i].1 = some z.ranking[i].2 :=
    (h.mem_iff _ _).1 (List.getElem_mem hi)
  rw [rank?, hscore, Option.map_some]
  exact congrArg some (h.ascending.countP_precedes hi)

theorem Indexed.rank?_eq_none (h : z.Indexed) {m : Bytes} (hm : ∀ v, (m, v) ∉ z.ranking) :
    z.rank? m = none := by
  rw [rank?, Option.map_eq_none_iff, Option.eq_none_iff_forall_ne_some]
  exact fun v hv => hm v ((h.mem_iff m v).2 hv)

/-- The rank of a member; of anything else it is zero. -/
def rankOf (z : SortedSet) (m : Bytes) : Nat := (z.rank? m).getD 0

/-- An entry is at a place, and its member has the place as its rank. -/
theorem Indexed.exists_place (h : z.Indexed) {e : Bytes × Score} (he : e ∈ z.ranking) :
    ∃ i, ∃ hi : i < z.ranking.length, z.ranking[i] = e ∧ z.rank? e.1 = some i ∧
      z.rankOf e.1 = i := by
  obtain ⟨i, hi, rfl⟩ := List.getElem_of_mem he
  have hrank := h.rank?_getElem hi
  exact ⟨i, hi, rfl, hrank, by rw [rankOf, hrank, Option.getD_some]⟩

/-- **The members and the places correspond.** -/
theorem Indexed.bijOn_rankOf (h : z.Indexed) :
    Set.BijOn z.rankOf {m | ∃ v, (m, v) ∈ z.ranking} (Set.Iio z.ranking.length) := by
  refine ⟨?_, ?_, ?_⟩
  · rintro m ⟨v, hv⟩
    obtain ⟨i, hi, -, -, hrank⟩ := h.exists_place hv
    exact hrank ▸ hi
  · -- two members of one rank are at one place
    rintro m ⟨v, hv⟩ m' ⟨v', hv'⟩ heq
    obtain ⟨i, hi, he, -, hrank⟩ := h.exists_place hv
    obtain ⟨j, hj, he', -, hrank'⟩ := h.exists_place hv'
    obtain rfl : i = j := hrank.symm.trans (heq.trans hrank')
    exact congrArg Prod.fst (he.symm.trans he')
  · intro i hlt
    have hi : i < z.ranking.length := hlt
    refine ⟨z.ranking[i].1, ⟨_, List.getElem_mem hi⟩, ?_⟩
    rw [rankOf, h.rank?_getElem hi, Option.getD_some]

/-- Ranks are in the order of scores and names. -/
theorem Indexed.rankOf_lt_iff (h : z.Indexed) {a b : Bytes × Score} (ha : a ∈ z.ranking)
    (hb : b ∈ z.ranking) : z.rankOf a.1 < z.rankOf b.1 ↔ precedes a b = true := by
  obtain ⟨i, hi, rfl, -, hrank⟩ := h.exists_place ha
  obtain ⟨j, hj, rfl, -, hrank'⟩ := h.exists_place hb
  rw [hrank, hrank', h.ascending.precedes_iff_lt hi hj]

end SortedSet

namespace Selection

/-- All ranks, from the first to the last. -/
theorem spelledBy_all : (rank 0 (-1)).SpelledBy (Bytes.ofString "0") (Bytes.ofString "-1") :=
  ⟨rfl, rfl⟩

/-- A range of one rank selects the entry at its place. -/
theorem pick_place {l : List (Bytes × Score)} {i : Nat} (hi : i < l.length) :
    (rank i i).pick l = [l[i]] := by
  rw [pick_ranks (Nat.le_refl i) hi, Nat.sub_self, List.take_one, List.head?_drop,
    List.getElem?_eq_getElem hi]
  rfl

end Selection

theorem SetQuery.answer_rank (z : SortedSet) (m : Bytes) (reverse : Bool) :
    (rank m reverse).answer z =
      (z.rank? m).elim .nil fun r => .count (if reverse then z.size - 1 - r else r) := by
  rw [answer, SortedSet.orderedRank?]
  cases z.rank? m <;> rfl

namespace Store

section Engine

variable [GlobEngine] {s : Store} {key : Bytes} {z : SortedSet}

theorem apply_zrank (hread : s.read .sortedSet key = .ok z) (m : Bytes) :
    s.apply ⟨.zrank, [key, m]⟩ = ((z.rank? m).elim .nil .count, s) := by
  have hreply : s.apply ⟨.zrank, [key, m]⟩ = ((SetQuery.rank m false).answer z, s) :=
    apply_askSet rfl hread
  rwa [SetQuery.answer_rank] at hreply

theorem apply_zrevrank (hread : s.read .sortedSet key = .ok z) (m : Bytes) :
    s.apply ⟨.zrevrank, [key, m]⟩ =
      ((z.rank? m).elim .nil fun r => .count (z.size - 1 - r), s) := by
  have hreply : s.apply ⟨.zrevrank, [key, m]⟩ = ((SetQuery.rank m true).answer z, s) :=
    apply_askSet rfl hread
  rwa [SetQuery.answer_rank] at hreply

theorem apply_zrange_place {i : Nat} {first last : Bytes}
    (hread : s.read .sortedSet key = .ok z) (hi : i < z.ranking.length)
    (h : (Selection.rank i i).SpelledBy first last) :
    s.apply ⟨.zrange, [key, first, last]⟩ = (.array [.value z.ranking[i].1], s) := by
  have hreading := apply_reading hread h
  rwa [SortedSet.ascending, Selection.pick_place hi] at hreading

/-- A place counted from the end is found backwards. -/
theorem apply_zrevrange_place {i : Nat} {first last : Bytes}
    (hread : s.read .sortedSet key = .ok z) (hi : i < z.ranking.length)
    (h : (Selection.rank ↑(z.ranking.length - 1 - i) ↑(z.ranking.length - 1 - i)).SpelledBy
      first last) :
    s.apply ⟨.zrevrange, [key, first, last]⟩ = (.array [.value z.ranking[i].1], s) := by
  have hback : z.ranking.length - 1 - i < z.ranking.reverse.length := by
    rw [List.length_reverse]
    omega
  have hforth : z.ranking.length - 1 - (z.ranking.length - 1 - i) = i := by omega
  have hentry : z.ranking.reverse[z.ranking.length - 1 - i] = z.ranking[i] := by
    simp only [List.getElem_reverse, hforth]
  rw [apply_zrevrange hread h, SortedSet.ascending, Selection.pick_place hback, hentry]
  rfl

/-- **The ranks of a sorted set** with these entries, of which `rank` is the rank of a member. -/
structure Ranks (s : Store) (key : Bytes) (entries : List (Bytes × Score)) (rank : Bytes → Nat) :
    Prop where
  bijective : Set.BijOn rank {m | ∃ v, (m, v) ∈ entries} (Set.Iio entries.length)
  increasing : ∀ a ∈ entries, ∀ b ∈ entries,
    rank a.1 < rank b.1 ↔ a.2.key < b.2.key ∨ a.2.key = b.2.key ∧ a.1 < b.1
  zrank : ∀ e ∈ entries, s.apply ⟨.zrank, [key, e.1]⟩ = (.count (rank e.1), s)
  /-- Counted from the end; nothing is subtracted that is not there. -/
  zrevrank : ∀ e ∈ entries, rank e.1 + 1 ≤ entries.length ∧
    s.apply ⟨.zrevrank, [key, e.1]⟩ = (.count (entries.length - 1 - rank e.1), s)
  zrange : ∀ e ∈ entries, ∀ first last : Bytes,
    (Selection.rank (rank e.1) (rank e.1)).SpelledBy first last →
    s.apply ⟨.zrange, [key, first, last]⟩ = (.array [.value e.1], s)
  zrevrange : ∀ e ∈ entries, ∀ first last : Bytes,
    (Selection.rank ↑(entries.length - 1 - rank e.1)
      ↑(entries.length - 1 - rank e.1)).SpelledBy first last →
    s.apply ⟨.zrevrange, [key, first, last]⟩ = (.array [.value e.1], s)
  zrange_all : s.apply ⟨.zrange, key :: ["0", "-1"].map Bytes.ofString⟩ =
    (.array (entries.map fun e => .value e.1), s)
  zrevrange_all : s.apply ⟨.zrevrange, key :: ["0", "-1"].map Bytes.ofString⟩ =
    (.array (entries.reverse.map fun e => .value e.1), s)
  absent : ∀ m, (∀ v, (m, v) ∉ entries) →
    s.apply ⟨.zrank, [key, m]⟩ = (.nil, s) ∧ s.apply ⟨.zrevrank, [key, m]⟩ = (.nil, s)

theorem ranks_of_read (hz : z.Indexed) (hread : s.read .sortedSet key = .ok z) :
    s.Ranks key z.ranking z.rankOf where
  bijective := hz.bijOn_rankOf
  increasing a ha b hb := by rw [hz.rankOf_lt_iff ha hb, SortedSet.precedes_iff]
  zrank e he := by
    obtain ⟨i, -, -, hrank, hplace⟩ := hz.exists_place he
    rw [apply_zrank hread, hrank, hplace]
    rfl
  zrevrank e he := by
    obtain ⟨i, hi, -, hrank, hplace⟩ := hz.exists_place he
    rw [apply_zrevrank hread, hrank, hplace, hz.length_ranking]
    exact ⟨hz.length_ranking ▸ hi, rfl⟩
  zrange e he first last h := by
    obtain ⟨i, hi, rfl, -, hplace⟩ := hz.exists_place he
    rw [hplace] at h
    exact apply_zrange_place hread hi h
  zrevrange e he first last h := by
    obtain ⟨i, hi, rfl, -, hplace⟩ := hz.exists_place he
    rw [hplace] at h
    exact apply_zrevrange_place hread hi h
  zrange_all := by
    have hreading := apply_reading hread Selection.spelledBy_all
    rwa [Selection.pick_all_ranks] at hreading
  zrevrange_all := by
    have hreading := apply_zrevrange hread Selection.spelledBy_all
    rwa [Selection.pick_all_ranks] at hreading
  absent m hm := by
    rw [apply_zrank hread, apply_zrevrank hread, hz.rank?_eq_none hm]
    exact ⟨rfl, rfl⟩

/-- **Ranks are places**, in every store that can come about: they number the members from zero in
the order of scores and names, forwards and backwards, and range reads find each member at its
rank. -/
theorem ranks_of_reachable (hs : s.Reachable) (hkey : ¬s.HoldsHash key) :
    ∃ entries rank, s.ShowsSet key entries ∧ s.Ranks key entries rank := by
  obtain ⟨z, hread, -⟩ := read_sortedSet hkey
  exact ⟨z.ranking, _, showsSet_of_read hs hread,
    ranks_of_read (hs.wellFormed.read hread).1 hread⟩

end Engine

attribute [local instance] Glob.engine

/-- Equal scores are in the order of names, and so are the two zeros. -/
theorem ranks_of_reachable_both_zeros :
    let s := empty.run
      [.apply ⟨.zadd, ["z", "-0", "b", "0", "a", "inf", "c"].map Bytes.ofString⟩]
    let key := Bytes.ofString "z"
    (s.apply ⟨.zrank, [key, Bytes.ofString "b"]⟩).1 = .count 1 ∧
      ∃ entries rank, s.ShowsSet key entries ∧ s.Ranks key entries rank := by
  intro s key
  have hkey : ¬s.HoldsHash key := not_holdsHash_of_type rfl
  exact ⟨rfl, ranks_of_reachable ⟨_, rfl⟩ hkey⟩

end Store

end KeyWalk
