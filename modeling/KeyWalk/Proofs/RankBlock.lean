import KeyWalk.Proofs.BoundMeaning
import KeyWalk.Proofs.SelectionReply

/-!
Ranges of scores are blocks of ranks.

The store tests every member against both bounds of a range.  A lower bound that admits a score
admits all greater ones, and an upper bound all lesser ones.  The ranking ascends, so what passes
both tests stands together in it:

* `filter_eq_drop_countP`, `filter_eq_take_countP`: tests that fail in front, or at the end,
* `ScoreBound.admitsFromBelow_mono`, `ScoreBound.admitsFromAbove_anti` and the same of names: the
  bounds are such tests,
* `Store.ReadsBlock`: a range is read as a block of ranks is,
* `Store.block_of_reachable`: so is every range of scores, and a range of names where all scores
  are equal.
-/

namespace KeyWalk

/-! ### Tests on ascending lists -/

section Tests

variable {α : Type} {p q : α → Bool} {l : List α}

/-- A test that does not fail behind an element that passes it fails for the first ones. -/
theorem filter_eq_drop_countP (h : l.Pairwise fun a b => p a = true → p b = true) :
    l.filter p = l.drop (l.countP fun a => !p a) := by
  induction l with
  | nil => rfl
  | cons a r ih =>
    obtain ⟨ha, hr⟩ := List.pairwise_cons.1 h
    by_cases hp : p a = true
    · have hall : ∀ b ∈ a :: r, p b = true := List.forall_mem_cons.2 ⟨hp, fun b hb => ha b hb hp⟩
      have hnone : (a :: r).countP (fun b => !p b) = 0 :=
        List.countP_eq_zero.2 fun b hb => by simp [hall b hb]
      rw [List.filter_eq_self.2 hall, hnone, List.drop_zero]
    · rw [List.filter_cons_of_neg hp, List.countP_cons_of_pos (by simpa using hp),
        List.drop_succ_cons, ih hr]

/-- A test that does not fail before an element that passes it fails for the last ones. -/
theorem filter_eq_take_countP (h : l.Pairwise fun a b => q b = true → q a = true) :
    l.filter q = l.take (l.countP q) := by
  induction l with
  | nil => rfl
  | cons a r ih =>
    obtain ⟨ha, hr⟩ := List.pairwise_cons.1 h
    by_cases hq : q a = true
    · rw [List.filter_cons_of_pos hq, List.countP_cons_of_pos hq, List.take_succ_cons, ih hr]
    · have hnone : ∀ b ∈ a :: r, ¬q b = true :=
        List.forall_mem_cons.2 ⟨hq, fun b hb hb' => hq (ha b hb hb')⟩
      rw [List.filter_eq_nil_iff.2 hnone, List.countP_eq_zero.2 hnone, List.take_zero]

/-- What passes both tests stands together. -/
theorem filter_and_eq_take_drop (hp : l.Pairwise fun a b => p a = true → p b = true)
    (hq : l.Pairwise fun a b => q b = true → q a = true) :
    (l.filter fun a => p a && q a) = (l.drop (l.countP fun a => !p a)).take
      (l.filter fun a => p a && q a).length := by
  have hboth : (l.filter fun a => p a && q a) = (l.drop (l.countP fun a => !p a)).filter q := by
    rw [← filter_eq_drop_countP hp, List.filter_filter]
    simp only [Bool.and_comm]
  have hrest : (l.drop (l.countP fun a => !p a)).Pairwise fun a b => q b = true → q a = true :=
    hq.sublist (List.drop_sublist _ _)
  rw [hboth, ← List.countP_eq_length_filter, ← filter_eq_take_countP hrest]

end Tests

/-! ### Bounds -/

namespace ScoreBound

variable {b : ScoreBound} {s t : Score}

/-- A lower bound that admits a score admits every greater one. -/
theorem admitsFromBelow_mono (hb : b.Numeric) (hs : s.isNaN = false) (ht : t.isNaN = false)
    (hle : s.key ≤ t.key) (h : b.admitsFromBelow s = true) : b.admitsFromBelow t = true := by
  rw [admitsFromBelow_iff hb hs] at h
  rw [admitsFromBelow_iff hb ht]
  -- if the greater score is the excluded limit, the lesser one is it, too
  refine ⟨Int.le_trans h.1 hle, fun hstrict heq => h.2 hstrict ?_⟩
  exact Int.le_antisymm h.1 (heq ▸ hle)

/-- An upper bound that admits a score admits every lesser one. -/
theorem admitsFromAbove_anti (hb : b.Numeric) (hs : s.isNaN = false) (ht : t.isNaN = false)
    (hle : s.key ≤ t.key) (h : b.admitsFromAbove t = true) : b.admitsFromAbove s = true := by
  rw [admitsFromAbove_iff hb ht] at h
  rw [admitsFromAbove_iff hb hs]
  refine ⟨Int.le_trans hle h.1, fun hstrict heq => h.2 hstrict ?_⟩
  exact Int.le_antisymm (heq ▸ hle) h.1

end ScoreBound

namespace LexBound

variable {b : LexBound} {name other : Bytes}

theorem admitsFromBelow_mono (hle : name ≤ other) (h : b.admitsFromBelow name = true) :
    b.admitsFromBelow other = true := by
  cases b with
  | inclusive bound => exact decide_eq_true (List.le_trans (of_decide_eq_true h) hle)
  | exclusive bound =>
    have hlt : bound < name := of_decide_eq_true h
    refine decide_eq_true (Decidable.byContradiction fun hnot => ?_)
    exact List.not_lt.2 (List.le_trans hle (List.not_lt.1 hnot)) hlt
  | least => rfl
  | greatest => cases h

theorem admitsFromAbove_anti (hle : name ≤ other) (h : b.admitsFromAbove other = true) :
    b.admitsFromAbove name = true := by
  cases b with
  | inclusive bound => exact decide_eq_true (List.le_trans hle (of_decide_eq_true h))
  | exclusive bound => exact decide_eq_true (List.lt_of_le_of_lt hle (of_decide_eq_true h))
  | least => cases h
  | greatest => rfl

end LexBound

/-! ### Ranges -/

/-- What a range of scores selects from a ranking stands together in it. -/
theorem Selection.pick_score_eq {range : ScoreRange} {l : List (Bytes × Score)}
    (hmin : range.min.Numeric) (hmax : range.max.Numeric)
    (hnumeric : ∀ e ∈ l, e.2.isNaN = false) (hascending : SortedSet.Ascending l) :
    (score range).pick l = (l.drop (l.countP fun e => !range.min.admitsFromBelow e.2)).take
      ((score range).pick l).length := by
  have hkeys : l.Pairwise fun a b =>
      a.2.isNaN = false ∧ b.2.isNaN = false ∧ a.2.key ≤ b.2.key := by
    refine hascending.imp_of_mem fun {a b} ha hb h => ⟨hnumeric a ha, hnumeric b hb, ?_⟩
    rcases SortedSet.precedes_iff.1 h with hlt | ⟨heq, -⟩
    · exact Int.le_of_lt hlt
    · exact Int.le_of_eq heq
  refine filter_and_eq_take_drop (hkeys.imp fun h => ?_) (hkeys.imp fun h => ?_)
  · exact ScoreBound.admitsFromBelow_mono hmin h.1 h.2.1 h.2.2
  · exact ScoreBound.admitsFromAbove_anti hmax h.1 h.2.1 h.2.2

/-- Where all scores are equal the names ascend, and so do ranges of names. -/
theorem Selection.pick_lex_eq {range : LexRange} {l : List (Bytes × Score)}
    (hequal : ∀ a ∈ l, ∀ b ∈ l, a.2.key = b.2.key) (hascending : SortedSet.Ascending l) :
    (lex range).pick l = (l.drop (l.countP fun e => !range.min.admitsFromBelow e.1)).take
      ((lex range).pick l).length := by
  have hnames : l.Pairwise fun a b => a.1 ≤ b.1 := by
    refine hascending.imp_of_mem fun {a b} ha hb h => ?_
    rcases SortedSet.precedes_iff.1 h with hlt | ⟨-, hlt⟩
    · exact absurd (hequal a ha b hb) (Int.ne_of_lt hlt)
    · exact List.le_of_lt hlt
  refine filter_and_eq_take_drop (hnames.imp fun h => ?_) (hnames.imp fun h => ?_)
  · exact LexBound.admitsFromBelow_mono h
  · exact LexBound.admitsFromAbove_anti h

/-- The bounds of a range that was spelled are numbers. -/
theorem Selection.numeric_of_spelledBy {range : ScoreRange} {lower upper : Bytes}
    (h : (score range).SpelledBy lower upper) : range.min.Numeric ∧ range.max.Numeric := by
  have hbound : ∀ {token : Bytes} {b : ScoreBound},
      (Utf8.decode? token >>= ScoreBound.ofText?) = some b → b.Numeric := by
    intro token b hb
    obtain ⟨cs, -, hcs⟩ := Option.bind_eq_some_iff.1 hb
    exact (ScoreBound.plain_of_ofText? hcs).numeric
  exact ⟨hbound h.1, hbound h.2⟩

namespace Store

section Engine

variable [GlobEngine] {s : Store} {z : SortedSet} {selection : Selection}
  {lower upper key : Bytes}

/-- **What is selected is a block of ranks**, which starts at `first`: nothing if nothing is
counted, and else what is read from `first` on, as many members as are counted. -/
def ReadsBlock (s : Store) (selection : Selection) (key lower upper : Bytes) (first : Nat) : Prop :=
  ∃ k count, selection.counting? = some count ∧
    s.apply ⟨count, [key, lower, upper]⟩ = (.count k, s) ∧
    ∀ withScores, withScores = false ∨ selection.reading ≠ .zrangebylex →
      (k = 0 → s.apply ⟨selection.reading,
        key :: lower :: upper :: Arguments.scoreOption withScores⟩ = (.array [], s)) ∧
      (0 < k → ∀ start stop : Bytes,
        (Selection.rank first ↑(first + k - 1)).SpelledBy start stop →
        s.apply ⟨selection.reading, key :: lower :: upper :: Arguments.scoreOption withScores⟩ =
          s.apply ⟨.zrange, key :: start :: stop :: Arguments.scoreOption withScores⟩)

theorem readsBlock_of_pick {count : CommandKind} {first : Nat}
    (hread : s.read .sortedSet key = .ok z) (h : selection.SpelledBy lower upper)
    (hcount : selection.counting? = some count)
    (hpick : selection.pick z.ranking =
      (z.ranking.drop first).take (selection.pick z.ranking).length) :
    s.ReadsBlock selection key lower upper first := by
  obtain ⟨k, hk⟩ : ∃ k, k = (selection.pick z.ranking).length := ⟨_, rfl⟩
  refine ⟨k, count, hcount, ?_, fun withScores hscores => ⟨fun hzero => ?_,
    fun hpos start stop hranks => ?_⟩⟩
  · rw [hk]
    exact apply_counting hread h hcount
  · have hnil : selection.pick z.ranking = [] := List.length_eq_zero_iff.1 (hk.symm.trans hzero)
    rw [apply_reading_scored hread h hscores, SortedSet.ascending, hnil]
    rfl
  · -- as many members are behind the place as are selected
    have hroom : k ≤ z.ranking.length - first := by
      have hlength := congrArg List.length hpick
      rw [List.length_take, List.length_drop, ← hk] at hlength
      omega
    have hblock : (Selection.rank first ↑(first + k - 1)).pick z.ranking =
        selection.pick z.ranking := by
      have hsize : first + k - 1 - first + 1 = k := by omega
      rw [Selection.pick_ranks (by omega) (by omega), hsize, hpick, ← hk]
    have hranked : CommandKind.zrange ≠ .zrangebylex := by decide
    rw [apply_reading_scored hread h hscores, SortedSet.ascending, ← hblock]
    exact (apply_reading_scored hread hranks (.inr hranked)).symm

/-- **Every range of scores is a block of ranks**, in every store that can come about; it starts
behind the members that fail the lower bound.  So is every range of names, if all scores are the
same number. -/
theorem block_of_reachable (hs : s.Reachable) (hkey : ¬s.HoldsHash key) :
    ∃ entries, s.ShowsSet key entries ∧
      (∀ range lower upper, (Selection.score range).SpelledBy lower upper →
        s.ReadsBlock (.score range) key lower upper
          (entries.countP fun e => !range.min.admitsFromBelow e.2)) ∧
      ((∀ a ∈ entries, ∀ b ∈ entries, a.2.SameNumber b.2) →
        ∀ range lower upper, (Selection.lex range).SpelledBy lower upper →
          s.ReadsBlock (.lex range) key lower upper
            (entries.countP fun e => !range.min.admitsFromBelow e.1)) := by
  obtain ⟨z, hread, -⟩ := read_sortedSet hkey
  have hshows := showsSet_of_read hs hread
  have hascending : SortedSet.Ascending z.ranking := (hs.wellFormed.read hread).1.ascending
  refine ⟨z.ranking, hshows, fun range lower upper h => ?_, fun hequal range lower upper h => ?_⟩
  · obtain ⟨hmin, hmax⟩ := Selection.numeric_of_spelledBy h
    exact readsBlock_of_pick hread h rfl
      (Selection.pick_score_eq hmin hmax hshows.numeric hascending)
  · have hkeys : ∀ a ∈ z.ranking, ∀ b ∈ z.ranking, a.2.key = b.2.key := fun a ha b hb =>
      (hequal a ha b hb).key_eq
    exact readsBlock_of_pick hread h rfl (Selection.pick_lex_eq hkeys hascending)

end Engine

attribute [local instance] Glob.engine

/-- The two zeros are one number to a range of scores, and equal scores to a range of names. -/
theorem block_of_reachable_zeros :
    let s := empty.run
      [.apply ⟨.zadd, ["z", "-inf", "c", "-0", "b", "0", "a", "inf", "d"].map Bytes.ofString⟩,
        .apply ⟨.zadd, ["w", "-0", "b", "0", "a", "0", "c"].map Bytes.ofString⟩]
    let zeros := Selection.score ⟨.inclusive (.zero false), .inclusive (.zero true)⟩
    let names := Selection.lex ⟨.exclusive (Bytes.ofString "a"), .greatest⟩
    s.ReadsBlock zeros (Bytes.ofString "z") (Bytes.ofString "0") (Bytes.ofString "-0") 1 ∧
      s.ReadsBlock names (Bytes.ofString "w") (Bytes.ofString "(a") (Bytes.ofString "+") 1 := by
  intro s zeros names
  have hreachable : s.Reachable := ⟨_, rfl⟩
  constructor
  · have hkey : ¬s.HoldsHash (Bytes.ofString "z") := not_holdsHash_of_type rfl
    obtain ⟨entries, hshows, hblock, -⟩ := block_of_reachable hreachable hkey
    -- the key shows the entries that are read from it, and no others
    obtain ⟨z, hread, hentries⟩ : ∃ z, s.read .sortedSet (Bytes.ofString "z") = .ok z ∧
        z.ranking = [(Bytes.ofString "c", .inf true), (Bytes.ofString "a", .zero false),
          (Bytes.ofString "b", .zero true), (Bytes.ofString "d", .inf false)] := ⟨_, rfl, rfl⟩
    have hsame : entries = z.ranking := hshows.unique (showsSet_of_read hreachable hread)
    rw [hsame, hentries] at hblock
    exact hblock _ _ _ ⟨rfl, rfl⟩
  · have hkey : ¬s.HoldsHash (Bytes.ofString "w") := not_holdsHash_of_type rfl
    obtain ⟨entries, hshows, -, hblock⟩ := block_of_reachable hreachable hkey
    obtain ⟨z, hread, hentries⟩ : ∃ z, s.read .sortedSet (Bytes.ofString "w") = .ok z ∧
        z.ranking = [(Bytes.ofString "a", .zero false), (Bytes.ofString "b", .zero true),
          (Bytes.ofString "c", .zero false)] := ⟨_, rfl, rfl⟩
    have hsame : entries = z.ranking := hshows.unique (showsSet_of_read hreachable hread)
    rw [hsame, hentries] at hblock
    exact hblock (by decide) _ _ _ ⟨rfl, rfl⟩

end Store

end KeyWalk
