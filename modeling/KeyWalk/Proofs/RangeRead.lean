import KeyWalk.Client
import KeyWalk.Proofs.BoundText
import KeyWalk.Proofs.Delivery
import KeyWalk.Proofs.Reachable

/-!
Range reads answer what they ask for.

`q.select z` is what a range read means: the members of `z` in ascending order of scores, equal
scores by member, the whole reversed for a descending read; of these the ones at the places, with
the scores or with the names that the query admits; and of those the part that its limit keeps.

* `SortedSet.Indexed.ascending_eq_byRank`: the ranking of a set is its members, sorted,
* `Selection.pick_rank`: a range of ranks is a range of places,
* `Request.ofCommand_rangeRead`: the request of a query is read back as the query,
* `Client.attempt_range`: one range read over a store, up to the reading of its elements.

Design notes.  Nothing of `select` is shared with the store: it sorts the entries of the member map
where the store keeps a ranking, and it tests every place where the store computes a window.  It
does share the test of a score or of a name against a range.
-/

namespace KeyWalk

/-! ### What a range read means -/

/-- Ascending scores, equal scores by ascending member. -/
def SortedSet.rankLE (a b : Bytes × Score) : Bool :=
  a.2.key < b.2.key || (a.2.key == b.2.key && a.1 ≤ b.1)

/-- The members with their scores, sorted. -/
def SortedSet.byRank (z : SortedSet) : List (Bytes × Score) := z.members.mergeSort rankLE

/-- The place that a rank names among `n` members; negative ranks count from the end. -/
def rankPlace (n : Nat) (rank : Int) : Int := if 0 ≤ rank then rank else n + rank

namespace RangeQuery

/-- The part of a list that the limit keeps. -/
def limited {α : Type} (q : RangeQuery) (l : List α) : List α :=
  match q.limit with
  | none => l
  | some (offset, count) =>
    if offset < 0 then []
    else if count < 0 then l.drop offset.toNat
    else (l.drop offset.toNat).take count.toNat

/-- What the query selects from a list of members. -/
def selectFrom (q : RangeQuery) (l : List (Bytes × Score)) : List (Bytes × Score) :=
  match q.selection with
  | .rank start stop =>
    (l.zipIdx.filter fun e => rankPlace l.length start ≤ e.2 ∧ e.2 ≤ rankPlace l.length stop).map
      (·.1)
  | .score range => q.limited (l.filter fun e => range.contains e.2)
  | .lex range => q.limited (l.filter fun e => range.contains e.1)

/-- What the query asks for. -/
def select (q : RangeQuery) (z : SortedSet) : List (Bytes × Score) :=
  q.selectFrom (if q.reverse then z.byRank.reverse else z.byRank)

end RangeQuery

/-! ### The order -/

namespace SortedSet

variable {a b c : Bytes × Score} {z : SortedSet}

theorem rankLE_iff :
    rankLE a b = true ↔ a.2.key < b.2.key ∨ a.2.key = b.2.key ∧ a.1 ≤ b.1 := by
  simp only [rankLE, Bool.or_eq_true, Bool.and_eq_true, decide_eq_true_eq, beq_iff_eq]

theorem rankLE_trans (hab : rankLE a b = true) (hbc : rankLE b c = true) : rankLE a c = true := by
  rw [rankLE_iff] at *
  rcases hab with hab | ⟨hab, hab'⟩
  · rcases hbc with hbc | ⟨hbc, -⟩ <;> exact .inl (by omega)
  · rcases hbc with hbc | ⟨hbc, hbc'⟩
    · exact .inl (by omega)
    · exact .inr ⟨hab.trans hbc, List.le_trans hab' hbc'⟩

theorem rankLE_total (a b : Bytes × Score) : (rankLE a b || rankLE b a) = true := by
  rw [Bool.or_eq_true, rankLE_iff, rankLE_iff]
  rcases Int.lt_trichotomy a.2.key b.2.key with h | h | h
  · exact .inl (.inl h)
  · rcases List.le_total a.1 b.1 with hm | hm
    · exact .inl (.inr ⟨h, hm⟩)
    · exact .inr (.inr ⟨h.symm, hm⟩)
  · exact .inr (.inl h)

theorem rankLE_of_precedes (h : precedes a b = true) : rankLE a b = true := by
  rw [rankLE_iff]
  rcases precedes_iff.1 h with h | ⟨h, hm⟩
  · exact .inl h
  · exact .inr ⟨h, List.le_of_lt hm⟩

/-- **The ranking is the sorted list of the members.** -/
theorem Indexed.ascending_eq_byRank (h : z.Indexed) : z.ascending = z.byRank := by
  have hperm : z.ascending.Perm z.byRank := by
    refine List.Perm.trans ?_ (List.mergeSort_perm z.members rankLE).symm
    refine (List.perm_ext_iff_of_nodup h.ascending.nodup ?_).2 fun e => ?_
    · exact z.scores.ascending.imp fun {a b} (hlt : a.1 < b.1) (heq : a = b) =>
        List.lt_irrefl b.1 (heq ▸ hlt)
    · exact (h.mem_iff e.1 e.2).trans ByteMap.get?_eq_some_iff
  have hsorted : z.byRank.Pairwise fun a b => rankLE a b = true :=
    @List.pairwise_mergeSort _ rankLE (fun _ _ _ => rankLE_trans) rankLE_total z.members
  refine hperm.eq_of_pairwise ?_ (h.ascending.imp rankLE_of_precedes) hsorted
  -- two members that are not in order have one name, and so they are one member
  intro a b ha hb hab hba
  have hb : b ∈ z.ascending := hperm.mem_iff.2 hb
  rw [rankLE_iff] at hab hba
  have hname : a.1 = b.1 := by
    rcases hab with hab | ⟨heq, hab⟩
    · rcases hba with hba | ⟨hba, -⟩ <;> omega
    · rcases hba with hba | ⟨-, hba⟩
      · omega
      · exact List.le_antisymm hab hba
  have hget : z.scores.get? a.1 = some a.2 := (h.mem_iff a.1 a.2).1 ha
  have hget' : z.scores.get? a.1 = some b.2 := hname ▸ (h.mem_iff b.1 b.2).1 hb
  exact Prod.ext hname (Option.some.inj (hget.symm.trans hget'))

/-- There is an entry in the ranking for each member. -/
theorem Indexed.length_ranking (h : z.Indexed) : z.ranking.length = z.size := by
  have hranked : z.ranking = z.byRank := h.ascending_eq_byRank
  rw [hranked]
  exact (List.mergeSort_perm z.members rankLE).length_eq

theorem Indexed.ordered_eq (h : z.Indexed) (reverse : Bool) :
    z.ordered reverse = if reverse then z.byRank.reverse else z.byRank := by
  rw [ordered, h.ascending_eq_byRank]

end SortedSet

/-! ### Ranks and places -/

/-- The elements at the places from `lo` up to `hi`. -/
theorem filter_zipIdx {α : Type} (l : List α) (lo hi k : Nat) :
    ((l.zipIdx k).filter fun e => lo ≤ e.2 ∧ e.2 < hi).map (·.1) =
      (l.take (hi - k)).drop (lo - k) := by
  induction l generalizing k with
  | nil => simp
  | cons a r ih =>
    rw [List.zipIdx_cons, List.filter_cons]
    by_cases hhi : k < hi
    · have htake : hi - k = hi - (k + 1) + 1 := by omega
      rw [htake, List.take_succ_cons]
      by_cases hlo : lo ≤ k
      · have hdrop : lo - k = 0 := by omega
        have hdrop' : lo - (k + 1) = 0 := by omega
        rw [if_pos (by simpa using ⟨hlo, hhi⟩), List.map_cons, ih, hdrop, hdrop', List.drop_zero,
          List.drop_zero]
      · have hdrop : lo - k = lo - (k + 1) + 1 := by omega
        rw [if_neg (by simpa using fun h => absurd h hlo), ih, hdrop, List.drop_succ_cons]
    · have htake : hi - k = 0 := by omega
      have htake' : hi - (k + 1) = 0 := by omega
      rw [if_neg (by simp [hhi]), ih, htake, htake', List.take_zero, List.drop_nil, List.take_zero,
        List.drop_nil]

/-- Counting a rank from the front needs no more than 64 bits, as long as the number of members
does not. -/
theorem fits_rankPlace {n : Nat} {rank : Int} (hn : (n : Int) ≤ Integral.greatest)
    (hrank : Integral.fits rank = true) : Integral.fits (rankPlace n rank) = true := by
  simp only [Integral.fits, Bool.and_eq_true, decide_eq_true_eq] at hrank ⊢
  rw [rankPlace]
  split
  · exact hrank
  · omega

/-- The window of a range of ranks goes from the first place to the last one that there is. -/
theorem rankWindow_cases (n : Nat) (start stop : Int) :
    (rankWindow n start stop = none ∧
      min (rankPlace n stop + 1).toNat n ≤ (rankPlace n start).toNat) ∨
    ∃ last, rankWindow n start stop = some ((rankPlace n start).toNat, last) ∧
      (rankPlace n start).toNat ≤ last ∧ min (rankPlace n stop + 1).toNat n = last + 1 := by
  -- both ways to count from the front agree on what is not before the first place
  obtain ⟨first, hfirst⟩ : ∃ first : Int, first = if start < 0 then max (n + start) 0 else start :=
    ⟨_, rfl⟩
  obtain ⟨last, hlast⟩ : ∃ last : Int, last = if stop < 0 then n + stop else min stop (n - 1) :=
    ⟨_, rfl⟩
  have hstart : (rankPlace n start).toNat = first.toNat ∧ 0 ≤ first := by
    rw [rankPlace, hfirst]
    split <;> split <;> omega
  have hstop : min (rankPlace n stop + 1).toNat n = (last + 1).toNat := by
    rw [rankPlace, hlast]
    split <;> split <;> omega
  rw [hstart.1, hstop]
  simp only [rankWindow, ← hfirst, ← hlast]
  by_cases hempty : n = 0 ∨ last < first ∨ n ≤ first ∨ last < 0
  · rw [if_pos hempty]
    refine .inl ⟨rfl, ?_⟩
    split at hlast <;> omega
  · rw [if_neg hempty]
    exact .inr ⟨last.toNat, rfl, by omega, by omega⟩

/-- **A range of ranks selects a range of places**, whatever the two ranks are. -/
theorem Selection.pick_rank (l : List (Bytes × Score)) (start stop : Int) :
    (Selection.rank start stop).pick l =
      (l.zipIdx.filter fun e =>
        rankPlace l.length start ≤ e.2 ∧ e.2 ≤ rankPlace l.length stop).map (·.1) := by
  -- places are natural numbers, so the two tests can be made on natural numbers
  have hplaces : (l.zipIdx.filter fun e =>
        rankPlace l.length start ≤ e.2 ∧ e.2 ≤ rankPlace l.length stop).map (·.1) =
      (l.take (rankPlace l.length stop + 1).toNat).drop (rankPlace l.length start).toNat := by
    rw [← Nat.sub_zero (rankPlace l.length stop + 1).toNat,
      ← Nat.sub_zero (rankPlace l.length start).toNat, ← filter_zipIdx]
    congr 2
    funext e
    rw [decide_eq_decide]
    omega
  rw [hplaces, pick, List.drop_take]
  rcases rankWindow_cases l.length start stop with ⟨hnone, hle⟩ | ⟨last, hsome, hle, hlast⟩
  · rw [hnone, eq_comm, ← List.drop_take, List.drop_eq_nil_iff, List.length_take]
    exact hle
  · rw [hsome]
    show (l.drop _).take (last - _ + 1) = _
    rw [List.take_eq_take_iff, List.length_drop]
    omega

/-! ### The limit -/

theorem Portion.mem_of_mem_of {α : Type} {portion : Portion} {l : List α} {a : α}
    (h : a ∈ portion.of l) : a ∈ l := by
  rw [Portion.of] at h
  split at h
  · exact List.mem_of_mem_drop h
  · exact List.mem_of_mem_drop (List.mem_of_mem_take h)

namespace RangeQuery

variable {q : RangeQuery}

/-- The limit as the store reads it. -/
def portion (q : RangeQuery) : Portion :=
  match q.limit with
  | none => {}
  | some (offset, count) => (({} : RangeOptions).limited offset count).portion

theorem portion_of {α : Type} (q : RangeQuery) (l : List α) : q.portion.of l = q.limited l := by
  rw [portion, limited]
  cases q.limit with
  | none => rfl
  | some limit =>
    obtain ⟨offset, count⟩ := limit
    by_cases hoffset : offset < 0
    · -- a negative offset keeps nothing of what is behind the first member
      simp only [RangeOptions.limited, if_pos hoffset, Portion.of, List.take_zero]
    · by_cases hcount : count < 0
      · simp only [RangeOptions.limited, if_neg hoffset, if_pos hcount, Portion.of]
      · simp only [RangeOptions.limited, if_neg hoffset, if_neg hcount, Portion.of]

theorem mem_of_mem_limited {α : Type} (q : RangeQuery) {l : List α} {a : α}
    (h : a ∈ q.limited l) : a ∈ l := by
  rw [← portion_of] at h
  exact Portion.mem_of_mem_of h

theorem mem_of_mem_selectFrom (q : RangeQuery) {l : List (Bytes × Score)} {e : Bytes × Score}
    (h : e ∈ q.selectFrom l) : e ∈ l := by
  rw [selectFrom] at h
  split at h
  · obtain ⟨a, ha, rfl⟩ := List.mem_map.1 h
    exact List.fst_mem_of_mem_zipIdx (List.mem_filter.1 ha).1
  · exact (List.mem_filter.1 (q.mem_of_mem_limited h)).1
  · exact (List.mem_filter.1 (q.mem_of_mem_limited h)).1

/-- The whole numbers of the query fit into 64 bits, and no score bound is `nan`. -/
structure Sendable (q : RangeQuery) : Prop where
  rank : ∀ start stop, q.selection = .rank start stop →
    Integral.fits start = true ∧ Integral.fits stop = true
  score : ∀ range, q.selection = .score range → range.min.Numeric ∧ range.max.Numeric
  limit : ∀ offset count, q.limit = some (offset, count) →
    Integral.fits offset = true ∧ Integral.fits count = true

/-- The whole numbers of the query fit into 64 bits, and its score bounds were read from texts or
made of numbers. -/
structure WellFormed (q : RangeQuery) : Prop where
  rank : ∀ start stop, q.selection = .rank start stop →
    Integral.fits start = true ∧ Integral.fits stop = true
  score : ∀ range, q.selection = .score range → range.min.Given ∧ range.max.Given
  limit : ∀ offset count, q.limit = some (offset, count) →
    Integral.fits offset = true ∧ Integral.fits count = true

theorem WellFormed.scored (h : q.WellFormed) : WellFormed { q with withScores := true } :=
  ⟨h.rank, h.score, h.limit⟩

theorem WellFormed.sendable (h : q.WellFormed) : q.Sendable :=
  ⟨h.rank, fun range hq => (h.score range hq).imp (·.numeric) (·.numeric), h.limit⟩

theorem Sendable.scored (h : q.Sendable) : Sendable { q with withScores := true } :=
  ⟨h.rank, h.score, h.limit⟩

end RangeQuery

namespace RangeOptions

theorem read_withScores (allowLimit : Bool) (o : RangeOptions) (r : List Bytes) :
    read true allowLimit o (Bytes.ofString "WITHSCORES" :: r) =
      read true allowLimit { o with withScores := true } r := by
  have hword : Bytes.isWord "WITHSCORES" (Bytes.ofString "WITHSCORES") = true := by decide
  rw [read.eq_def]
  simp only [hword, Bool.and_self, if_true]

theorem read_limit (allowScores : Bool) (o : RangeOptions) {offset count : Int}
    (hoffset : Integral.fits offset = true) (hcount : Integral.fits count = true)
    (r : List Bytes) :
    read allowScores true o
        (Bytes.ofString "LIMIT" :: Integral.token offset :: Integral.token count :: r) =
      read allowScores true (o.limited offset count) r := by
  have hword : Bytes.isWord "WITHSCORES" (Bytes.ofString "LIMIT") = false := by decide
  have hword' : Bytes.isWord "LIMIT" (Bytes.ofString "LIMIT") = true := by decide
  rw [read.eq_def]
  simp only [hword, hword', Bool.and_false, Bool.false_eq_true, if_false, Bool.and_self, if_true,
    Integral.ofToken?_token hoffset, Integral.ofToken?_token hcount]

/-- The options of a query read back, where the command has them. -/
theorem read_options {q : RangeQuery} (h : q.Sendable) {allowScores allowLimit : Bool}
    (hscores : q.withScores = true → allowScores = true)
    (hlimit : q.limit.isSome = true → allowLimit = true) :
    read allowScores allowLimit {} q.options = .ok ⟨q.withScores, q.portion⟩ := by
  -- the limit is read with or without scores asked for
  have hrest : ∀ withScores, read allowScores allowLimit { withScores }
      (match q.limit with
        | none => []
        | some (offset, count) =>
          [Bytes.ofString "LIMIT", Integral.token offset, Integral.token count]) =
      .ok ⟨withScores, q.portion⟩ := by
    intro withScores
    rw [RangeQuery.portion]
    cases hl : q.limit with
    | none => exact read.eq_1 ..
    | some limit =>
      obtain ⟨offset, count⟩ := limit
      obtain ⟨hoffset, hcount⟩ := h.limit offset count hl
      have hallow : allowLimit = true := hlimit (by rw [hl]; rfl)
      subst hallow
      show read allowScores true _ [_, _, _] = _
      rw [read_limit allowScores _ hoffset hcount, read.eq_def]
      simp only [limited]
      split <;> rfl
  rw [RangeQuery.options]
  cases hq : q.withScores with
  | false => exact hrest false
  | true =>
    have hallow : allowScores = true := hscores hq
    subst hallow
    rw [if_pos rfl]
    exact (read_withScores allowLimit {} _).trans (hrest true)

end RangeOptions

/-! ### The request -/

theorem Arguments.rangeOptions_tokens {q : RangeQuery} (h : q.Sendable)
    {allowScores allowLimit : Bool} (hscores : q.withScores = true → allowScores = true)
    (hlimit : q.limit.isSome = true → allowLimit = true) :
    rangeOptions allowScores allowLimit q.options = .ok (⟨q.withScores, q.portion⟩, []) := by
  rw [rangeOptions, RangeOptions.read_options h hscores hlimit]
  rfl

namespace RangeQuery

variable {q : RangeQuery} {key : Bytes} {c : Command}

/-- A query is refused for its bounds alone. -/
theorem command_eq_ok_iff :
    q.command key = .ok c ↔
      ∃ bounds, q.bounds = .ok bounds ∧ c = ⟨q.kind, key :: (bounds ++ q.options)⟩ := by
  rw [command]
  cases q.bounds with
  | error f => simp [Bind.bind, Except.bind]
  | ok bounds => simp [Bind.bind, Except.bind, Pure.pure, Except.pure, eq_comm]

theorem bounds_of_rank {start stop : Int} {bounds : List Bytes}
    (hq : q.selection = .rank start stop) (h : q.bounds = .ok bounds) :
    q.limit.isSome = false ∧ bounds = [Integral.token start, Integral.token stop] := by
  rw [RangeQuery.bounds, hq] at h
  obtain ⟨hlimit, h⟩ := Except.ite_error_eq_ok_iff.1 h
  exact ⟨by simpa using hlimit, (Except.ok.inj h).symm⟩

theorem bounds_of_score {range : ScoreRange} {bounds : List Bytes}
    (hq : q.selection = .score range) (h : q.bounds = .ok bounds) :
    bounds = boundTokens ScoreBound.token q.reverse range.min range.max := by
  rw [RangeQuery.bounds, hq] at h
  rw [boundTokens]
  by_cases hreverse : q.reverse = true
  · simp only [if_pos hreverse] at h
    rw [if_pos hreverse, Except.ok.inj h]
  · simp only [if_neg hreverse] at h
    rw [if_neg hreverse, Except.ok.inj h]

theorem bounds_of_lex {range : LexRange} {bounds : List Bytes}
    (hq : q.selection = .lex range) (h : q.bounds = .ok bounds) :
    q.withScores = false ∧
      bounds = boundTokens LexBound.token q.reverse range.min range.max := by
  rw [RangeQuery.bounds, hq] at h
  obtain ⟨hscores, h⟩ := Except.ite_error_eq_ok_iff.1 h
  rw [boundTokens]
  refine ⟨by simpa using hscores, ?_⟩
  by_cases hreverse : q.reverse = true
  · simp only [if_pos hreverse] at h
    rw [if_pos hreverse, Except.ok.inj h]
  · simp only [if_neg hreverse] at h
    rw [if_neg hreverse, Except.ok.inj h]

/-- A query that is not by name may ask for scores as well. -/
theorem exists_command_scored (hq : ∀ range, q.selection ≠ .lex range)
    (h : q.command key = .ok c) :
    ∃ c', command { q with withScores := true } key = .ok c' := by
  obtain ⟨bounds, hbounds, -⟩ := command_eq_ok_iff.1 h
  have hsame : RangeQuery.bounds { q with withScores := true } = q.bounds := by
    obtain ⟨selection, reverse, limit, withScores⟩ := q
    cases selection with
    | rank start stop => rfl
    | score range => rfl
    | lex range => exact absurd rfl (hq range)
  exact ⟨_, command_eq_ok_iff.2 ⟨bounds, hsame.trans hbounds, rfl⟩⟩

end RangeQuery

/-- What is selected on where the selection was written. -/
def Selection.received : Selection → Selection
  | .score range => .score range.received
  | selection => selection

/-- What the store finds for the query, with the bounds as it received them. -/
def RangeQuery.found (q : RangeQuery) (z : SortedSet) : List (Bytes × Score) :=
  q.portion.of (q.selection.received.pick (z.ordered q.reverse))

/-- The request of a query is read back as the query, but for what its bounds lost on the way. -/
theorem Request.ofCommand_range [GlobEngine] {q : RangeQuery} {key : Bytes} {c : Command}
    (h : q.Sendable) (hc : q.command key = .ok c) :
    ofCommand c =
      .ok (.askSet key (.range q.selection.received q.reverse q.withScores q.portion)) := by
  obtain ⟨bounds, hbounds, rfl⟩ := RangeQuery.command_eq_ok_iff.1 hc
  cases hselection : q.selection with
  | rank start stop =>
    obtain ⟨hlimit, rfl⟩ := RangeQuery.bounds_of_rank hselection hbounds
    obtain ⟨hstart, hstop⟩ := h.rank start stop hselection
    have hkind : reader q.kind = setQuestion (rankRange q.reverse) := by
      rw [RangeQuery.kind, hselection]
      cases q.reverse <;> rfl
    refine ofCommand_setQuestion hkind ?_
    show rankRange q.reverse (_ :: _ :: q.options) = _
    rw [rankRange, Arguments.bind_of_ok (Arguments.integer_token hstart _),
      Arguments.bind_of_ok (Arguments.integer_token hstop _),
      Arguments.bind_of_ok (Arguments.rangeOptions_tokens h (fun _ => rfl)
        fun hl => absurd hl (by simp [hlimit]))]
    rfl
  | score range =>
    obtain rfl := RangeQuery.bounds_of_score hselection hbounds
    obtain ⟨hmin, hmax⟩ := h.score range hselection
    have hkind : reader q.kind = setQuestion (byScore q.reverse) := by
      rw [RangeQuery.kind, hselection]
      cases q.reverse <;> rfl
    refine ofCommand_setQuestion hkind ?_
    rw [byScore, Arguments.bind_of_ok (Arguments.scoreRange_tokens hmin hmax _ _),
      Arguments.bind_of_ok (Arguments.rangeOptions_tokens h (fun _ => rfl) fun _ => rfl)]
    rfl
  | lex range =>
    obtain ⟨hscores, rfl⟩ := RangeQuery.bounds_of_lex hselection hbounds
    have hkind : reader q.kind = setQuestion (byName q.reverse) := by
      rw [RangeQuery.kind, hselection]
      cases q.reverse <;> rfl
    refine ofCommand_setQuestion hkind ?_
    rw [byName, Arguments.bind_of_ok (Arguments.lexRange_tokens _ _ _),
      Arguments.bind_of_ok (Arguments.rangeOptions_tokens h
        (fun hs => absurd hs (by simp [hscores])) fun _ => rfl), hscores]
    rfl

/-- Bounds that were read from texts or made of numbers lose nothing on the way. -/
theorem RangeQuery.WellFormed.received_eq {q : RangeQuery} (h : q.WellFormed) :
    q.selection.received = q.selection := by
  cases hselection : q.selection with
  | rank start stop => rfl
  | lex range => rfl
  | score range =>
    obtain ⟨hmin, hmax⟩ := h.score range hselection
    rw [Selection.received, ScoreRange.received, hmin.received_eq, hmax.received_eq]

/-- **The request of a query is read back as the query.** -/
theorem Request.ofCommand_rangeRead [GlobEngine] {q : RangeQuery} {key : Bytes} {c : Command}
    (h : q.WellFormed) (hc : q.command key = .ok c) :
    ofCommand c = .ok (.askSet key (.range q.selection q.reverse q.withScores q.portion)) := by
  rw [ofCommand_range h.sendable hc, h.received_eq]

/-! ### The answer -/

namespace SortedSet

variable {z : SortedSet} {q : RangeQuery}

/-- The store selects what the query asks for. -/
theorem Indexed.pick_eq_select (h : z.Indexed) {key : Bytes} {c : Command}
    (hc : q.command key = .ok c) :
    q.portion.of (q.selection.pick (z.ordered q.reverse)) = q.select z := by
  obtain ⟨bounds, hbounds, -⟩ := RangeQuery.command_eq_ok_iff.1 hc
  rw [h.ordered_eq, RangeQuery.select, RangeQuery.selectFrom, RangeQuery.portion_of]
  cases hselection : q.selection with
  | rank start stop =>
    -- a limit on ranks was refused
    have hlimit : q.limit = none := by
      simpa using (RangeQuery.bounds_of_rank hselection hbounds).1
    rw [RangeQuery.limited, hlimit, Selection.pick_rank]
  | score range => rfl
  | lex range => rfl

theorem Indexed.found_eq_select (h : z.Indexed) (hq : q.WellFormed) {key : Bytes} {c : Command}
    (hc : q.command key = .ok c) : q.found z = q.select z := by
  rw [RangeQuery.found, hq.received_eq, h.pick_eq_select hc]

/-- What is selected is a member with its score. -/
theorem get?_of_mem_select {e : Bytes × Score} (he : e ∈ q.select z) :
    z.scores.get? e.1 = some e.2 := by
  have hmem : e ∈ z.byRank := by
    have hlist := q.mem_of_mem_selectFrom he
    split at hlist
    · exact List.mem_reverse.1 hlist
    · exact hlist
  exact ByteMap.get?_eq_some_iff.2 (List.mem_mergeSort.1 hmem)

end SortedSet

theorem Store.apply_askSet [GlobEngine] {s : Store} {key : Bytes} {z : SortedSet} {query : SetQuery}
    {c : Command} (hc : Request.ofCommand c = .ok (.askSet key query))
    (hz : s.read .sortedSet key = .ok z) : s.apply c = (query.answer z, s) := by
  simp only [apply, hc, answer, hz]
  rfl

theorem Store.apply_range [GlobEngine] {s : Store} {key : Bytes} {z : SortedSet} {q : RangeQuery}
    {c : Command} (hz : s.read .sortedSet key = .ok z) (hq : q.Sendable)
    (hc : q.command key = .ok c) :
    s.apply c = (.members q.withScores (q.found z), s) :=
  apply_askSet (Request.ofCommand_range hq hc) hz

namespace Client

variable {γ ε : Type} {s : Store} {key : Bytes} {z : SortedSet} {q : RangeQuery} {c : Command}
  {options : ClientOptions}

/-- One range read over a store, up to the reading of its elements. -/
theorem attempt_range_found [GlobEngine] {reader : Reader ε} (hz : s.read .sortedSet key = .ok z)
    (hq : q.Sendable) (hc : q.command key = .ok c) (hexpect : q.expect reader = .ok ()) (g : γ) :
    (blocking Transport.store options).attempt (Call.range reader key q) s g =
      (collect reader c.name ((q.found z).flatMap fun e =>
        if q.withScores then [.value e.1, .value (Score.token e.2)] else [.value e.1]), s, g) := by
  have hcall : Call.range (γ := γ) reader key q = .ok (.collected reader c) := by
    rw [Call.range, hexpect, hc]
    rfl
  rw [hcall]
  simp only [attempt, run, blocking, Transport.store, Prepared.collected, Prepared.reading,
    Store.apply_range hz hq hc]
  rfl

/-- A range read with the bounds that it asks for. -/
theorem attempt_range [GlobEngine] {reader : Reader ε} (hs : s.WellFormed)
    (hz : s.read .sortedSet key = .ok z) (hq : q.WellFormed) (hc : q.command key = .ok c)
    (hexpect : q.expect reader = .ok ()) (g : γ) :
    (blocking Transport.store options).attempt (Call.range reader key q) s g =
      (collect reader c.name ((q.select z).flatMap fun e =>
        if q.withScores then [.value e.1, .value (Score.token e.2)] else [.value e.1]), s, g) := by
  rw [attempt_range_found hz hq.sendable hc hexpect, (hs.read hz).1.found_eq_select hq hc]

/-- Members alone. -/
theorem collect_members (command : String) (l : List (Bytes × Score)) :
    collect .bytes command (l.flatMap fun e => [.value e.1]) = .ok (l.map (·.1)) := by
  refine collect_of_elements (Nat.mod_one _) ?_
  rw [Reader.bytes, Reader.elements, List.map_flatMap, List.map_map, List.map_eq_flatMap]
  rfl

/-- Members with their scores, which are sent as text and read back. -/
theorem collect_scored (command : String) {l : List (Bytes × Score)}
    (h : ∀ e ∈ l, e.2.isNaN = false) :
    collect .scoredValue command (l.flatMap fun e => [.value e.1, .value (Score.token e.2)]) =
      .ok (l.map fun e => ⟨e.2, e.1⟩) := by
  refine collect_pairs fun e he => ?_
  simp only [Reply.readRequiredScore_token (h e he)]
  rfl

/-- **A range read answers exactly what it asks for**, the members alone or each with its score.
Ranks may be any 64-bit integers: to count one from the front needs no more bits. -/
theorem zrange_of_reachable [GlobEngine] (hs : s.Reachable) (hz : s.read .sortedSet key = .ok z)
    (hq : q.WellFormed) (hplain : q.withScores = false) (hc : q.command key = .ok c) (g : γ) :
    (blocking Transport.store options).attempt (Call.zrange key q) s g =
        (.ok ((q.select z).map (·.1)), s, g) ∧
      ((∀ range, q.selection ≠ .lex range) →
        (blocking Transport.store options).attempt (Call.zrangeWithScores key q) s g =
          (.ok ((q.select z).map fun e => ⟨e.2, e.1⟩), s, g)) ∧
      ((z.size : Int) ≤ Integral.greatest →
        ∀ rank, Integral.fits rank = true → Integral.fits (rankPlace z.size rank) = true) := by
  refine ⟨?_, fun hlex => ?_, fun hsize rank => fits_rankPlace hsize⟩
  · have hexpect : q.expect .bytes = .ok () := by
      rw [RangeQuery.expect, hplain]
      rfl
    rw [Call.zrange, attempt_range hs.wellFormed hz hq hc hexpect, hplain]
    exact congrArg (·, s, g) (collect_members _ _)
  · obtain ⟨c', hc'⟩ := RangeQuery.exists_command_scored hlex hc
    have hnumeric : ∀ e ∈ q.select z, e.2.isNaN = false := fun e he =>
      (hs.wellFormed.read hz).2 e.1 e.2 (SortedSet.get?_of_mem_select he)
    rw [Call.zrangeWithScores, attempt_range hs.wellFormed hz hq.scored hc' rfl]
    exact congrArg (·, s, g) (collect_scored _ hnumeric)

attribute [local instance] Glob.engine

/-- The members above zero from the highest on, but for the first of them. -/
theorem zrange_above_zero :
    let s := Store.empty.run
      [.apply ⟨.zadd, ["z", "0", "a", "inf", "b", "-inf", "c", "inf", "d"].map Bytes.ofString⟩]
    let q : RangeQuery :=
      { selection := .score ⟨.exclusive (.zero false), .posInf⟩, reverse := true,
        limit := some (1, -1) }
    ScoreBound.parse "(0" = .ok (.exclusive (.zero false)) ∧
      (blocking Transport.store {}).attempt (Call.zrange (Bytes.ofString "z") q) s () =
        (.ok [Bytes.ofString "b"], s, ()) ∧
      (blocking Transport.store {}).attempt (Call.zrangeWithScores (Bytes.ofString "z") q) s () =
        (.ok [⟨.inf false, Bytes.ofString "b"⟩], s, ()) := by
  intro s q
  have hs : s.Reachable := ⟨_, rfl⟩
  have hbound : ScoreBound.parse "(0" = .ok (.exclusive (.zero false)) := rfl
  have hq : q.WellFormed := by
    refine RangeQuery.WellFormed.mk ?_ ?_ ?_
    · exact fun start stop h => nomatch h
    · intro range h
      cases h
      exact ⟨.parsed hbound, .number (s := .inf false) rfl⟩
    · intro offset count h
      cases h
      decide
  obtain ⟨z, hz, hranking⟩ : ∃ z, s.read .sortedSet (Bytes.ofString "z") = .ok z ∧ z.ascending =
      [(Bytes.ofString "c", .inf true), (Bytes.ofString "a", .zero false),
        (Bytes.ofString "b", .inf false), (Bytes.ofString "d", .inf false)] := ⟨_, rfl, rfl⟩
  have hselect : q.select z = [(Bytes.ofString "b", .inf false)] := by
    rw [RangeQuery.select, ← (hs.wellFormed.read hz).1.ascending_eq_byRank, hranking]
    rfl
  refine ⟨hbound, ?_, ?_⟩
  · rw [(zrange_of_reachable hs hz hq rfl rfl ()).1, hselect]
    rfl
  · rw [(zrange_of_reachable hs hz hq rfl rfl ()).2.1 (fun range h => nomatch h), hselect]
    rfl

end Client

end KeyWalk
