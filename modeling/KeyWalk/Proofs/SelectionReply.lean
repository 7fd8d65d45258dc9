import KeyWalk.Proofs.OneCollection

/-!
Counting, reading and removing one selection.

The commands about a selection take the same two tokens behind the key: two ranks, or the lower and
the upper bound of a range.  `selection.SpelledBy lower upper` says that the store reads the
selection from these tokens, in whatever way the numbers in them are written.

* `Selection.counting?`, `Selection.reading`, `Selection.removing`: the commands,
* `Request.ofCommand_counting`, `Request.ofCommand_reading`, `Request.ofCommand_removing`: what they
  ask,
* `Store.apply_counting`, `Store.apply_reading`, `Store.apply_removing`: how they are answered,
* `Store.apply_about_hash`: under a key that holds a hash all of them are refused.
-/

namespace KeyWalk

variable {selection : Selection} {lower upper key : Bytes}

namespace Selection

/-- The two tokens spell the selection: its ranks, or its lower and its upper bound. -/
def SpelledBy (lower upper : Bytes) : Selection → Prop
  | rank start stop =>
    Integral.ofToken? lower = some start ∧ Integral.ofToken? upper = some stop
  | score range =>
    (Utf8.decode? lower >>= ScoreBound.ofText?) = some range.min ∧
      (Utf8.decode? upper >>= ScoreBound.ofText?) = some range.max
  | lex range => LexBound.ofToken? lower = some range.min ∧ LexBound.ofToken? upper = some range.max

/-- The command that counts what is selected.  There is none for ranks. -/
def counting? : Selection → Option CommandKind
  | rank _ _ => none
  | score _ => some .zcount
  | lex _ => some .zlexcount

/-- The command that reads what is selected, in ascending order. -/
def reading : Selection → CommandKind
  | rank _ _ => .zrange
  | score _ => .zrangebyscore
  | lex _ => .zrangebylex

/-- The command that removes what is selected. -/
def removing : Selection → CommandKind
  | rank _ _ => .zremrangebyrank
  | score _ => .zremrangebyscore
  | lex _ => .zremrangebylex

/-- Ranks that there are select the places from the first one to the last one. -/
theorem pick_ranks {l : List (Bytes × Score)} {first last : Nat} (hle : first ≤ last)
    (hlast : last < l.length) :
    (rank first last).pick l = (l.drop first).take (last - first + 1) := by
  have hwindow : rankWindow l.length first last = some (first, last) := by
    rw [rankWindow, if_neg (by omega), if_neg (by omega), if_neg (by omega)]
    congr 2
    omega
  rw [pick, hwindow]

end Selection

/-! ### The tokens -/

namespace Arguments

theorem integer_of_token {token : Bytes} {n : Int} (h : Integral.ofToken? token = some n)
    (r : List Bytes) : integer (token :: r) = .ok (n, r) :=
  integer_eq_ok_iff.2 ⟨token, h, rfl⟩

theorem scoreRange_of_tokens {range : ScoreRange}
    (h : (Selection.score range).SpelledBy lower upper) (r : List Bytes) :
    scoreRange false (lower :: upper :: r) = .ok (range, r) := by
  have hbound : ∀ {token : Bytes} {b : ScoreBound} (r : List Bytes),
      (Utf8.decode? token >>= ScoreBound.ofText?) = some b →
      scoreBound (token :: r) = .ok (b, r) := by
    intro token b r hb
    rw [scoreBound, hb]
  rw [scoreRange, bind_of_ok (hbound _ h.1), bind_of_ok (hbound _ h.2)]
  rfl

theorem lexRange_of_tokens {range : LexRange} (h : (Selection.lex range).SpelledBy lower upper)
    (r : List Bytes) : lexRange false (lower :: upper :: r) = .ok (range, r) := by
  have hbound : ∀ {token : Bytes} {b : LexBound} (r : List Bytes),
      LexBound.ofToken? token = some b → lexBound (token :: r) = .ok (b, r) := by
    intro token b r hb
    rw [lexBound, bind_of_ok (next_cons _ _), hb, require_some]
  rw [lexRange, bind_of_ok (hbound _ h.1), bind_of_ok (hbound _ h.2)]
  rfl

/-- The option that asks for scores, or none. -/
def scoreOption (withScores : Bool) : List Bytes :=
  if withScores then [Bytes.ofString "WITHSCORES"] else []

theorem rangeOptions_nil (allowScores allowLimit : Bool) :
    rangeOptions allowScores allowLimit [] = .ok ({}, []) := by
  rw [rangeOptions, RangeOptions.read]
  rfl

theorem rangeOptions_scoreOption (allowLimit withScores : Bool) :
    rangeOptions true allowLimit (scoreOption withScores) = .ok ({ withScores }, []) := by
  cases withScores with
  | false => exact rangeOptions_nil true allowLimit
  | true =>
    rw [rangeOptions, scoreOption, if_pos rfl, RangeOptions.read_withScores, RangeOptions.read]
    rfl

end Arguments

/-! ### The requests -/

namespace Request

open Arguments

theorem rankRange_of_tokens {start stop : Int}
    (h : (Selection.rank start stop).SpelledBy lower upper) (reverse withScores : Bool) :
    rankRange reverse (lower :: upper :: scoreOption withScores) =
      .ok (.range (.rank start stop) reverse withScores {}, []) := by
  rw [rankRange, bind_of_ok (integer_of_token h.1 _), bind_of_ok (integer_of_token h.2 _),
    bind_of_ok (rangeOptions_scoreOption false withScores)]
  rfl

variable [GlobEngine]

theorem ofCommand_counting {kind : CommandKind} (h : selection.SpelledBy lower upper)
    (hkind : selection.counting? = some kind) :
    ofCommand ⟨kind, [key, lower, upper]⟩ = .ok (.askSet key (.count selection)) := by
  cases selection with
  | rank start stop => cases hkind
  | score range =>
    cases hkind
    exact ofCommand_setQuestion rfl (bind_of_ok (scoreRange_of_tokens h []))
  | lex range =>
    cases hkind
    exact ofCommand_setQuestion rfl (bind_of_ok (lexRange_of_tokens h []))

/-- Scores can be asked for unless the range is one of names. -/
theorem ofCommand_reading {withScores : Bool} (h : selection.SpelledBy lower upper)
    (hscores : withScores = false ∨ selection.reading ≠ .zrangebylex) :
    ofCommand ⟨selection.reading, key :: lower :: upper :: scoreOption withScores⟩ =
      .ok (.askSet key (.range selection false withScores {})) := by
  cases selection with
  | rank start stop =>
    have hkind : reader .zrange = setQuestion (rankRange false) := rfl
    exact ofCommand_setQuestion hkind (rankRange_of_tokens h false withScores)
  | score range =>
    have hkind : reader .zrangebyscore = setQuestion (byScore false) := rfl
    refine ofCommand_setQuestion hkind ?_
    rw [byScore, bind_of_ok (scoreRange_of_tokens h _),
      bind_of_ok (rangeOptions_scoreOption true withScores)]
    rfl
  | lex range =>
    obtain rfl : withScores = false := hscores.resolve_right fun hlex => hlex rfl
    have hkind : reader .zrangebylex = setQuestion (byName false) := rfl
    refine ofCommand_setQuestion hkind ?_
    rw [byName, bind_of_ok (lexRange_of_tokens h _)]
    exact bind_of_ok (rangeOptions_nil false true)

theorem ofCommand_zrevrange {start stop : Int}
    (h : (Selection.rank start stop).SpelledBy lower upper) :
    ofCommand ⟨.zrevrange, [key, lower, upper]⟩ =
      .ok (.askSet key (.range (.rank start stop) true false {})) := by
  have hkind : reader .zrevrange = setQuestion (rankRange true) := rfl
  exact ofCommand_setQuestion hkind (rankRange_of_tokens h true false)

theorem ofCommand_removing (h : selection.SpelledBy lower upper) :
    ofCommand ⟨selection.removing, [key, lower, upper]⟩ =
      .ok (.changeSet key (.removeSelected selection)) := by
  cases selection with
  | rank start stop =>
    refine ofCommand_about .changeSet rfl ?_
    rw [bind_of_ok (integer_of_token h.1 _), bind_of_ok (integer_of_token h.2 _)]
    rfl
  | score range => exact ofCommand_about .changeSet rfl (bind_of_ok (scoreRange_of_tokens h []))
  | lex range => exact ofCommand_about .changeSet rfl (bind_of_ok (lexRange_of_tokens h []))

end Request

/-! ### The replies -/

theorem Reply.members_plain (l : List (Bytes × Score)) :
    members false l = .array (l.map fun e => .value e.1) := by
  rw [List.map_eq_flatMap]
  rfl

namespace Store

open Arguments

variable {s : Store} {z : SortedSet}

theorem not_holdsHash_of_type (h : (s.get? key).map Collection.type = some .sortedSet) :
    ¬s.HoldsHash key := by
  rintro ⟨m, hm⟩
  rw [hm] at h
  cases h

variable [GlobEngine]

theorem apply_counting {kind : CommandKind} (hread : s.read .sortedSet key = .ok z)
    (h : selection.SpelledBy lower upper) (hkind : selection.counting? = some kind) :
    s.apply ⟨kind, [key, lower, upper]⟩ = (.count (selection.pick z.ascending).length, s) :=
  apply_askSet (Request.ofCommand_counting h hkind) hread

theorem apply_reading_scored {withScores : Bool}
    (hread : s.read .sortedSet key = .ok z) (h : selection.SpelledBy lower upper)
    (hscores : withScores = false ∨ selection.reading ≠ .zrangebylex) :
    s.apply ⟨selection.reading, key :: lower :: upper :: scoreOption withScores⟩ =
      (.members withScores (selection.pick z.ascending), s) :=
  apply_askSet (Request.ofCommand_reading h hscores) hread

theorem apply_reading (hread : s.read .sortedSet key = .ok z)
    (h : selection.SpelledBy lower upper) :
    s.apply ⟨selection.reading, [key, lower, upper]⟩ =
      (.array ((selection.pick z.ascending).map fun e => .value e.1), s) := by
  rw [← Reply.members_plain]
  exact apply_reading_scored hread h (.inl rfl)

theorem apply_zrevrange {start stop : Int} (hread : s.read .sortedSet key = .ok z)
    (h : (Selection.rank start stop).SpelledBy lower upper) :
    s.apply ⟨.zrevrange, [key, lower, upper]⟩ = (.array
      (((Selection.rank start stop).pick z.ascending.reverse).map fun e => .value e.1), s) := by
  rw [← Reply.members_plain]
  exact apply_askSet (Request.ofCommand_zrevrange h) hread

theorem apply_removing (hread : s.read .sortedSet key = .ok z)
    (h : selection.SpelledBy lower upper) :
    s.apply ⟨selection.removing, [key, lower, upper]⟩ =
      (.count (selection.pick z.ascending).length, s.putBack .sortedSet key
        (z.removeAll ((selection.pick z.ascending).map (·.1))).2) := by
  have hclean : Clean (SetUpdate.removeSelected selection).run := SetUpdate.run_clean _
  rw [apply_of_ofCommand (Request.ofCommand_removing h), answer, write_eq _ _ _ hclean, hread]
  simp only [SetUpdate.run, List.length_map]
  rfl

/-- A hash is no sorted set, whatever is asked of it. -/
theorem apply_about_hash {c : Command} {request : Request} (hkey : s.HoldsHash key)
    (hc : Request.ofCommand c = .ok request)
    (hrequest : (∃ query, request = .askSet key query) ∨
      ∃ update, request = .changeSet key update) :
    s.apply c = (.error (Fault.wrongType.message c.kind), s) := by
  have hread : s.read .sortedSet key = .error .wrongType := read_of_holdsHash hkey
  rw [apply_of_ofCommand hc]
  rcases hrequest with ⟨query, rfl⟩ | ⟨update, rfl⟩
  · rw [answer, hread]
    rfl
  · rw [answer, write_eq _ _ _ update.run_clean, hread]
    rfl

end Store

end KeyWalk
