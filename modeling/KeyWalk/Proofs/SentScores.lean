import KeyWalk.Proofs.BoundMeaning
import KeyWalk.Proofs.CallRequest
import KeyWalk.Proofs.NameBoundText
import KeyWalk.Proofs.RangeRead

/-!
The scores that calls send.

No reader of scores takes a `nan`, though a `nan` has a text; so it matters which calls let one
through.  `c.scoreTokens` are the tokens of a command that stand where scores do, by their places
alone, and `Call.Sends c scores bounds` says that a call with these scores and these bounds was not
refused and has the command `c`.

* `Score.legal_bound_iff`: a score can be read where a bound was written, unless it was a `nan`,
* `Call.Sends.carries`: what each call sends, by the checks that it makes,
* `Call.legal_of_sends`: scores, increments and weights are checked, bounds are not.  The command
  has scores in all these places just if none of the bounds is a `nan`; otherwise the store refuses
  the command.

Design notes.  `zadd` is `zaddMulti` with one entry; `zrange` and `zrangeWithScores` are `range`
with the reader of their elements.
-/

namespace KeyWalk

open Arguments

/-! ### The places of scores -/

/-- The token without the parenthesis of a bound that excludes its score. -/
def ScoreBound.bare : Bytes → Bytes
  | [] => []
  | c :: r => if c = 0x28 then r else c :: r

/-- The tokens of the weights behind `n` keys. -/
def weightTokens (n : Nat) (tokens : List Bytes) : List Bytes :=
  match tokens.drop n with
  | [] => []
  | word :: r => if word = Bytes.ofString "WEIGHTS" then r.take n else []

/-- The tokens of a command that stand where scores do: scores, increments, weights and bounds. -/
def Command.scoreTokens (c : Command) : List Bytes :=
  match c.kind, c.args with
  | .zadd, _ :: r => ((pairs? r).getD []).map (·.1)
  | .zincrby, _ :: amount :: _ => [amount]
  | .hincrbyfloat, _ :: _ :: amount :: _ => [amount]
  | .zcount, _ :: r | .zremrangebyscore, _ :: r | .zrangebyscore, _ :: r
  | .zrevrangebyscore, _ :: r => r.take 2
  | .zunionstore, _ :: count :: r | .zinterstore, _ :: count :: r =>
    weightTokens ((Integral.ofToken? count).getD 0).toNat r
  | _, _ => []

/-- A score can be read from the token, in the replies of any command and behind a parenthesis. -/
def Score.Legal (token : Bytes) : Prop :=
  ∀ command : String, ∃ v, ofToken command (ScoreBound.bare token) = .ok v

/-- The bounds of a range as a range read sends them. -/
def RangeQuery.sentBounds (q : RangeQuery) (scores : ScoreRange) : List ScoreBound :=
  if q.reverse then [scores.max, scores.min] else [scores.min, scores.max]

/-- `Sends c scores bounds`: a call with these scores, increments or weights and with these bounds,
in the order in which they are sent, was not refused and has the command `c`. -/
inductive Call.Sends {γ : Type} : Command → List Score → List ScoreBound → Prop
  | zaddMulti {key : Bytes} {entries : List (Score × Bytes)} {p : Prepared γ Int}
      (h : zaddMulti key entries = .ok p) : Sends p.command (entries.map (·.1)) []
  | zincrby {key member : Bytes} {amount : Score} {p : Prepared γ Score}
      (h : zincrby key amount member = .ok p) : Sends p.command [amount] []
  | hincrbyfloat {key field : Bytes} {amount : Score} {p : Prepared γ Score}
      (h : hincrbyfloat key field amount = .ok p) : Sends p.command [amount] []
  | combine {mode : StoreMode} {destination : Bytes} {keys : List Bytes} {args : Option StoreArgs}
      {p : Prepared γ Int} (h : combine mode destination keys args = .ok p) :
      Sends p.command ((args.bind (·.weights)).getD []) []
  | zcount {key : Bytes} {range : ScoreRange} :
      Sends (zcount (γ := γ) key range).command [] [range.min, range.max]
  | zremrangebyscore {key : Bytes} {range : ScoreRange} :
      Sends (zremrangebyscore (γ := γ) key range).command [] [range.min, range.max]
  | range {ε : Type} {reader : Reader ε} {key : Bytes} {q : RangeQuery} {scores : ScoreRange}
      {p : Prepared γ (List ε)} (hq : q.selection = .score scores)
      (h : range reader key q = .ok p) :
      Sends p.command [] (q.sentBounds scores)
  | rangeStream {ε : Type} {reader : Reader ε} {channel : Channel ε γ} {key : Bytes}
      {q : RangeQuery} {scores : ScoreRange} {p : Prepared γ Nat} (hq : q.selection = .score scores)
      (h : rangeStream reader channel key q = .ok p) :
      Sends p.command [] (q.sentBounds scores)

/-! ### Tokens of scores -/

namespace Score

variable {s : Score} {command : String}

/-- A score is accepted where it is written, unless it is no number. -/
theorem ofToken_token_iff : (∃ v, ofToken command (token s) = .ok v) ↔ s.isNaN = false := by
  refine ⟨fun ⟨v, hv⟩ => ?_, fun hs => ⟨s, ofToken_token hs command⟩⟩
  cases hs : s.isNaN with
  | false => rfl
  | true =>
    rw [Binary64.isNaN_iff.1 hs] at hv
    cases hv

/-- No score is written with a parenthesis in front. -/
theorem bare_token : ScoreBound.bare (token s) = token s := by
  cases hs : s.isNaN with
  | true =>
    rw [Binary64.isNaN_iff.1 hs]
    rfl
  | false =>
    cases htoken : token s with
    | nil => rfl
    | cons c r =>
      -- a parenthesis in front of the bytes would be one in front of the text
      refine if_neg fun hc => ?_
      have hfront : Utf8.encode (render s) = Utf8.encode ['('] ++ r := by
        rw [← token, htoken, hc]
        rfl
      obtain ⟨back, hrender, -⟩ := Utf8.exists_of_encode_eq_append hfront
      exact ScoreBound.render_ne_cons hs back hrender

end Score

namespace ScoreBound

variable {b : ScoreBound}

/-- Behind its parenthesis a bound is written like the score it is at. -/
theorem bare_token (b : ScoreBound) : bare b.token = Score.token b.limit := by
  cases b with
  | inclusive v => exact Score.bare_token
  | exclusive v => rfl
  | negInf | posInf => rfl

theorem not_numeric_iff : ¬b.Numeric ↔ b = inclusive .nan ∨ b = exclusive .nan := by
  rw [numeric_iff, Bool.not_eq_false, Binary64.isNaN_iff]
  cases b with
  | inclusive v | exclusive v => simp [limit]
  | negInf | posInf => simp [limit, Binary64.inf]

end ScoreBound

/-- **Where a bound was written a score can be read**, unless the bound is at no number. -/
theorem Score.legal_bound_iff {b : ScoreBound} : Legal b.token ↔ b.Numeric := by
  simp only [Legal, ScoreBound.bare_token, ofToken_token_iff, ScoreBound.numeric_iff,
    forall_const]

theorem Score.legal_token_iff {s : Score} : Legal s.token ↔ s.isNaN = false := by
  simp only [Legal, bare_token, ofToken_token_iff, forall_const]

/-! ### Bounds that cannot be read -/

namespace Arguments

theorem scoreBound_of_not_numeric {b : ScoreBound} (h : ¬b.Numeric) (r : List Bytes) :
    scoreBound (b.token :: r) = .error .scoreRange := by
  rcases ScoreBound.not_numeric_iff.1 h with rfl | rfl <;> rfl

theorem scoreRange_of_not_numeric {first second : ScoreBound}
    (h : ∃ b ∈ [first, second], ¬b.Numeric) (reverse : Bool) (r : List Bytes) :
    scoreRange reverse (first.token :: second.token :: r) = .error .scoreRange := by
  rw [scoreRange]
  by_cases hfirst : first.Numeric
  · have hsecond : ¬second.Numeric := by
      obtain ⟨b, hb, hnot⟩ := h
      rcases List.mem_cons.1 hb with rfl | hb
      · exact absurd hfirst hnot
      · exact List.mem_singleton.1 hb ▸ hnot
    rw [bind_of_ok (scoreBound_token hfirst _), bind_of_error (scoreBound_of_not_numeric hsecond _)]
  · rw [bind_of_error (scoreBound_of_not_numeric hfirst _)]

end Arguments

/-! ### What calls send -/

namespace RangeQuery

variable {q : RangeQuery} {scores : ScoreRange} {key : Bytes} {c : Command}

/-- The command of a range read by score, its two bounds behind the key. -/
theorem exists_command_score (hq : q.selection = .score scores) (hc : q.command key = .ok c) :
    ∃ first second, q.sentBounds scores = [first, second] ∧
      c = ⟨q.kind, key :: first.token :: second.token :: q.options⟩ := by
  obtain ⟨bounds, hbounds, rfl⟩ := command_eq_ok_iff.1 hc
  obtain rfl := bounds_of_score hq hbounds
  rw [sentBounds, boundTokens]
  cases q.reverse with
  | true => exact ⟨_, _, rfl, rfl⟩
  | false => exact ⟨_, _, rfl, rfl⟩

theorem kind_score (hq : q.selection = .score scores) :
    q.kind = if q.reverse then .zrevrangebyscore else .zrangebyscore := by
  rw [kind, hq]
  cases q.reverse <;> rfl

theorem scoreTokens_command (hq : q.selection = .score scores) (hc : q.command key = .ok c) :
    c.scoreTokens = (q.sentBounds scores).map ScoreBound.token := by
  obtain ⟨first, second, hbounds, rfl⟩ := exists_command_score hq hc
  rw [hbounds, kind_score hq]
  cases q.reverse <;> rfl

theorem ofCommand_of_not_numeric [GlobEngine] (hq : q.selection = .score scores)
    (hc : q.command key = .ok c) (h : ∃ b ∈ q.sentBounds scores, ¬b.Numeric) :
    Request.ofCommand c = .error .scoreRange := by
  obtain ⟨first, second, hbounds, rfl⟩ := exists_command_score hq hc
  rw [hbounds] at h
  have hkind : Request.reader q.kind = Request.setQuestion (Request.byScore q.reverse) := by
    rw [kind_score hq]
    cases q.reverse <;> rfl
  refine Request.ofCommand_about_error .askSet hkind ?_
  rw [Request.byScore, bind_of_error (scoreRange_of_not_numeric h _ _)]

end RangeQuery

/-- The weights of a store command, if it has any, stand behind its keys. -/
theorem weightTokens_append {args : StoreArgs} {keys clauses : List Bytes}
    (h : args.tokens keys.length = .ok clauses) :
    weightTokens keys.length (keys ++ clauses) = (args.weights.getD []).map Score.token ∧
      ∀ w ∈ args.weights.getD [], w.isNaN = false := by
  obtain ⟨weights, operation, rfl, hweights, hoperation⟩ := StoreArgs.tokens_eq_ok h
  rw [weightTokens, List.drop_left]
  rcases hweights with ⟨hnone, rfl⟩ | ⟨hfor, hsome, rfl⟩
  · -- without weights there may still be a word behind the keys, but it is another one
    refine ⟨?_, by simp [hnone]⟩
    rw [hnone]
    rcases hoperation with ⟨-, rfl⟩ | ⟨op, -, rfl⟩
    · rfl
    · exact if_neg (by decide)
  · obtain ⟨given, hgiven⟩ := Option.ne_none_iff_exists'.1 hsome
    obtain ⟨-, hlength, hnumeric⟩ := StoreArgs.weightsFor_eq_ok hfor
    have hlist : args.weightList keys.length = given := by
      rw [StoreArgs.weightList, hgiven, Option.getD_some]
    rw [hlist] at hlength hnumeric ⊢
    rw [hgiven, Option.getD_some]
    refine ⟨?_, hnumeric hsome⟩
    show (if _ then (given.map Score.token ++ operation).take keys.length else []) = _
    rw [if_pos rfl, ← hlength, ← List.length_map Score.token, List.take_left]

/-- What a command carries in the places of scores: scores that were checked, and bounds, which the
store refuses if one of them is no number. -/
structure Command.Carries [GlobEngine] (c : Command) (scores : List Score)
    (bounds : List ScoreBound) : Prop where
  tokens : c.scoreTokens = scores.map Score.token ++ bounds.map ScoreBound.token
  numeric : ∀ s ∈ scores, s.isNaN = false
  refused : (∃ b ∈ bounds, ¬b.Numeric) → Request.ofCommand c = .error .scoreRange

namespace Command.Carries

variable {c : Command} {scores : List Score}

/-- A command without bounds. -/
theorem of_scores [GlobEngine] (htokens : c.scoreTokens = scores.map Score.token)
    (hnumeric : ∀ s ∈ scores, s.isNaN = false) : Carries c scores [] where
  tokens := by rw [htokens, List.map_nil, List.append_nil]
  numeric := hnumeric
  refused := by simp

theorem of_query [GlobEngine] {q : RangeQuery} {range : ScoreRange} {key : Bytes}
    (hq : q.selection = .score range) (hc : q.command key = .ok c) :
    Carries c [] (q.sentBounds range) where
  tokens := RangeQuery.scoreTokens_command hq hc
  numeric := by simp
  refused := RangeQuery.ofCommand_of_not_numeric hq hc

end Command.Carries

/-- What each call sends, by the checks that it makes. -/
theorem Call.Sends.carries [GlobEngine] {γ : Type} {c : Command} {scores : List Score}
    {bounds : List ScoreBound} (h : Sends (γ := γ) c scores bounds) : c.Carries scores bounds := by
  cases h with
  | @zaddMulti key entries p h =>
    obtain ⟨-, h⟩ := Except.ite_error_eq_ok_iff.1 h
    obtain ⟨tokens, htokens, h⟩ := Except.bind_eq_ok_iff.1 h
    obtain rfl := Except.ok.inj h
    obtain ⟨rfl, hnumeric⟩ := scoredTokens_eq_ok htokens
    refine .of_scores ?_ (List.forall_mem_map.2 hnumeric)
    show ((pairs? (entries.flatMap fun e => [Score.token e.1, e.2])).getD []).map (·.1) = _
    rw [pairs?_flatMap, Option.getD_some, List.map_map, List.map_map]
    rfl
  | zincrby h =>
    obtain ⟨⟨⟩, hscore, h⟩ := Except.bind_eq_ok_iff.1 h
    obtain rfl := Except.ok.inj h
    exact .of_scores rfl (List.forall_mem_singleton.2 (checkScore_eq_ok hscore))
  | @hincrbyfloat key field amount p h =>
    rw [Call.hincrbyfloat] at h
    by_cases hfinite : amount.isFinite = true
    · rw [if_pos hfinite] at h
      obtain rfl := Except.ok.inj h
      exact .of_scores rfl (List.forall_mem_singleton.2 (Binary64.isNaN_of_isFinite hfinite))
    · exact absurd h (by simp [hfinite, refuse, fail])
  | @combine mode destination keys args p h =>
    obtain ⟨c, hc, h⟩ := Except.bind_eq_ok_iff.1 h
    obtain rfl := Except.ok.inj h
    obtain ⟨-, hfits, clauses, hclauses, rfl⟩ := Request.storeCommand_eq_ok hc
    obtain ⟨htokens, hnumeric⟩ := weightTokens_append hclauses
    have hweights : (args.getD {}).weights = args.bind (·.weights) := by cases args <;> rfl
    rw [hweights] at htokens hnumeric
    refine .of_scores ?_ hnumeric
    -- the number of keys is read back, so the weights are looked for behind them
    have hcount : Integral.ofToken? (Integral.token keys.length) = some (keys.length : Int) :=
      Integral.ofToken?_token (Integral.fits_of_le_greatest hfits)
    rw [← htokens]
    cases mode with
    | union | intersection =>
      show weightTokens ((Integral.ofToken? (Integral.token keys.length)).getD 0).toNat _ = _
      rw [hcount]
      rfl
  | zcount =>
    exact ⟨rfl, by simp, fun hb =>
      Request.ofCommand_about_error .askSet rfl (bind_of_error (scoreRange_of_not_numeric hb _ _))⟩
  | zremrangebyscore =>
    exact ⟨rfl, by simp, fun hb =>
      Request.ofCommand_about_error .changeSet rfl
        (bind_of_error (scoreRange_of_not_numeric hb _ _))⟩
  | range hq h =>
    obtain ⟨⟨⟩, -, h⟩ := Except.bind_eq_ok_iff.1 h
    obtain ⟨c, hc, h⟩ := Except.bind_eq_ok_iff.1 h
    obtain rfl := Except.ok.inj h
    exact .of_query hq hc
  | rangeStream hq h =>
    obtain ⟨⟨⟩, -, h⟩ := Except.bind_eq_ok_iff.1 h
    obtain ⟨c, hc, h⟩ := Except.bind_eq_ok_iff.1 h
    obtain rfl := Except.ok.inj h
    exact .of_query hq hc

/-- The places of scores hold what can be read just if the bounds are numbers. -/
theorem Command.Carries.legal_iff [GlobEngine] {c : Command} {scores : List Score}
    {bounds : List ScoreBound} (h : c.Carries scores bounds) :
    (∀ t ∈ c.scoreTokens, Score.Legal t) ↔ ∀ b ∈ bounds, b.Numeric := by
  have hscores : ∀ s ∈ scores, Score.Legal s.token := fun s hs =>
    Score.legal_token_iff.2 (h.numeric s hs)
  rw [h.tokens, List.forall_mem_append, List.forall_mem_map, List.forall_mem_map]
  simp only [Score.legal_bound_iff]
  exact and_iff_right hscores

namespace Call

/-- **What stands in the places of scores**: the scores, increments or weights of the call and its
bounds.  A score can be read from each of them just if none of the bounds is a `nan`, for no other
`nan` passes a call.  With such a bound the store refuses the command. -/
theorem legal_of_sends [GlobEngine] {γ : Type} {c : Command} {scores : List Score}
    {bounds : List ScoreBound} (h : Sends (γ := γ) c scores bounds) :
    c.scoreTokens = scores.map Score.token ++ bounds.map ScoreBound.token ∧
      (∀ s ∈ scores, Score.Legal s.token) ∧
      ((∀ t ∈ c.scoreTokens, Score.Legal t) ↔ ∀ b ∈ bounds, b.Numeric) ∧
      ((∃ b ∈ bounds, ¬b.Numeric) → ∀ s : Store,
        s.apply c = (.error (Fault.scoreRange.message c.kind), s)) := by
  have hc : c.Carries scores bounds := h.carries
  refine ⟨hc.tokens, fun s hs => Score.legal_token_iff.2 (hc.numeric s hs), hc.legal_iff,
    fun hb s => ?_⟩
  simp only [Store.apply, hc.refused hb]

attribute [local instance] Glob.engine

/-- Two infinities as weights. -/
theorem legal_of_sends_weights :
    let c : Command := ⟨.zunionstore, ["d", "2", "a", "b", "WEIGHTS", "+inf", "-inf"].map
      Bytes.ofString⟩
    Sends (γ := Unit) c [.inf false, .inf true] [] ∧
      c.scoreTokens = [Bytes.ofString "+inf", Bytes.ofString "-inf"] ∧
      ∀ t ∈ c.scoreTokens, Score.Legal t := by
  intro c
  have hcommand : storeCommand .union (Bytes.ofString "d") [Bytes.ofString "a", Bytes.ofString "b"]
      (some { weights := some [.inf false, .inf true] }) = .ok c := by rfl
  have hcall : Call.combine (γ := Unit) .union (Bytes.ofString "d")
      [Bytes.ofString "a", Bytes.ofString "b"]
      (some { weights := some [.inf false, .inf true] }) =
        .ok (.reading c (Reply.readInteger c.name)) := by
    rw [Call.combine, hcommand]
    rfl
  have hc : Sends (γ := Unit) c [.inf false, .inf true] [] := .combine hcall
  obtain ⟨htokens, -, hlegal, -⟩ := legal_of_sends hc
  exact ⟨hc, htokens, hlegal.2 (by simp)⟩

/-- Not each token in the place of a score can be read: a range read lets a bound through that was
made of a `nan`. -/
theorem not_legal_of_sends :
    ¬ ∀ (c : Command) (scores : List Score) (bounds : List ScoreBound),
      Sends (γ := Unit) c scores bounds → ∀ t ∈ c.scoreTokens, Score.Legal t := by
  intro h
  let scores : ScoreRange := ⟨.ofScore .nan, .posInf⟩
  let q : RangeQuery := { selection := .score scores }
  let c : Command := ⟨.zrangebyscore, [Bytes.ofString "z", scores.min.token, scores.max.token]⟩
  have hcall : Call.range (γ := Unit) .bytes (Bytes.ofString "z") q = .ok (.collected .bytes c) :=
    rfl
  have hc : Sends (γ := Unit) c [] [scores.min, scores.max] := .range (q := q) rfl hcall
  have hlegal : Score.Legal scores.min.token := h _ _ _ hc _ List.mem_cons_self
  have hnumeric : scores.min.Numeric := Score.legal_bound_iff.1 hlegal
  cases hnumeric

end Call

end KeyWalk
