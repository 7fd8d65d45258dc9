import KeyWalk.Proofs.Combination
import KeyWalk.Proofs.ScanStep

/-!
The commands of the calls are read back.

A call writes its arguments as tokens, and the store reads its request from these tokens.  Where a
call has whole numbers, scores, bounds or lists among its arguments, the request has the very same:

* `Request.ofCommand_hincrby` and its neighbours: one number or two among the arguments,
* `Request.ofCommand_hmset`, `Request.ofCommand_zadd`: lists of pairs,
* `scanCommand_eq_ok`, `ScanArgs.readOptions_of_encodes`: scan steps, which a pattern may spoil.

Names and values are tokens as they are, whatever bytes they have, so nothing is to be shown of
them.
-/

namespace KeyWalk

open Arguments

/-! ### Lists of tokens -/

theorem Arguments.rest_of_ne_nil {tokens : List Bytes} (h : tokens ≠ []) :
    rest tokens = .ok (tokens, []) := by
  cases tokens with
  | nil => exact absurd rfl h
  | cons a r => rfl

theorem pairs?_flatMap {ι : Type} (first second : ι → Bytes) (l : List ι) :
    pairs? (l.flatMap fun i => [first i, second i]) =
      some (l.map fun i => (first i, second i)) := by
  induction l with
  | nil => rfl
  | cons i r ih =>
    show (fun pairs => (first i, second i) :: pairs) <$> pairs? (r.flatMap _) = _
    rw [ih]
    rfl

theorem flatMap_pair_ne_nil {ι : Type} (first second : ι → Bytes) {l : List ι} (h : l ≠ []) :
    (l.flatMap fun i => [first i, second i]) ≠ [] := by
  obtain ⟨i, r, rfl⟩ := List.exists_cons_of_ne_nil h
  exact List.cons_ne_nil _ _

theorem Call.needsFields_eq_ok {α : Type} {kind : CommandKind} {fields : List α}
    (h : needsFields kind fields = .ok ()) : fields ≠ [] := by
  obtain ⟨hempty, -⟩ := Except.ite_error_eq_ok_iff.1 h
  exact fun hnil => hempty (List.isEmpty_iff.2 hnil)

theorem Call.checkScore_eq_ok {v : Score} (h : checkScore v = .ok ()) : v.isNaN = false := by
  obtain ⟨hnan, -⟩ := Except.ite_error_eq_ok_iff.1 h
  simpa using hnan

/-- Scores and members, none of the scores being `nan`. -/
theorem Call.scoredTokens_eq_ok {entries : List (Score × Bytes)} {tokens : List Bytes}
    (h : scoredTokens entries = .ok tokens) :
    tokens = entries.flatMap (fun e => [Score.token e.1, e.2]) ∧
      ∀ e ∈ entries, e.1.isNaN = false := by
  induction entries generalizing tokens with
  | nil => exact ⟨(Except.ok.inj h).symm, fun e he => absurd he List.not_mem_nil⟩
  | cons e r ih =>
    obtain ⟨v, member⟩ := e
    obtain ⟨⟨⟩, hscore, h⟩ := Except.bind_eq_ok_iff.1 h
    obtain ⟨more, hr, h⟩ := Except.bind_eq_ok_iff.1 h
    obtain ⟨rfl, hmore⟩ := ih hr
    refine ⟨(Except.ok.inj h).symm, fun e he => ?_⟩
    rcases List.mem_cons.1 he with rfl | he
    · exact checkScore_eq_ok hscore
    · exact hmore e he

theorem Score.mapM_ofToken? {entries : List (Score × Bytes)}
    (h : ∀ e ∈ entries, e.1.isNaN = false) :
    (entries.map fun e => (Score.token e.1, e.2)).mapM
      (fun p => (ofToken? p.1).map fun v => (v, p.2)) = some entries := by
  induction entries with
  | nil => rfl
  | cons e r ih =>
    have he : ofToken? (Score.token e.1) = some e.1 := ofToken?_token (h e List.mem_cons_self)
    rw [List.map_cons, List.mapM_cons, he, ih fun x hx => h x (List.mem_cons_of_mem _ hx)]
    rfl

namespace Request

theorem score_token {v : Score} (h : v.isNaN = false) (r : List Bytes) :
    score (Score.token v :: r) = .ok (v, r) := by
  rw [score, bind_of_ok (next_cons _ _), Score.ofToken?_token h]
  rfl

variable [GlobEngine] {key field member : Bytes}

/-! ### Hashes -/

theorem ofCommand_hdel {fields : List Bytes} (h : fields ≠ []) :
    ofCommand ⟨.hdel, key :: fields⟩ = .ok (.changeHash key (.delete fields)) :=
  ofCommand_about .changeHash rfl (bind_of_ok (rest_of_ne_nil h))

theorem ofCommand_hmget {fields : List Bytes} (h : fields ≠ []) :
    ofCommand ⟨.hmget, key :: fields⟩ = .ok (.askHash key (.getMany fields)) :=
  ofCommand_about .askHash rfl (bind_of_ok (rest_of_ne_nil h))

theorem ofCommand_hincrby {amount : Int} (h : Integral.fits amount = true) :
    ofCommand ⟨.hincrby, [key, field, Integral.token amount]⟩ =
      .ok (.changeHash key (.increment field amount)) := by
  refine ofCommand_about .changeHash rfl ?_
  rw [bind_of_ok (next_cons _ _), bind_of_ok (integer_token h _)]
  rfl

theorem ofCommand_hincrbyfloat {amount : Score} (h : amount.isNaN = false) :
    ofCommand ⟨.hincrbyfloat, [key, field, Score.token amount]⟩ =
      .ok (.changeHash key (.incrementFloat field amount)) := by
  refine ofCommand_about .changeHash rfl ?_
  rw [bind_of_ok (next_cons _ _), bind_of_ok (score_token h _)]
  rfl

theorem ofCommand_hmset {entries : List (Bytes × Bytes)} (h : entries ≠ []) :
    ofCommand ⟨.hmset, key :: entries.flatMap fun e => [e.1, e.2]⟩ =
      .ok (.changeHash key (.setMany entries)) := by
  refine ofCommand_about .changeHash rfl ?_
  rw [bind_of_ok (rest_of_ne_nil (flatMap_pair_ne_nil _ _ h)), pairs?_flatMap,
    bind_of_ok (require_some _ _ _), List.map_id']
  rfl

/-! ### Sorted sets -/

theorem ofCommand_zadd {entries : List (Score × Bytes)} (h : entries ≠ [])
    (hnumeric : ∀ e ∈ entries, e.1.isNaN = false) :
    ofCommand ⟨.zadd, key :: entries.flatMap fun e => [Score.token e.1, e.2]⟩ =
      .ok (.changeSet key (.add entries)) := by
  refine ofCommand_about .changeSet rfl ?_
  rw [bind_of_ok (rest_of_ne_nil (flatMap_pair_ne_nil _ _ h)), pairs?_flatMap,
    bind_of_ok (require_some _ _ _), Score.mapM_ofToken? hnumeric,
    bind_of_ok (require_some _ _ _)]
  rfl

theorem ofCommand_zincrby {amount : Score} (h : amount.isNaN = false) :
    ofCommand ⟨.zincrby, [key, Score.token amount, member]⟩ =
      .ok (.changeSet key (.increment amount member)) := by
  refine ofCommand_about .changeSet rfl ?_
  rw [bind_of_ok (score_token h _), bind_of_ok (next_cons _ _)]
  rfl

theorem ofCommand_zrem {members : List Bytes} (h : members ≠ []) :
    ofCommand ⟨.zrem, key :: members⟩ = .ok (.changeSet key (.remove members)) :=
  ofCommand_about .changeSet rfl (bind_of_ok (rest_of_ne_nil h))

theorem ofCommand_zremrangebyrank {start stop : Int}
    (hstart : Integral.fits start = true) (hstop : Integral.fits stop = true) :
    ofCommand ⟨.zremrangebyrank, [key, Integral.token start, Integral.token stop]⟩ =
      .ok (.changeSet key (.removeSelected (.rank start stop))) := by
  refine ofCommand_about .changeSet rfl ?_
  rw [bind_of_ok (integer_token hstart _), bind_of_ok (integer_token hstop _)]
  rfl

section Ranges

variable {scores : ScoreRange} (hmin : scores.min.Numeric) (hmax : scores.max.Numeric)
  (names : LexRange)

include hmin hmax

theorem ofCommand_zcount :
    ofCommand ⟨.zcount, [key, scores.min.token, scores.max.token]⟩ =
      .ok (.askSet key (.count (.score scores.received))) :=
  ofCommand_about .askSet rfl (bind_of_ok (scoreRange_tokens hmin hmax false []))

theorem ofCommand_zremrangebyscore :
    ofCommand ⟨.zremrangebyscore, [key, scores.min.token, scores.max.token]⟩ =
      .ok (.changeSet key (.removeSelected (.score scores.received))) :=
  ofCommand_about .changeSet rfl (bind_of_ok (scoreRange_tokens hmin hmax false []))

omit hmin hmax

theorem ofCommand_zlexcount :
    ofCommand ⟨.zlexcount, [key, names.min.token, names.max.token]⟩ =
      .ok (.askSet key (.count (.lex names))) :=
  ofCommand_about .askSet rfl (bind_of_ok (lexRange_tokens names false []))

theorem ofCommand_zremrangebylex :
    ofCommand ⟨.zremrangebylex, [key, names.min.token, names.max.token]⟩ =
      .ok (.changeSet key (.removeSelected (.lex names))) :=
  ofCommand_about .changeSet rfl (bind_of_ok (lexRange_tokens names false []))

end Ranges

end Request

/-! ### Scan steps -/

/-- The request of a step that was not refused. -/
theorem scanCommand_eq_ok {ε : Type} {kind : ScanKind ε} {key : Bytes} {cursor : Option Cursor}
    {args : Option ScanArgs} {c : Command} (h : scanCommand kind key cursor args = .ok c) :
    ∃ token clauses, c = kind.request key clauses token ∧ ScanArgs.Encodes args clauses := by
  rw [scanCommand] at h
  -- a walk that is over has no command; in every other state the clauses stand behind a position
  cases hstate : CursorState.ofCursor? cursor with
  | initial | inProgress _ =>
    rw [hstate] at h
    obtain ⟨position, -, h⟩ := Except.bind_eq_ok_iff.1 h
    cases args with
    | none => exact ⟨position, [], (Except.ok.inj h).symm, rfl⟩
    | some args =>
      obtain ⟨clauses, htokens, h⟩ := Except.bind_eq_ok_iff.1 h
      exact ⟨position, clauses, (Except.ok.inj h).symm, htokens⟩
  | done _ =>
    rw [hstate] at h
    exact absurd h (by simp [fail, Bind.bind, Except.bind])

theorem ScanWindow.readOptions_nil [GlobEngine] (w : ScanWindow) : w.readOptions [] = .ok w := by
  rw [readOptions]

/-- The options of a step are read, unless the pattern is none. -/
theorem ScanArgs.readOptions_of_encodes [GlobEngine] {args : Option ScanArgs}
    {clauses : List Bytes} (h : Encodes args clauses) (o : Nat) :
    (∃ w, ({ offset := o } : ScanWindow).readOptions clauses = .ok w) ∨
      ∃ pattern rest reason, clauses = Bytes.ofString "MATCH" :: pattern :: rest ∧
        GlobEngine.compile (Utf8.lossy pattern) = .error reason ∧
        ({ offset := o } : ScanWindow).readOptions clauses = .error (.pattern reason) := by
  cases args with
  | none =>
    -- without arguments there are no options to read
    obtain rfl : [] = clauses := Except.ok.inj h
    exact .inl ⟨_, ScanWindow.readOptions_nil _⟩
  | some args =>
    obtain ⟨pattern, hint⟩ := args
    -- a count that was not refused is read, with a pattern in front of it or without
    obtain ⟨counting, hclauses, hcounting⟩ : ∃ counting,
        clauses = patternTokens pattern ++ counting ∧
          ∀ w : ScanWindow, ∃ w', w.readOptions counting = .ok w' := by
      cases hint with
      | none =>
        obtain rfl : patternTokens pattern = clauses := Except.ok.inj h
        exact ⟨[], (List.append_nil _).symm, fun w => ⟨w, w.readOptions_nil⟩⟩
      | some n =>
        change ScanArgs.tokens ⟨pattern, some n⟩ = .ok clauses at h
        obtain ⟨hzero, h⟩ := Except.ite_error_eq_ok_iff.1 h
        obtain ⟨hlarge, h⟩ := Except.ite_error_eq_ok_iff.1 h
        refine ⟨_, (Except.ok.inj h).symm, fun w => ⟨{ w with count := n }, ?_⟩⟩
        rw [ScanWindow.readOptions_count (Nat.pos_of_ne_zero hzero) (Int.not_lt.1 hlarge),
          ScanWindow.readOptions_nil]
    subst hclauses
    cases pattern with
    | none => exact .inl (hcounting _)
    | some p =>
      cases hcompile : GlobEngine.compile (Utf8.lossy p) with
      | ok matcher =>
        obtain ⟨w, hw⟩ := hcounting { offset := o, pattern := some matcher }
        exact .inl ⟨w, (ScanWindow.readOptions_pattern hcompile counting).trans hw⟩
      | error reason =>
        refine .inr ⟨p, counting, reason, rfl, hcompile, ?_⟩
        have hword : Bytes.isWord "MATCH" (Bytes.ofString "MATCH") = true := by decide
        show ScanWindow.readOptions _ (Bytes.ofString "MATCH" :: p :: counting) = _
        rw [ScanWindow.readOptions]
        simp only [hword, if_true, hcompile]

end KeyWalk
