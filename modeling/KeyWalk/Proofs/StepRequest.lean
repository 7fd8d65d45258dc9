import KeyWalk.Walk

/-!
The request of a walk step.

`ScanArgs.Encodes args clauses` says that the arguments of a walk are valid and what their tokens
are; `kind.request key clauses token` is then the request of the step that goes on at a token.

* `Walk.Asks`: a walk that is yet to make a step, with the token that it goes on at,
* `Asks.nextCommand?`: the request it makes,
* `Asks.record`: any token but the start token is taken as it comes,
* `nextCommand?_record_start`: the start token ends the walk.
-/

namespace KeyWalk

variable {ε : Type} {kind : ScanKind ε} {key token : Bytes} {args : Option ScanArgs}
  {clauses : List Bytes} {w : Walk ε}

/-- The arguments are valid, and these are their tokens. -/
def ScanArgs.Encodes (args : Option ScanArgs) (clauses : List Bytes) : Prop :=
  args.elim (.ok []) ScanArgs.tokens = .ok clauses

/-- The command of a step with a token, in front of the tokens of the arguments. -/
def ScanKind.request (kind : ScanKind ε) (key : Bytes) (clauses : List Bytes) (token : Bytes) :
    Command := ⟨kind.command, key :: token :: clauses⟩

theorem scanCommand_of_encodes (hargs : ScanArgs.Encodes args clauses)
    {cursor : Option Cursor} (hcursor : cursor = none ∧ token = Cursor.startToken ∨
      cursor = some ⟨token, false⟩) :
    scanCommand kind key cursor args = .ok (kind.request key clauses token) := by
  cases args with
  | none =>
    cases hargs
    rcases hcursor with ⟨rfl, rfl⟩ | rfl <;> rfl
  | some args =>
    have htokens : args.tokens = .ok clauses := hargs
    rcases hcursor with ⟨rfl, rfl⟩ | rfl <;>
      simp [scanCommand, CursorState.ofCursor?, CursorState.after, htokens, bind, Except.bind,
        pure, Except.pure, ScanKind.request]

namespace Walk

/-- The walk is yet to make a step with the token. -/
structure Asks (w : Walk ε) (kind : ScanKind ε) (key : Bytes) (args : Option ScanArgs)
    (token : Bytes) : Prop where
  kind_eq : w.kind = kind
  key_eq : w.key = key
  args_eq : w.args = args
  state : w.state = .initial ∧ token = Cursor.startToken ∨ w.state = .inProgress ⟨token, false⟩

theorem asks_start (kind : ScanKind ε) (key : Bytes) (args : Option ScanArgs) :
    (start kind key args).Asks kind key args Cursor.startToken := ⟨rfl, rfl, rfl, .inl ⟨rfl, rfl⟩⟩

/-- The request of a walk that is not over. -/
theorem Asks.nextCommand? (h : w.Asks kind key args token)
    (hargs : ScanArgs.Encodes args clauses) :
    w.nextCommand? = .ok (some (kind.request key clauses token)) := by
  obtain ⟨rfl, rfl, rfl, hstate⟩ := h
  have hcursor : w.state.cursor? = none ∧ token = Cursor.startToken ∨
      w.state.cursor? = some ⟨token, false⟩ := by
    rcases hstate with ⟨hstate, htoken⟩ | hstate
    · exact .inl ⟨by rw [hstate]; rfl, htoken⟩
    · exact .inr (by rw [hstate]; rfl)
  have hdone : w.isDone = false := by
    rcases hstate with ⟨hstate, -⟩ | hstate <;> rw [isDone, hstate] <;> rfl
  rw [Walk.nextCommand?, hdone, scanCommand_of_encodes hargs hcursor]
  rfl

/-- The store hands back a token to go on with. -/
theorem Asks.record (h : w.Asks kind key args token) {t : Bytes} (ht : t ≠ Cursor.startToken) :
    (w.record (.ofToken t)).Asks kind key args t := by
  have hof : Cursor.ofToken t = ⟨t, false⟩ := by rw [Cursor.ofToken, beq_eq_false_iff_ne.2 ht]
  exact ⟨h.kind_eq, h.key_eq, h.args_eq, .inr (by rw [hof]; rfl)⟩

/-- The store hands back the start token. -/
theorem nextCommand?_record_start (w : Walk ε) :
    (w.record (.ofToken Cursor.startToken)).nextCommand? = .ok none := rfl

end Walk

end KeyWalk
