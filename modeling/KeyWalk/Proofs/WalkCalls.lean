import KeyWalk.Proofs.Dialogue
import KeyWalk.Proofs.ScanStep

/-!
Calls on a walk, in any order.

A caller of a walk may ask for the next request and hand over replies as it likes.  What the calls
make of the walk is told by the cursors of the pages that they took:

* `Walk.move_eq`: a call that took no page leaves the walk as it was, one that took a page records
  its cursor,
* `Walk.run_eq`: after any calls the state is that of the last cursor taken, and the steps count
  the pages,
* `Walk.run_of_done`: which calls leave a walk over that was over.
-/

namespace KeyWalk

variable {ε γ : Type}

/-- A call on a walk. -/
inductive Move (ε : Type) : Type 1 where
  /-- Asks for the next request. -/
  | next
  | advance (reply : Reply)
  | stream {γ : Type} (channel : Channel ε γ) (g : γ) (reply : Reply)

/-- The cursor of the page that a call takes, `none` if it takes none. -/
def Move.cursor? (kind : ScanKind ε) : Move ε → Option Cursor
  | next => none
  | advance reply => (scanPage kind reply).toOption.map (·.cursor)
  | stream channel g reply => (scanStream kind channel reply g).1.toOption.map (·.cursor)

/-- The reply that is handed over in a call. -/
def Move.reply? : Move ε → Option Reply
  | next => none
  | advance reply | stream _ _ reply => some reply

/-- The cursor of a page that was taken is the token of the reply. -/
theorem Move.exists_token {kind : ScanKind ε} {m : Move ε} {c : Cursor}
    (h : m.cursor? kind = some c) : ∃ reply token, m.reply? = some reply ∧
      reply.scanToken? = some token ∧ c = .ofToken token := by
  cases m with
  | next => nomatch h
  | advance reply =>
    rw [cursor?] at h
    cases hread : scanPage kind reply with
    | error f =>
      rw [hread] at h
      nomatch h
    | ok page =>
      rw [hread] at h
      cases h
      obtain ⟨token, htoken, hcursor⟩ := exists_token_of_page hread
      exact ⟨reply, token, rfl, htoken, hcursor⟩
  | stream channel g reply =>
    rw [cursor?] at h
    rcases hread : scanStream kind channel reply g with ⟨f | streamed, g'⟩
    · rw [hread] at h
      nomatch h
    · -- the page is the one that a list would have been read from
      obtain ⟨page, hscan, htakes⟩ := exists_page_of_scanStream hread
      rw [scanStream_takes hscan htakes] at h
      cases h
      obtain ⟨token, htoken, hcursor⟩ := exists_token_of_page hscan
      exact ⟨reply, token, rfl, htoken, hcursor⟩

theorem Move.eq_ofToken {kind : ScanKind ε} {m : Move ε} {c : Cursor}
    (h : m.cursor? kind = some c) : c = .ofToken c.position := by
  obtain ⟨-, token, -, -, rfl⟩ := exists_token h
  rfl

namespace Walk

/-- The walk after a call. -/
def move (w : Walk ε) : Move ε → Walk ε
  | .next => w
  | .advance reply => (w.advance reply).2
  | .stream channel g reply => (w.advanceStreaming channel reply g).2.1

/-- The walk after some calls. -/
def run (w : Walk ε) (moves : List (Move ε)) : Walk ε := moves.foldl move w

theorem move_eq (w : Walk ε) (m : Move ε) :
    w.move m = match m.cursor? w.kind with
      | none => w
      | some c => w.record c := by
  cases m with
  | next => rfl
  | advance reply =>
    simp only [move, advance, Move.cursor?]
    cases scanPage w.kind reply <;> rfl
  | stream channel g reply =>
    simp only [move, advanceStreaming, Move.cursor?]
    rcases scanStream w.kind channel reply g with ⟨_ | _, _⟩ <;> rfl

/-- The state after the pages with these cursors. -/
def stateAfter (state : CursorState) (taken : List Cursor) : CursorState :=
  taken.getLast?.elim state .after

theorem stateAfter_cons (state : CursorState) (c : Cursor) (taken : List Cursor) :
    stateAfter state (c :: taken) = stateAfter (.after c) taken := by
  cases taken with
  | nil => rfl
  | cons d taken =>
    rw [stateAfter, List.getLast?_cons_cons,
      List.getLast?_eq_some_getLast (List.cons_ne_nil d taken), stateAfter,
      List.getLast?_eq_some_getLast (List.cons_ne_nil d taken)]
    rfl

theorem run_eq (w : Walk ε) (moves : List (Move ε)) :
    let taken := moves.filterMap (·.cursor? w.kind)
    w.run moves =
      { w with steps := w.steps + taken.length, state := stateAfter w.state taken } := by
  intro taken
  induction moves generalizing w with
  | nil => rfl
  | cons m moves ih =>
    have hmove := move_eq w m
    cases hcursor : m.cursor? w.kind with
    | none =>
      rw [hcursor] at hmove
      show (w.move m).run moves = _
      rw [hmove, ih]
      simp only [taken, List.filterMap_cons_none hcursor]
    | some c =>
      rw [hcursor] at hmove
      show (w.move m).run moves = _
      rw [hmove, ih]
      simp only [taken, record, List.filterMap_cons_some hcursor, List.length_cons,
        stateAfter_cons, Nat.add_assoc, Nat.add_comm 1]

theorem isDone_of_state {w : Walk ε} {c : Cursor} (h : w.state = .done c) : w.isDone = true := by
  rw [isDone, h]
  rfl

/-- **A walk that is over** is still over after any further calls exactly if the last page that
they took, if they took one, carries the start token.  Then it asks for nothing, and without a page
it is the walk that it was.  A page that carries another token sends it on from there. -/
theorem run_of_done {w : Walk ε} {c : Cursor} (hdone : w.state = .done c)
    (moves : List (Move ε)) :
    let taken := moves.filterMap (·.cursor? w.kind)
    let w' := w.run moves
    (taken = [] → w' = w) ∧
      (w'.isDone = true ↔ ∀ d, taken.getLast? = some d → d = .ofToken Cursor.startToken) ∧
      (w'.isDone = true →
        w'.state = .done (taken.getLast?.getD c) ∧ w'.nextCommand? = .ok none) ∧
      (w'.isDone = false → ∃ d, taken.getLast? = some d ∧ w'.state = .inProgress d ∧
        w'.nextCommand? = some <$> scanCommand w.kind w.key (some d) w.args) := by
  intro taken w'
  have hrun : w' = { w with steps := w.steps + taken.length, state := stateAfter w.state taken } :=
    w.run_eq moves
  refine ⟨fun hnone => ?_, ?_⟩
  · rw [hrun, hnone]
    rfl
  have hstate : w'.state = stateAfter (.done c) taken := by
    rw [hrun, hdone]
  cases hlast : taken.getLast? with
  | none =>
    rw [stateAfter, hlast] at hstate
    have hover : w'.isDone = true := isDone_of_state hstate
    refine ⟨⟨fun _ d hd => absurd hd (by simp), fun _ => hover⟩,
      fun _ => ⟨hstate, nextCommand?_of_isDone hover⟩, fun h => ?_⟩
    exact absurd (hover.symm.trans h) (by decide)
  | some d =>
    rw [stateAfter, hlast] at hstate
    obtain ⟨m, -, hm⟩ := List.mem_filterMap.1 (List.mem_of_getLast? hlast)
    have hd : d = .ofToken d.position := Move.eq_ofToken hm
    by_cases hposition : d.position = Cursor.startToken
    · rw [hposition] at hd
      subst hd
      have hover : w'.isDone = true := isDone_of_state hstate
      refine ⟨⟨fun _ d' hd' => (Option.some.inj hd').symm, fun _ => hover⟩,
        fun _ => ⟨hstate, nextCommand?_of_isDone hover⟩, fun h => ?_⟩
      exact absurd (hover.symm.trans h) (by decide)
    · -- the cursor is not the final one, so the walk is on its way again
      have hopen : d.finished = false := by
        rw [hd]
        exact beq_eq_false_iff_ne.2 hposition
      have hon : w'.state = .inProgress d := by
        rw [hstate, Option.elim_some, CursorState.after, hopen]
        rfl
      have hover : w'.isDone = false := by
        rw [isDone, hon]
        rfl
      have hnot : w'.isDone ≠ true := by
        rw [hover]
        decide
      refine ⟨⟨fun h => absurd h hnot, fun h => ?_⟩, fun h => absurd h hnot,
        fun _ => ⟨d, rfl, hon, ?_⟩⟩
      · rw [h d rfl] at hposition
        exact absurd rfl hposition
      · rw [nextCommand?, hover, hon, hrun]
        rfl

/-- A walk of one page is asked for more, fed a reply that is none, and fed its page again. -/
theorem run_of_done_repeated_page :
    let w' := ((start hashScan [9] none).record (.ofToken [0x30])).run
      [.next, .advance .null,
        .stream Channel.collector [] (.array [.value [0x30], .array [.value [1], .value [2]]])]
    w'.steps = 2 ∧ w'.state = .done ⟨[0x30], true⟩ ∧ w'.nextCommand? = .ok none := by
  have hdone : ((start hashScan [9] none).record (.ofToken [0x30])).state = .done ⟨[0x30], true⟩ :=
    rfl
  obtain ⟨-, hiff, hover, -⟩ := run_of_done hdone [.next, .advance .null,
    .stream Channel.collector [] (.array [.value [0x30], .array [.value [1], .value [2]]])]
  have hlast : ∀ d, [Cursor.ofToken [0x30]].getLast? = some d → d = .ofToken [0x30] :=
    fun _ h => (Option.some.inj h).symm
  exact ⟨rfl, hover (hiff.2 hlast)⟩

/-- The reply to some other step, handed to a walk that is over, starts it again. -/
theorem not_over_after_late_reply :
    ¬ ∀ (w : Walk KeyValue) (c : Cursor) (moves : List (Move KeyValue)), w.state = .done c →
      (w.run moves).state = .done c ∧ (w.run moves).nextCommand? = .ok none := by
  intro h
  obtain ⟨hstate, -⟩ := h ((start hashScan [0x68] none).record (.ofToken [0x30])) ⟨[0x30], true⟩
    [.advance (.array [.value [0x35], .array []])] rfl
  exact absurd hstate (by decide)

end Walk

end KeyWalk
