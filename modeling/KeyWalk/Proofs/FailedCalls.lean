import KeyWalk.Proofs.WalkCalls

/-!
Calls on a walk that fail.

What a call gives back is its `Answer`: the next request, the elements of a page, or their number
with what became of the channel.  A call that fails is as if it had not been made: the walk depends
on the calls that took a page alone, in whichever way they took it.

* `Walk.move_of_failed`: a call that fails leaves the walk as it was,
* `Walk.answers_append`, `Walk.answers_of_failed`: so all later answers are those of a caller who
  never made it,
* `Walk.map_taken`: the replies of the calls that took a page, and their cursors,
* `Walk.run_without_failed`: any calls on a walk that is new or resumed.
-/

namespace KeyWalk

variable {ε γ δ : Type}

/-! ### Answers -/

/-- What a call on a walk gives back. -/
inductive Answer (ε : Type) : Type 1 where
  | command (result : Outcome (Option Command))
  | page (result : Outcome (List ε))
  | streamed {γ : Type} (result : Outcome Nat) (g : γ)

namespace Answer

/-- The call failed. -/
def failed : Answer ε → Bool
  | command (.error _) | page (.error _) | streamed (.error _) _ => true
  | _ => false

/-- The call took a page. -/
def tookPage : Answer ε → Bool
  | page (.ok _) | streamed (.ok _) _ => true
  | _ => false

theorem tookPage_of_failed {a : Answer ε} (h : a.failed = true) : a.tookPage = false := by
  cases a with
  | command result => rfl
  | page result | streamed result _ =>
    cases result with
    | error f => rfl
    | ok _ => cases h

end Answer

namespace Walk

variable {w : Walk ε} {m : Move ε}

/-- The answer to a call. -/
def answer (w : Walk ε) : Move ε → Answer ε
  | .next => .command w.nextCommand?
  | .advance reply => .page (w.advance reply).1
  | .stream channel g reply =>
    .streamed (w.advanceStreaming channel reply g).1 (w.advanceStreaming channel reply g).2.2

/-- The answers to some calls, one after the other. -/
def answers (w : Walk ε) : List (Move ε) → List (Answer ε)
  | [] => []
  | m :: moves => w.answer m :: (w.move m).answers moves

/-- The replies of the calls that took a page. -/
def taken (w : Walk ε) : List (Move ε) → List Reply
  | [] => []
  | m :: moves =>
    if (w.answer m).tookPage then m.reply?.toList ++ (w.move m).taken moves
    else (w.move m).taken moves

theorem run_append (w : Walk ε) (moves later : List (Move ε)) :
    w.run (moves ++ later) = (w.run moves).run later := List.foldl_append

theorem answers_append (w : Walk ε) (moves later : List (Move ε)) :
    w.answers (moves ++ later) = w.answers moves ++ (w.run moves).answers later := by
  induction moves generalizing w with
  | nil => rfl
  | cons m moves ih =>
    rw [List.cons_append, answers, ih (w.move m)]
    rfl

/-! ### Calls that fail -/

/-- A call takes a page just if it goes on from a cursor. -/
theorem tookPage_answer (w : Walk ε) (m : Move ε) :
    (w.answer m).tookPage = (m.cursor? w.kind).isSome := by
  cases m with
  | next => rfl
  | advance reply =>
    rw [answer, advance, Move.cursor?]
    cases scanPage w.kind reply <;> rfl
  | stream channel g reply =>
    rw [answer, advanceStreaming, Move.cursor?]
    rcases scanStream w.kind channel reply g with ⟨_ | _, _⟩ <;> rfl

/-- **A call that fails leaves the walk as it was.** -/
theorem move_of_failed (h : (w.answer m).failed = true) : w.move m = w := by
  have hnone : ¬(m.cursor? w.kind).isSome = true := by
    rw [← tookPage_answer, Answer.tookPage_of_failed h]
    decide
  rw [move_eq, Option.not_isSome_iff_eq_none.1 hnone]

theorem answers_of_failed (h : (w.answer m).failed = true) (later : List (Move ε)) :
    w.answers (m :: later) = w.answer m :: w.answers later := by
  rw [answers, move_of_failed h]

/-! ### Calls that take a page -/

theorem kind_move (w : Walk ε) (m : Move ε) : (w.move m).kind = w.kind := by
  rw [move_eq]
  cases m.cursor? w.kind <;> rfl

theorem kind_run (w : Walk ε) (moves : List (Move ε)) : (w.run moves).kind = w.kind := by
  rw [run_eq]

/-- The replies of the calls that took a page, with the cursors of their pages. -/
theorem map_taken (w : Walk ε) (moves : List (Move ε)) :
    (w.taken moves).map (fun reply => reply.scanToken?.map Cursor.ofToken) =
      (moves.filterMap (·.cursor? w.kind)).map some := by
  induction moves generalizing w with
  | nil => rfl
  | cons m moves ih =>
    have hrest := ih (w.move m)
    rw [kind_move] at hrest
    rw [taken, tookPage_answer]
    cases hcursor : m.cursor? w.kind with
    | none =>
      rw [List.filterMap_cons_none hcursor]
      exact hrest
    | some c =>
      obtain ⟨reply, token, hreply, htoken, rfl⟩ := Move.exists_token hcursor
      rw [List.filterMap_cons_some hcursor, hreply, List.map_cons, ← hrest]
      show reply.scanToken?.map Cursor.ofToken :: _ = _
      rw [htoken]
      rfl

/-- **The state is that of the last page taken**, and the steps count the pages. -/
theorem run_taken (w : Walk ε) (moves : List (Move ε)) :
    (w.run moves).steps = w.steps + (w.taken moves).length ∧
      (w.taken moves = [] → (w.run moves).state = w.state) ∧
      ∀ reply, (w.taken moves).getLast? = some reply →
        ∃ token, reply.scanToken? = some token ∧
          (w.run moves).state = .after (.ofToken token) := by
  have hmap := w.map_taken moves
  have hrun := w.run_eq moves
  generalize moves.filterMap (·.cursor? w.kind) = cursors at hmap hrun
  have hlength : (w.taken moves).length = cursors.length := by
    simpa only [List.length_map] using congrArg List.length hmap
  refine ⟨by rw [hrun, hlength], fun hnil => ?_, fun reply hlast => ?_⟩
  · rw [hnil, List.length_nil] at hlength
    rw [hrun, List.length_eq_zero_iff.1 hlength.symm]
    rfl
  · have hlasts := congrArg List.getLast? hmap
    rw [List.getLast?_map, List.getLast?_map, hlast, Option.map_some] at hlasts
    obtain ⟨c, hc, hsome⟩ := Option.map_eq_some_iff.1 hlasts.symm
    obtain ⟨token, htoken, hcursor⟩ := Option.map_eq_some_iff.1 hsome.symm
    refine ⟨token, htoken, ?_⟩
    rw [hrun, hcursor]
    show stateAfter w.state cursors = _
    rw [stateAfter, hc, Option.elim_some]

/-! ### Any calls -/

/-- A walk that is new, or resumed from a cursor. -/
def opened (kind : ScanKind ε) (key : Bytes) (args : Option ScanArgs) : Option Cursor → Walk ε
  | none => start kind key args
  | some cursor => resume kind key cursor args

/-- **A failed call is as if it had not been made.**  After any calls on a walk that is new or
resumed, the steps count the calls that took a page, and the state is that of the last of these, in
whichever way it took it; without one it is the state at first.  A further call that fails leaves
the walk as it was: the next request is the same, and whatever is called later has the same answers,
and leaves the same walk, as if there had been no such call.  In particular a page that only a
channel refused is taken when it is handed over again, with a channel that takes it. -/
theorem run_without_failed (kind : ScanKind ε) (key : Bytes) (args : Option ScanArgs)
    (cursor : Option Cursor) (moves : List (Move ε)) :
    let w₀ := opened kind key args cursor
    let w := w₀.run moves
    (w.steps = (w₀.taken moves).length ∧
      (w₀.taken moves = [] → w.state = w₀.state) ∧
      ∀ reply, (w₀.taken moves).getLast? = some reply →
        ∃ token, reply.scanToken? = some token ∧ w.state = .after (.ofToken token)) ∧
    (∀ m, (w.answer m).failed = true →
      w.move m = w ∧ (w.move m).nextCommand? = w.nextCommand? ∧ ∀ later,
        w₀.run (moves ++ m :: later) = w₀.run (moves ++ later) ∧
        w₀.answers (moves ++ m :: later) = w₀.answers moves ++ w.answer m :: w.answers later ∧
        w₀.answers (moves ++ later) = w₀.answers moves ++ w.answers later) ∧
    ∀ {γ δ : Type} (channel : Channel ε γ) (g : γ) (reply : Reply) (page : ScanPage ε)
      (taking : Channel ε δ) (d : δ),
      (w.answer (.stream channel g reply)).failed = true → scanPage kind reply = .ok page →
      taking.Takes d page.elements →
        let again := w.move (.stream channel g reply)
        again.answer (.stream taking d reply) =
          .streamed (.ok page.elements.length) (taking.after d page.elements) ∧
        again.move (.stream taking d reply) = w.record page.cursor := by
  intro w₀ w
  have hopened : w₀.kind = kind ∧ w₀.steps = 0 := by
    cases cursor <;> exact ⟨rfl, rfl⟩
  obtain ⟨hkind, hsteps⟩ := hopened
  refine ⟨?_, fun m hfailed => ?_, ?_⟩
  · have htaken := w₀.run_taken moves
    rwa [hsteps, Nat.zero_add] at htaken
  · have hmove : w.move m = w := move_of_failed hfailed
    refine ⟨hmove, by rw [hmove], fun later => ⟨?_, ?_, w₀.answers_append moves later⟩⟩
    · rw [run_append, run_append]
      show (w.move m).run later = w.run later
      rw [hmove]
    · rw [answers_append]
      exact congrArg _ (answers_of_failed hfailed later)
  · intro γ δ channel g reply page taking d hfailed hpage htakes again
    have hagain : again = w := move_of_failed hfailed
    rw [← hkind, ← w₀.kind_run moves] at hpage
    have hstream := scanStream_takes hpage htakes
    rw [hagain, answer, move, advanceStreaming, hstream]
    exact ⟨rfl, rfl⟩

/-- A page behind one that was refused midway and a reply that is none. -/
theorem run_without_failed_refused_page :
    let reply : Reply := .array [.value [0x37], .array [.value [1], .value [2], .value [3], .nil]]
    let later : Reply := .array [.value [0x35], .array [.value [1], .value [2]]]
    let w := (opened hashScan [9] none (some ⟨[0x36], false⟩)).run
      [.advance .null, .stream .collector [] reply]
    let m : Move KeyValue := .stream (.refusingAfter 0 (.ofCause (.server "full"))) [] later
    w.steps = 0 ∧ (w.answer m).failed = true ∧ w.move m = w ∧
      (w.move m).answer (.stream .collector [] later) =
        .streamed (.ok 1) ([⟨[1], [2]⟩] : List KeyValue) := by
  intro reply later w m
  obtain ⟨⟨hsteps, -⟩, hfailed, hagain⟩ := run_without_failed hashScan [9] none
    (some ⟨[0x36], false⟩) [.advance .null, .stream .collector [] reply]
  have hm : (w.answer m).failed = true := by decide +kernel
  have hpage : scanPage hashScan later = .ok ⟨.ofToken [0x35], [⟨[1], [2]⟩]⟩ := rfl
  exact ⟨hsteps, hm, (hfailed m hm).1,
    (hagain _ [] later _ .collector [] hm hpage (Channel.takes_collector [] _)).1⟩

end Walk

end KeyWalk
