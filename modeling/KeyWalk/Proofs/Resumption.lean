import KeyWalk.Proofs.CallRequest
import KeyWalk.Proofs.ChangeRequest
import KeyWalk.Proofs.CursorText
import KeyWalk.Proofs.FailedCalls

/-!
Walks that are resumed.

A walk that took a page stands at the cursor of that page, and the cursor is all that has to be
kept of it: a walk that is resumed from there, with the same key and the same arguments, cannot be
told from the walk itself but by its steps.

* `Walk.SamePlace`: two walks that differ in their steps alone,
* `Walk.SamePlace.answers_eq`, `Walk.SamePlace.outcomes_eq`: they go on alike, for a caller who
  hands over replies and for a client that takes pages,
* `Pages.take_add`: pages can be taken in two goes,
* `Pages.exists_run_of_take`: where a client stops,
* `Client.Still.take`, `Store.still`: a state that no step of a walk changes,
* `Walk.resume_of_taken`: a walk that is stopped and resumed from its cursor on paper, whatever
  codec put it there.

Design notes.  The pages of both parts are put together over any transport, as long as the resumed
walk finds the state that the stopped one left.  A state that no step changes is the one at first.
-/

namespace KeyWalk

variable {σ ε : Type} {w w' : Walk ε} {c : Client σ} {s s' : σ}

/-! ### Walks at the same place -/

/-- The walks differ in their steps alone. -/
structure Walk.SamePlace (w w' : Walk ε) : Prop where
  kind_eq : w'.kind = w.kind
  key_eq : w'.key = w.key
  args_eq : w'.args = w.args
  state_eq : w'.state = w.state

namespace Walk.SamePlace

theorem nextCommand?_eq (h : w.SamePlace w') : w'.nextCommand? = w.nextCommand? := by
  rw [nextCommand?, nextCommand?, isDone, isDone, h.kind_eq, h.key_eq, h.args_eq, h.state_eq]

theorem record (h : w.SamePlace w') (cursor : Cursor) :
    (w.record cursor).SamePlace (w'.record cursor) := ⟨h.kind_eq, h.key_eq, h.args_eq, rfl⟩

/-- A call has the same answer on both walks, and leaves them at the same place. -/
theorem step (h : w.SamePlace w') (m : Move ε) :
    w'.answer m = w.answer m ∧ (w.move m).SamePlace (w'.move m) := by
  -- a reply is read by the kind of the walk alone, and its cursor takes the place of the state
  cases m with
  | next => exact ⟨congrArg Answer.command h.nextCommand?_eq, h⟩
  | advance reply =>
    simp only [answer, move, advance, h.kind_eq]
    cases scanPage w.kind reply with
    | error f => exact ⟨rfl, h⟩
    | ok page => exact ⟨rfl, h.record _⟩
  | stream channel g reply =>
    simp only [answer, move, advanceStreaming, h.kind_eq]
    rcases scanStream w.kind channel reply g with ⟨f | page, g'⟩
    · exact ⟨rfl, h⟩
    · exact ⟨rfl, h.record _⟩

/-- **Walks at the same place answer alike**, whatever is called. -/
theorem answers_eq (h : w.SamePlace w') (moves : List (Move ε)) :
    w'.answers moves = w.answers moves ∧ (w.run moves).SamePlace (w'.run moves) := by
  induction moves generalizing w w' with
  | nil => exact ⟨rfl, h⟩
  | cons m moves ih =>
    obtain ⟨hanswer, hmove⟩ := h.step m
    obtain ⟨hanswers, hrun⟩ := ih hmove
    exact ⟨by rw [answers, answers, hanswer, hanswers], hrun⟩

/-- The steps of both walks grow by the same number. -/
theorem steps_add (h : w.SamePlace w') (moves : List (Move ε)) :
    (w.run moves).steps + w'.steps = w.steps + (w'.run moves).steps := by
  rw [run_eq, run_eq, h.kind_eq]
  show w.steps + _ + w'.steps = w.steps + (w'.steps + _)
  omega

theorem halts (h : w.SamePlace w') {n : Nat} {ending : Ending} (hhalts : c.Halts n w s ending s') :
    c.Halts n w' s ending s' := by
  cases hhalts with
  | finished hover => exact .finished (h.nextCommand?_eq.trans hover)
  | cut hcommand => exact .cut (h.nextCommand?_eq.trans hcommand)
  | refused hrefused => exact .refused (h.nextCommand?_eq.trans hrefused)
  | unsent hcommand hsend => exact .unsent (h.nextCommand?_eq.trans hcommand) hsend
  | unread hcommand hsend hpage =>
    exact .unread (h.nextCommand?_eq.trans hcommand) hsend (by rwa [h.kind_eq])

/-- **Walks at the same place yield the same pages.** -/
theorem outcomes_eq (h : w.SamePlace w') (c : Client σ) (n : Nat) (s : σ) :
    (Pages.take c n ⟨w', false⟩ s).1.map (·.1) = (Pages.take c n ⟨w, false⟩ s).1.map (·.1) := by
  induction n generalizing w w' s with
  | zero => rfl
  | succ n ih =>
    rcases c.next_cases w s with hover | ⟨f, s₁, hhalts⟩ | ⟨leg, s₁, hcommand, hsend, hpage⟩
    · rw [Client.take_of_next (Client.next_of_finished c hover s),
        Client.take_of_next (Client.next_of_finished c (h.nextCommand?_eq.trans hover) s)]
    · rw [Client.take_failed hhalts, Client.take_failed (h.halts hhalts)]
      rfl
    · rw [Pages.take, Pages.take, Client.next_of_leg hcommand hsend hpage,
        Client.next_of_leg (h.nextCommand?_eq.trans hcommand) hsend (by rwa [h.kind_eq])]
      exact congrArg (.ok leg.page.elements :: ·) (ih (h.record leg.page.cursor) s₁)

end Walk.SamePlace

/-! ### Pages in two goes -/

/-- An iterator that is at its end stays there. -/
theorem Pages.eq_of_next {p p' : Pages ε} (h : p.next c s = (none, p', s')) :
    p' = p ∧ s' = s := by
  obtain ⟨w, failed⟩ := p
  cases failed with
  | true =>
    cases h
    exact ⟨rfl, rfl⟩
  | false =>
    rcases c.next_cases w s with hover | ⟨f, s₁, hhalts⟩ | ⟨leg, s₁, hcommand, hsend, hpage⟩
    · rw [Client.next_of_finished c hover s] at h
      cases h
      exact ⟨rfl, rfl⟩
    · rw [Client.next_of_halts hhalts] at h
      cases h
    · rw [Client.next_of_leg hcommand hsend hpage] at h
      cases h

/-- **Pages can be taken in two goes.** -/
theorem Pages.take_add {p p' : Pages ε} {items : List (Outcome (List ε) × Walk ε)} {n : Nat}
    (h : p.take c n s = (items, p', s')) (m : Nat) :
    p.take c (n + m) s = (items ++ (p'.take c m s').1, (p'.take c m s').2) := by
  induction n generalizing p s items with
  | zero =>
    cases h
    rw [Nat.zero_add, List.nil_append]
  | succ n ih =>
    rw [take] at h
    rw [Nat.add_right_comm, take]
    rcases hnext : p.next c s with ⟨_ | page, p₁, s₁⟩
    · -- at its end the iterator yields nothing in the second go either
      rw [hnext] at h
      cases h
      obtain ⟨rfl, rfl⟩ := eq_of_next hnext
      rw [Client.take_of_next hnext]
      rfl
    · rw [hnext] at h
      rcases hrest : p₁.take c n s₁ with ⟨rest, p₂, s₂⟩
      simp only [hrest] at h
      cases h
      simp only [ih hrest, List.cons_append]

/-- The walk at which a client stops taking pages is what calls make of the first one, each of which
took a page. -/
theorem Pages.exists_run_of_take {items : List (Outcome (List ε) × Walk ε)} {n : Nat}
    (h : Pages.take c n ⟨w, false⟩ s = (items, ⟨w', false⟩, s')) :
    ∃ replies : List Reply, w' = w.run (replies.map .advance) ∧
      w.taken (replies.map .advance) = replies ∧ replies.length = items.length := by
  induction n generalizing w s items with
  | zero =>
    cases h
    exact ⟨[], rfl, rfl, rfl⟩
  | succ n ih =>
    rcases c.next_cases w s with hover | ⟨f, s₁, hhalts⟩ | ⟨leg, s₁, hcommand, hsend, hpage⟩
    · rw [Client.take_of_next (Client.next_of_finished c hover s)] at h
      cases h
      exact ⟨[], rfl, rfl, rfl⟩
    · rw [Client.take_failed hhalts] at h
      cases h
    · rw [take, Client.next_of_leg hcommand hsend hpage] at h
      rcases hrest : take c n ⟨w.record leg.page.cursor, false⟩ s₁ with ⟨rest, p, s₂⟩
      simp only [hrest] at h
      cases h
      obtain ⟨replies, hrun, htaken, hlength⟩ := ih hrest
      have hadvance : w.advance leg.reply =
          (.ok leg.page.elements, w.record leg.page.cursor) := by
        rw [Walk.advance, hpage]
      refine ⟨leg.reply :: replies, ?_, ?_, ?_⟩
      · rw [hrun]
        show _ = (w.advance leg.reply).2.run _
        rw [hadvance]
      · rw [List.map_cons, Walk.taken, Walk.answer, Walk.move, hadvance]
        exact congrArg (leg.reply :: ·) htaken
      · rw [List.length_cons, List.length_cons, hlength]

/-! ### States that no step changes -/

/-- No command of the kind changes the state. -/
def Client.Still (c : Client σ) (kind : CommandKind) (s : σ) : Prop :=
  ∀ args, (c.transport.send ⟨kind, args⟩ s).2 = s

namespace Client.Still

theorem sendStep (h : c.Still w.kind.command s) {command : Command}
    (hcommand : w.nextCommand? = .ok (some command)) : (c.sendStep command s).2 = s := by
  -- only a walk that is not over asks, and what it asks is a command of its kind
  rw [Walk.nextCommand?] at hcommand
  by_cases hdone : w.isDone = true
  · rw [if_pos hdone] at hcommand
    cases hcommand
  · rw [if_neg hdone] at hcommand
    cases hscan : scanCommand w.kind w.key w.state.cursor? w.args with
    | error f =>
      rw [hscan] at hcommand
      cases hcommand
    | ok asked =>
      rw [hscan] at hcommand
      cases hcommand
      obtain ⟨token, clauses, rfl, -⟩ := scanCommand_eq_ok hscan
      exact h _

/-- **Taking pages leaves such a state as it is.** -/
theorem take (h : c.Still w.kind.command s) (n : Nat) :
    (Pages.take c n ⟨w, false⟩ s).2.2 = s := by
  induction n generalizing w with
  | zero => rfl
  | succ n ih =>
    rcases c.next_cases w s with hover | ⟨f, s₁, hhalts⟩ | ⟨leg, s₁, hcommand, hsend, hpage⟩
    · rw [take_of_next (next_of_finished c hover s)]
    · rw [take_failed hhalts]
      cases hhalts with
      | refused _ => rfl
      | unsent hcommand hsend => exact (congrArg Prod.snd hsend).symm.trans (h.sendStep hcommand)
      | unread hcommand hsend _ => exact (congrArg Prod.snd hsend).symm.trans (h.sendStep hcommand)
    · obtain rfl : s₁ = s := (congrArg Prod.snd hsend).symm.trans (h.sendStep hcommand)
      rw [Pages.take, next_of_leg hcommand hsend hpage]
      exact ih h

end Client.Still

/-- The store itself is changed by no step of a walk. -/
theorem Store.still [GlobEngine] (options : ClientOptions) (t : CollectionType) (s : Store) :
    (Client.blocking .store options).Still t.scan.command s := by
  intro args
  show (s.apply ⟨t.scan.command, args⟩).2 = s
  cases hq : Request.ofCommand ⟨t.scan.command, args⟩ with
  | error f => simp only [Store.apply, hq]
  | ok request =>
    rw [Store.apply_of_ofCommand hq]
    obtain ⟨key, listed, -, hasked⟩ := Request.askedBy_of_ofCommand hq
    cases t with
    | hash | sortedSet => rcases hasked with ⟨query, rfl⟩ | ⟨query, rfl⟩ <;> rfl

/-! ### Stopping and resuming -/

namespace Walk

/-- A walk that is resumed from the cursor of a walk is at its place. -/
theorem samePlace_resume {moves : List (Move ε)} {cursor : Cursor}
    (h : (w.run moves).state = .after cursor) :
    (w.run moves).SamePlace (resume w.kind w.key cursor w.args) := by
  have hrun := w.run_eq moves
  exact ⟨(congrArg Walk.kind hrun).symm, (congrArg Walk.key hrun).symm,
    (congrArg Walk.args hrun).symm, h.symm⟩

/-- A walk that took a page stands at its cursor. -/
theorem exists_cursor_of_taken {moves : List (Move ε)} (h : w.taken moves ≠ []) :
    ∃ cursor, (w.run moves).state = .after cursor := by
  obtain ⟨-, -, hstate⟩ := w.run_taken moves
  obtain ⟨token, -, hafter⟩ := hstate _ (List.getLast?_eq_some_getLast h)
  exact ⟨_, hafter⟩

/-- **A walk is resumed from its cursor.**  Whatever was called on a walk, if a page was taken then
the walk stands at a cursor, over or not, and the cursor is read back from its text.  The walk that
is resumed from there, with the same key and arguments, begins with no steps.  It gives the same
answers to whatever is called, asks for the same, and stands where the walk itself would stand; the
steps of the two grow by the same number.

So the pages that a client took in front of the stop, with those of the resumed walk behind them,
are the pages of the walk that was not stopped, if the resumed walk finds the state that the stopped
one left.  In a state that no step changes it does. -/
theorem resume_of_taken [JsonCodec] (hcodec : JsonCodec.ListsByteNumbers) {w₀ : Walk ε}
    {moves : List (Move ε)} (htaken : w₀.taken moves ≠ []) :
    let w := w₀.run moves
    ∃ cursor, w.state.cursor? = some cursor ∧ Cursor.ofJson? cursor.toJson = some cursor ∧
      let w' := resume w₀.kind w₀.key cursor w₀.args
      w'.steps = 0 ∧
      (∀ later, w'.answers later = w.answers later ∧
        (w'.run later).nextCommand? = (w.run later).nextCommand? ∧
        (w'.run later).state = (w.run later).state ∧
        (w.run later).steps = w.steps + (w'.run later).steps) ∧
      ∀ {σ : Type} (c : Client σ) (s s' : σ) (n : Nat) (items : List (Outcome (List ε) × Walk ε)),
        Pages.take c n ⟨w₀, false⟩ s = (items, ⟨w, false⟩, s') →
          (∀ m, (Pages.take c (n + m) ⟨w₀, false⟩ s).1.map (·.1) =
            items.map (·.1) ++ (Pages.take c m ⟨w', false⟩ s').1.map (·.1)) ∧
          (c.Still w₀.kind.command s → s' = s) := by
  intro w
  obtain ⟨cursor, hafter⟩ := exists_cursor_of_taken htaken
  have hcursor : w.state.cursor? = some cursor := by
    rw [hafter, CursorState.after]
    cases cursor.finished <;> rfl
  refine ⟨cursor, hcursor, cursor.ofJson?_toJson hcodec, ?_⟩
  intro w'
  -- all that is said of the two walks follows from their being at the same place
  have hplace : w.SamePlace w' := samePlace_resume hafter
  refine ⟨rfl, fun later => ?_, fun c s s' n items htake => ⟨fun m => ?_, fun hstill => ?_⟩⟩
  · obtain ⟨hanswers, hrun⟩ := hplace.answers_eq later
    have hsteps := hplace.steps_add later
    exact ⟨hanswers, hrun.nextCommand?_eq, hrun.state_eq, hsteps⟩
  · rw [Pages.take_add htake, List.map_append, hplace.outcomes_eq c m s']
  · have hleft := hstill.take n
    rwa [htake] at hleft

attribute [local instance] Glob.engine JsonCodec.compact

/-- Three fields, one on each page, and a stop behind the first. -/
theorem resume_of_taken_three_fields :
    let h : Hash := ((ByteMap.empty.insert [0x61] [1]).insert [0x62] [2]).insert [0x63] [3]
    let s := Store.empty.put [0x68] (.hash h)
    let c := Client.blocking .store {}
    let args : Option ScanArgs := some { count := some 1 }
    let w₀ := start hashScan [0x68] args
    let w' := resume hashScan [0x68] ⟨[0x31], false⟩ args
    Cursor.ofJson? (Cursor.toJson ⟨[0x31], false⟩) = some ⟨[0x31], false⟩ ∧ c.Still .hscan s ∧
      (Pages.take c 3 ⟨w₀, false⟩ s).1.map (·.1) =
        .ok [⟨[0x61], [1]⟩] :: (Pages.take c 2 ⟨w', false⟩ s).1.map (·.1) := by
  intro h s c args w₀ w'
  let reply : Reply := .array [.value [0x31], .array [.value [0x61], .value [1]]]
  have htaken : w₀.taken [.advance reply] ≠ [] := by decide +kernel
  obtain ⟨cursor, hcursor, hjson, -, -, hpages⟩ :=
    resume_of_taken JsonCodec.listsByteNumbers_compact htaken
  have hstate : (w₀.run [.advance reply]).state = .inProgress ⟨[0x31], false⟩ := by decide +kernel
  rw [hstate] at hcursor
  cases hcursor
  let leg : Leg KeyValue := ⟨⟨.hscan, [[0x68], [0x30], Bytes.ofString "COUNT", [0x31]]⟩, reply,
    ⟨.ofToken [0x31], [⟨[0x61], [1]⟩]⟩⟩
  have hcommand : w₀.nextCommand? = .ok (some leg.command) := rfl
  have happly : s.apply leg.command = (leg.reply, s) := by
    simp only [s, h, leg, reply]
    rfl
  have hsend : c.sendStep leg.command s = (.ok leg.reply, s) := by
    show (withContext _ (.ok (s.apply leg.command).1), (s.apply leg.command).2) = _
    rw [happly]
    rfl
  have hpage : scanPage w₀.kind leg.reply = .ok leg.page := by
    show scanPage hashScan leg.reply = _
    rfl
  have hrun : w₀.run [.advance reply] = w₀.record (.ofToken [0x31]) := by
    show (w₀.advance leg.reply).2 = _
    rw [advance, hpage]
  have htake : Pages.take c 1 ⟨w₀, false⟩ s =
      ([(.ok [⟨[0x61], [1]⟩], w₀.run [.advance reply])], ⟨w₀.run [.advance reply], false⟩, s) := by
    rw [Pages.take, Client.next_of_leg hcommand hsend hpage, hrun]
    rfl
  exact ⟨hjson, Store.still {} .hash s, (hpages c s s 1 _ htake).1 2⟩

end Walk

end KeyWalk
