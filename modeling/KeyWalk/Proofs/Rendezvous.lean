import Mathlib.Data.List.Induction
import KeyWalk.Client.Completion

/-!
Both ends of a completion handle on one clock.

The consumer polls the handle, waits on it or drops it, the producer delivers a result or goes
away, and their steps come in any order, also while a wait is under way.  Everything that is ever
answered is told by three things of the steps before: what the producer did first, the wait that
took the handle, and whether the handle is gone.

* `Rendezvous.step`: one step, by the functions of an `Exchange`,
* `Rendezvous.fits_step`: what one step answers and makes of the two ends,
* `Rendezvous.fits_run`: the same of any number of steps on a new pair,
* `Rendezvous.keeps_of_run`: what it means for the caller,
* `Rendezvous.returned_played`: a wait in one piece, `Completion.wait`, is the wait of these steps
  with the producer acting in its time.

Design notes.  A wait looks at the handle first and at its limit second, when it begins and whenever
it is woken.  Blocking on a handle is a wait without a limit.
-/

namespace KeyWalk

variable {α : Type}

/-! ### Steps -/

/-- A step on a pair of ends, or on the clock. -/
inductive Beat (α : Type) where
  | poll
  /-- Begins to wait, for at most `limit` milliseconds; the wait takes the handle. -/
  | wait (limit : Option Nat)
  /-- Wakes the wait. -/
  | wake
  /-- Drops the handle, or the wait that took it. -/
  | drop
  | complete (result : Outcome α)
  /-- The producer goes away. -/
  | leave
  | pass (ms : Nat)

/-- What a step answers. -/
inductive Beat.Answer (α : Type) where
  | nothing
  | ready (resolved : Bool)
  | delivered (held : Bool)
  | returned (result : Outcome α)

/-- What the producer does in a step, as the handle will tell it. -/
def Beat.verdict? : Beat α → Option (Outcome α)
  | complete result => some result
  | leave => some (.error abandoned)
  | _ => none

/-- The milliseconds that a step takes. -/
def Beat.duration : Beat α → Nat
  | pass ms => ms
  | _ => 0

open Beat (Answer)

/-- Both ends, and the wait that took the handle: its limit and the time since it began. -/
structure Rendezvous (α : Type) where
  ends : Exchange α := .channel
  waiting : Option (Option Nat × Nat) := none

namespace Rendezvous

/-- The limit is over. -/
def overdue (limit : Option Nat) (elapsed : Nat) : Bool := limit.any (· ≤ elapsed)

/-- The wait looks at the handle, and then at its limit. -/
def wake (m : Rendezvous α) : Answer α × Rendezvous α :=
  match m.waiting with
  | none => (.nothing, m)
  | some (limit, elapsed) =>
    if m.ends.poll.1 = some true ∨ overdue limit elapsed = true then
      ((m.ends.wait limit).1.elim .nothing .returned, ⟨(m.ends.wait limit).2, none⟩)
    else (.nothing, m)

/-- One step.  A handle that a wait took can be neither polled nor waited on. -/
def step (m : Rendezvous α) : Beat α → Answer α × Rendezvous α
  | .poll =>
    if m.waiting.isNone then
      (m.ends.poll.1.elim .nothing .ready, { m with ends := m.ends.poll.2 })
    else (.nothing, m)
  | .wait limit =>
    if m.waiting.isNone ∧ m.ends.handle.isSome then
      { m with waiting := some (limit, 0) }.wake
    else (.nothing, m)
  | .wake => m.wake
  | .drop => (.nothing, ⟨m.ends.dropHandle, none⟩)
  | .complete result =>
    ((m.ends.complete result).1.elim .nothing .delivered,
      { m with ends := (m.ends.complete result).2 })
  | .leave => (.nothing, { m with ends := m.ends.dropProducer })
  | .pass ms => (.nothing, { m with waiting := m.waiting.map fun w => (w.1, w.2 + ms) })

/-- The answers to some steps, and the two ends after them. -/
def run (m : Rendezvous α) (beats : List (Beat α)) : List (Answer α) × Rendezvous α :=
  beats.foldl (fun s b => (s.1 ++ [(s.2.step b).1], (s.2.step b).2)) ([], m)

theorem run_concat (m : Rendezvous α) (beats : List (Beat α)) (b : Beat α) :
    m.run (beats ++ [b]) =
      ((m.run beats).1 ++ [((m.run beats).2.step b).1], ((m.run beats).2.step b).2) := by
  rw [run, List.foldl_append]
  rfl

/-! ### What the steps tell -/

/-- What the producer did first. -/
def verdict? (beats : List (Beat α)) : Option (Outcome α) := beats.findSome? Beat.verdict?

/-- The first wait that was begun: its limit and the time since. -/
def waited? : List (Beat α) → Option (Option Nat × Nat)
  | [] => none
  | .wait limit :: later => some (limit, (later.map Beat.duration).sum)
  | _ :: later => waited? later

/-- The handle was dropped, or a wait on it returned. -/
def Gone (beats : List (Beat α)) : Prop :=
  .drop ∈ beats ∨ ∃ result, .returned result ∈ (run {} beats).1

/-- What a wait answers that looks at the handle. -/
def due (limit : Option Nat) (elapsed : Nat) : Option (Outcome α) → Answer α
  | some result => .returned result
  | none =>
    match limit with
    | none => .nothing
    | some l => if l ≤ elapsed then .returned (.error (timedOut l)) else .nothing

theorem verdict?_concat (beats : List (Beat α)) (b : Beat α) :
    verdict? (beats ++ [b]) = (verdict? beats).or b.verdict? := by
  rw [verdict?, List.findSome?_append, List.findSome?_singleton]
  rfl

/-- The wait after one more step. -/
def waitAfter (b : Beat α) : Option (Option Nat × Nat) → Option (Option Nat × Nat)
  | some (limit, elapsed) => some (limit, elapsed + b.duration)
  | none =>
    match b with
    | .wait limit => some (limit, 0)
    | _ => none

theorem waited?_concat (beats : List (Beat α)) (b : Beat α) :
    waited? (beats ++ [b]) = waitAfter b (waited? beats) := by
  induction beats with
  | nil => cases b <;> rfl
  | cons first beats ih =>
    cases first with
    | wait limit =>
      show some (limit, ((beats ++ [b]).map Beat.duration).sum) = _
      rw [List.map_append, List.sum_append]
      rfl
    | _ => exact ih

end Rendezvous

/-! ### The handle -/

/-- The handle tells what the producer did, or will tell it when it is polled. -/
inductive Completion.Shows : Completion α → Option (Outcome α) → Prop where
  | idle : Shows (pending .never) none
  | arrived {a : Arrival α} {result : Outcome α} (h : a.event? = some (0, result)) :
      Shows (pending a) (some result)
  | resolved (result : Outcome α) : Shows (ofOutcome result) (some result)

/-- The handle that was polled after the producer did this. -/
def Completion.settled (verdict : Option (Outcome α)) : Completion α :=
  verdict.elim (.pending .never) .ofOutcome

namespace Completion.Shows

variable {h : Completion α} {verdict : Option (Outcome α)}

theorem poll (hs : h.Shows verdict) : h.poll = (verdict.isSome, settled verdict) := by
  cases hs with
  | idle => rfl
  | arrived ha =>
    rw [Completion.poll, ha]
    rfl
  | resolved result => cases result <;> rfl

theorem settled (verdict : Option (Outcome α)) : (Completion.settled verdict).Shows verdict := by
  cases verdict with
  | none => exact .idle
  | some result => exact .resolved result

theorem wait {result : Outcome α} (hs : h.Shows (some result)) (limit : Option Nat) :
    h.wait limit = some result := by
  cases hs with
  | arrived ha => cases limit <;> simp [Completion.wait, Arrival.wait, ha]
  | resolved => cases result <;> rfl

theorem wait_idle (hs : h.Shows none) (limit : Nat) :
    h.wait (some limit) = some (.error (timedOut limit)) := by
  cases hs
  rfl

end Completion.Shows

namespace Rendezvous

/-- The producer is used up once it acted, else it is as told. -/
def producer (verdict : Option (Outcome α)) (otherwise : Producer) : Producer :=
  if verdict.isSome then .absent else otherwise

/-- The two ends are as the steps before tell. -/
inductive Fits : Rendezvous α → Option (Outcome α) → Option (Option Nat × Nat) → Bool → Prop where
  | held {h : Completion α} {verdict : Option (Outcome α)} {waited : Option (Option Nat × Nat)}
      (hs : h.Shows verdict) : Fits ⟨⟨some h, producer verdict .linked⟩, waited⟩ verdict waited false
  | gone (verdict : Option (Outcome α)) (waited : Option (Option Nat × Nat)) :
      Fits ⟨⟨none, producer verdict .orphaned⟩, none⟩ verdict waited true

theorem Fits.of_held {m : Rendezvous α} {h : Completion α} {verdict : Option (Outcome α)}
    {waited : Option (Option Nat × Nat)} (hs : h.Shows verdict)
    (hm : m = ⟨⟨some h, producer verdict .linked⟩, waited⟩) : Fits m verdict waited false := by
  rw [hm]
  exact .held hs

theorem Fits.of_gone {m : Rendezvous α} {verdict : Option (Outcome α)}
    {waited : Option (Option Nat × Nat)} (hm : m = ⟨⟨none, producer verdict .orphaned⟩, none⟩) :
    Fits m verdict waited true := by
  rw [hm]
  exact .gone _ _

/-- What a step answers, told by the steps before. -/
def told (verdict : Option (Outcome α)) (waited : Option (Option Nat × Nat)) (gone : Bool) :
    Beat α → Answer α
  | .poll => if gone || waited.isSome then .nothing else .ready verdict.isSome
  | .wait limit => if gone || waited.isSome then .nothing else due limit 0 verdict
  | .wake =>
    match gone, waited with
    | false, some (limit, elapsed) => due limit elapsed verdict
    | _, _ => .nothing
  | .complete _ => if verdict.isSome then .nothing else .delivered (!gone)
  | _ => .nothing

/-- The step ends the handle. -/
def isLast (b : Beat α) (answer : Answer α) : Bool :=
  match b, answer with
  | .drop, _ | _, .returned _ => true
  | _, _ => false

section Step

variable {m : Rendezvous α} {verdict : Option (Outcome α)} {waited : Option (Option Nat × Nat)}
  {limit : Option Nat} {elapsed : Nat} {gone : Bool}

/-- A wait that looks at the handle returns, or it is as it was. -/
theorem wake_held {h : Completion α} (hs : h.Shows verdict) (p : Producer) :
    wake ⟨⟨some h, p⟩, some (limit, elapsed)⟩ =
      match due limit elapsed verdict with
      | .returned result => (.returned result, ⟨⟨none, Exchange.unlinked p⟩, none⟩)
      | _ => (.nothing, ⟨⟨some h, p⟩, some (limit, elapsed)⟩) := by
  have hpoll : (Exchange.poll ⟨some h, p⟩).1 = some verdict.isSome := by
    simp only [Exchange.poll, hs.poll]
  rw [wake]
  simp only [hpoll]
  cases verdict with
  | some result => simp [due, Exchange.wait, hs.wait, Exchange.dropHandle]
  | none =>
    cases limit with
    | none => simp [due, overdue]
    | some l =>
      by_cases hl : l ≤ elapsed
      · simp [due, overdue, hl, Exchange.wait, hs.wait_idle, Exchange.dropHandle]
      · simp [due, overdue, hl]

/-- What a wait answers is its return or nothing. -/
theorem due_cases (limit : Option Nat) (elapsed : Nat) (verdict : Option (Outcome α)) :
    due limit elapsed verdict = .nothing ∨
      ∃ result, due limit elapsed verdict = .returned result := by
  cases verdict with
  | some result => exact .inr ⟨result, rfl⟩
  | none =>
    cases limit with
    | none => exact .inl rfl
    | some l =>
      by_cases hl : l ≤ elapsed
      · exact .inr ⟨_, if_pos hl⟩
      · exact .inl (if_neg hl)

/-- The wait of a handle that is there, begun or woken. -/
theorem fits_wake {h : Completion α} (hs : h.Shows verdict) (limit : Option Nat) (elapsed : Nat)
    {b : Beat α} (hb : b ≠ .drop) :
    let r := wake ⟨⟨some h, producer verdict .linked⟩, some (limit, elapsed)⟩
    r.1 = due limit elapsed verdict ∧
      Fits r.2 verdict (some (limit, elapsed)) (isLast b (due limit elapsed verdict)) := by
  intro r
  have hr : r = _ := wake_held hs _
  rcases due_cases limit elapsed verdict with hdue | ⟨result, hdue⟩
  · rw [hdue] at hr ⊢
    have hlast : isLast b (.nothing : Answer α) = false := by
      cases b <;> first | rfl | exact absurd rfl hb
    rw [hr, hlast]
    exact ⟨rfl, .held hs⟩
  · rw [hdue] at hr ⊢
    have hlast : isLast b (.returned result) = true := by
      cases b <;> rfl
    have hproducer : Exchange.unlinked (producer verdict .linked) = producer verdict .orphaned := by
      cases verdict <;> rfl
    rw [hr, hlast, hproducer]
    exact ⟨rfl, .gone _ _⟩

theorem ends_poll (hfits : Fits m verdict none false) :
    (m.step .poll).2.ends = ⟨some (.settled verdict), producer verdict .linked⟩ := by
  cases hfits with
  | held hs =>
    simp only [step, Exchange.poll, hs.poll]
    rfl

theorem fits_step (hfits : Fits m verdict waited gone) (b : Beat α) :
    (m.step b).1 = told verdict waited gone b ∧
      Fits (m.step b).2 (verdict.or b.verdict?) (waitAfter b waited)
        (gone || isLast b (told verdict waited gone b)) := by
  cases hfits with
  | gone =>
    rw [Bool.true_or]
    refine ⟨?_, .of_gone ?_⟩
    · cases b <;> cases verdict <;> rfl
    · cases b <;> cases verdict <;> rfl
  | held hs =>
    rw [Bool.false_or]
    cases b with
    | poll =>
      cases waited with
      | none =>
        simp only [step, Exchange.poll, hs.poll, Beat.verdict?, Option.or_none]
        exact ⟨rfl, .of_held (.settled verdict) rfl⟩
      | some w =>
        -- a wait took the handle, so there is none to poll
        simp only [Beat.verdict?, Option.or_none]
        exact ⟨rfl, .of_held hs rfl⟩
    | wait limit =>
      simp only [Beat.verdict?, Option.or_none]
      cases waited with
      | none => exact fits_wake hs limit 0 nofun
      | some w => exact ⟨rfl, .of_held hs rfl⟩
    | wake =>
      simp only [Beat.verdict?, Option.or_none]
      cases waited with
      | none => exact ⟨rfl, .of_held hs rfl⟩
      | some w => exact fits_wake hs w.1 w.2 nofun
    | drop => cases verdict <;> exact ⟨rfl, .of_gone rfl⟩
    | complete result =>
      cases verdict with
      | none =>
        -- the result is there, and nobody has looked at it yet
        refine ⟨rfl, .of_held (.arrived (a := .delivers 0 result) rfl) ?_⟩
        cases waited <;> rfl
      | some r =>
        refine ⟨rfl, .of_held hs ?_⟩
        cases waited <;> rfl
    | leave =>
      cases verdict with
      | none =>
        refine ⟨rfl, .of_held (.arrived (a := .leaves 0) rfl) ?_⟩
        cases waited <;> rfl
      | some r =>
        refine ⟨rfl, .of_held hs ?_⟩
        cases waited <;> rfl
    | pass ms =>
      simp only [Beat.verdict?, Option.or_none]
      refine ⟨rfl, .of_held hs ?_⟩
      cases waited <;> rfl

end Step

theorem gone_concat (beats : List (Beat α)) (b : Beat α) :
    Gone (beats ++ [b]) ↔ Gone beats ∨ isLast b ((run {} beats).2.step b).1 = true := by
  have hlast : ∀ answer : Answer α, isLast b answer = true ↔
      .drop = b ∨ ∃ result, .returned result = answer := by
    intro answer
    cases b <;> cases answer <;> simp [isLast]
  rw [hlast, Gone, Gone, run_concat]
  simp only [List.mem_append, List.mem_singleton, exists_or]
  tauto

/-- After any steps on a new pair, the two ends are as these steps tell. -/
theorem fits_run (beats : List (Beat α)) :
    ∃ gone : Bool, (gone = true ↔ Gone beats) ∧
      Fits (run {} beats).2 (verdict? beats) (waited? beats) gone := by
  -- a step is told by the steps before it, so the induction goes from the back
  induction beats using List.reverseRecOn with
  | nil => exact ⟨false, ⟨nofun, fun h => by simp [Gone, run] at h⟩, .of_held .idle rfl⟩
  | append_singleton beats b ih =>
    obtain ⟨gone, hgone, hfits⟩ := ih
    obtain ⟨hanswer, hnext⟩ := fits_step hfits b
    rw [← hanswer] at hnext
    refine ⟨gone || isLast b ((run {} beats).2.step b).1, ?_, ?_⟩
    · rw [Bool.or_eq_true, hgone, gone_concat]
    · rw [run_concat, verdict?_concat, waited?_concat]
      exact hnext

theorem Gone.append {beats : List (Beat α)} (h : Gone beats) (later : List (Beat α)) :
    Gone (beats ++ later) := by
  induction later using List.reverseRecOn with
  | nil => rwa [List.append_nil]
  | append_singleton later b ih =>
    rw [← List.append_assoc, gone_concat]
    exact .inl ih

/-- A resolved handle stays as it is until it is gone. -/
theorem step_resolved {m : Rendezvous α} {result : Outcome α}
    (hm : m.ends = ⟨some (.ofOutcome result), .absent⟩) (b : Beat α)
    (hlast : isLast b (m.step b).1 = false) :
    (m.step b).2.ends = ⟨some (.ofOutcome result), .absent⟩ := by
  obtain ⟨_, waiting⟩ := m
  cases hm
  have hs : (Completion.ofOutcome result).Shows (some result) := .resolved result
  -- a wait that looks at the handle returns
  have hwake : ∀ w, (wake ⟨⟨some (.ofOutcome result), .absent⟩, some w⟩).1 = .returned result := by
    intro w
    rw [wake_held hs]
    rfl
  cases b with
  | poll =>
    cases waiting with
    | none =>
      simp only [step, Exchange.poll, hs.poll]
      rfl
    | some w => rfl
  | wait limit =>
    cases waiting with
    | none =>
      have hreturned : (step ⟨⟨some (.ofOutcome result), .absent⟩, none⟩ (.wait limit)).1 =
          .returned result := hwake (limit, 0)
      rw [hreturned] at hlast
      nomatch hlast
    | some w => rfl
  | wake =>
    cases waiting with
    | none => rfl
    | some w =>
      have hreturned : (step ⟨⟨some (.ofOutcome result), .absent⟩, some w⟩ .wake).1 =
          .returned result := hwake w
      rw [hreturned] at hlast
      nomatch hlast
  | drop => nomatch hlast
  | complete r => rfl
  | leave => rfl
  | pass ms => rfl

theorem run_resolved {beats : List (Beat α)} {result : Outcome α}
    (h : (run {} beats).2.ends = ⟨some (.ofOutcome result), .absent⟩) (later : List (Beat α))
    (hgone : ¬Gone (beats ++ later)) :
    (run {} (beats ++ later)).2.ends = ⟨some (.ofOutcome result), .absent⟩ := by
  induction later using List.reverseRecOn with
  | nil => rwa [List.append_nil]
  | append_singleton later b ih =>
    rw [← List.append_assoc] at hgone ⊢
    rw [gone_concat, not_or] at hgone
    rw [run_concat]
    exact step_resolved (ih hgone.1) b (Bool.eq_false_iff.2 hgone.2)

/-- What holds after some steps on a new pair. -/
structure Keeps (beats : List (Beat α)) : Prop where
  /-- A poll tells whether the producer acted.  If not, then it leaves the handle pending. -/
  polls : ¬Gone beats → waited? beats = none →
    ((run {} beats).2.step .poll).1 = .ready (verdict? beats).isSome ∧
      ((run {} beats).2.step .poll).2.ends.handle = some (.settled (verdict? beats))
  /-- After the poll the handle holds what the producer did, and no step changes it. -/
  holds : ∀ {result : Outcome α}, verdict? beats = some result → waited? beats = none →
    ∀ later, ¬Gone (beats ++ .poll :: later) →
      (run {} (beats ++ .poll :: later)).2.ends.handle = some (.ofOutcome result)
  /-- What the producer did first is all that it did. -/
  stays : ∀ {result : Outcome α}, verdict? beats = some result →
    ∀ later, verdict? (beats ++ later) = some result
  /-- A wait returns at once if the producer acted, or if its limit is zero. -/
  begins : ¬Gone beats → waited? beats = none → ∀ limit,
    ((run {} beats).2.step (.wait limit)).1 = due limit 0 (verdict? beats)
  /-- A wait that goes on returns what the producer did, or that its limit is over. -/
  wakes : ¬Gone beats → ∀ limit elapsed, waited? beats = some (limit, elapsed) →
    ((run {} beats).2.step .wake).1 = due limit elapsed (verdict? beats)
  /-- The producer is told whether its handle was there. -/
  delivers : verdict? beats = none → ∀ result : Outcome α,
    (¬Gone beats → ((run {} beats).2.step (.complete result)).1 = .delivered true) ∧
      (Gone beats → ((run {} beats).2.step (.complete result)).1 = .delivered false)
  /-- Nothing comes of a handle that is gone, so a wait returns once. -/
  ended : Gone beats → ((run {} beats).2.step .poll).1 = .nothing ∧
    ((run {} beats).2.step .wake).1 = .nothing ∧
      ∀ limit, ((run {} beats).2.step (.wait limit)).1 = .nothing

/-- **Both ends of a handle**, after any steps in any order: polls, waits and the producer are
answered as the steps before tell, and no order loses or changes what the producer did first. -/
theorem keeps_of_run (beats : List (Beat α)) :
    Keeps beats ∧ abandoned.status = .transportFailure ∧
      ∀ limit, (timedOut limit).status = .transportFailure := by
  refine ⟨?_, rfl, fun _ => rfl⟩
  obtain ⟨gone, hgone, hfits⟩ := fits_run beats
  have htold : ∀ b, ((run {} beats).2.step b).1 = told (verdict? beats) (waited? beats) gone b :=
    fun b => (fits_step hfits b).1
  have hheld : ¬Gone beats → gone = false := fun h => Bool.eq_false_iff.2 (mt hgone.1 h)
  constructor
  case polls =>
    intro h hwaited
    rw [hwaited, hheld h] at hfits
    rw [htold, hwaited, hheld h, ends_poll hfits]
    exact ⟨rfl, rfl⟩
  case holds =>
    intro result h hwaited later hnot
    rw [← List.singleton_append, ← List.append_assoc] at hnot ⊢
    have hbefore : ¬Gone beats := fun h => hnot ((h.append [.poll]).append later)
    rw [h, hwaited, hheld hbefore] at hfits
    have hpolled : (run {} (beats ++ [.poll])).2.ends = ⟨some (.ofOutcome result), .absent⟩ := by
      rw [run_concat]
      exact ends_poll hfits
    rw [run_resolved hpolled later hnot]
  case stays =>
    intro result h later
    rw [verdict?, List.findSome?_append]
    rw [verdict?] at h
    rw [h]
    rfl
  case begins =>
    intro h hwaited limit
    rw [htold, hwaited, hheld h]
    rfl
  case wakes =>
    intro h limit elapsed hwaited
    rw [htold, hwaited, hheld h]
    rfl
  case delivers =>
    intro h result
    rw [htold, h]
    refine ⟨fun hnot => ?_, fun hgone' => ?_⟩
    · rw [hheld hnot]
      rfl
    · rw [hgone.2 hgone']
      rfl
  case ended =>
    intro h
    rw [htold, htold, hgone.2 h]
    exact ⟨rfl, rfl, fun limit => htold (.wait limit) ▸ hgone.2 h ▸ rfl⟩

/-- The limit is over before the producer delivers. -/
example : (run {} [.poll, .wait (some 250), .pass 250, .wake, .complete (.ok 3)]).1 =
    [.ready false, .nothing, .nothing, .returned (.error (timedOut 250)), .delivered false] := rfl

/-! ### A wait in one piece -/

/-- The step of the producer, and how long it takes to come. -/
def act? : Arrival α → Option (Nat × Beat α)
  | .never => none
  | .delivers after result => some (after, .complete result)
  | .leaves after => some (after, .leave)

/-- A wait on a new handle whose producer acts in its time, step by step. -/
def played (limit : Option Nat) (a : Arrival α) : List (Beat α) :=
  match act? a, limit with
  | none, none => [.wait none]
  | none, some l => [.wait (some l), .pass l, .wake]
  | some (0, b), _ => [b, .wait limit]
  | some (after, b), none => [.wait none, .pass after, b, .wake]
  | some (after, b), some l =>
    if after ≤ l then [.wait (some l), .pass after, b, .wake] else [.wait (some l), .pass l, .wake]

/-- The result that an answer hands over. -/
def result? : Answer α → Option (Outcome α)
  | .returned result => some result
  | _ => none

/-- A wait on a new handle goes on, unless its limit is zero. -/
theorem step_wait_new {limit : Option Nat} (h : overdue limit 0 = false) :
    step ({} : Rendezvous α) (.wait limit) = (.nothing, ⟨.channel, some (limit, 0)⟩) := by
  show wake ⟨.channel, some (limit, 0)⟩ = _
  simp [wake, h, Exchange.channel, Exchange.poll, Completion.poll, Arrival.event?]

theorem run_overdue (l : Nat) :
    (run ({} : Rendezvous α) [.wait (some l), .pass l, .wake]).1.findSome? result? =
      some (.error (timedOut l)) := by
  rcases l with _ | l
  · rfl
  · have hnew : step ({} : Rendezvous α) (.wait (some (l + 1))) =
        (.nothing, ⟨.channel, some (some (l + 1), 0)⟩) := step_wait_new rfl
    have hlate : due (some (l + 1)) (0 + (l + 1)) (none : Option (Outcome α)) =
        .returned (.error (timedOut (l + 1))) := if_pos (by omega)
    have hwake : (step (⟨.channel, some (some (l + 1), 0 + (l + 1))⟩ : Rendezvous α) .wake).1 =
        .returned (.error (timedOut (l + 1))) := by
      show (wake ⟨⟨some (.pending .never), .linked⟩, _⟩).1 = _
      rw [wake_held .idle, hlate]
    have hpass : step (⟨.channel, some (some (l + 1), 0)⟩ : Rendezvous α) (.pass (l + 1)) =
        (.nothing, ⟨.channel, some (some (l + 1), 0 + (l + 1))⟩) := rfl
    simp only [run, List.foldl, hnew, hpass, hwake]
    rfl

/-- A result that is there is returned, also by a wait without time. -/
theorem run_sent (limit : Option Nat) {b : Beat α} {result : Outcome α}
    (hb : b.verdict? = some result) :
    (run {} [b, .wait limit]).1.findSome? result? = some result := by
  cases b with
  | complete r =>
    cases hb
    cases limit <;> rfl
  | leave =>
    cases hb
    cases limit <;> rfl
  | _ => nomatch hb

theorem run_acted {limit : Option Nat} (h : overdue limit 0 = false) (after : Nat) {b : Beat α}
    {result : Outcome α} (hb : b.verdict? = some result) :
    (run {} [.wait limit, .pass after, b, .wake]).1.findSome? result? = some result := by
  have hnew := step_wait_new (α := α) h
  simp only [run, List.foldl, hnew]
  cases b with
  | complete r =>
    cases hb
    cases limit <;> rfl
  | leave =>
    cases hb
    cases limit <;> rfl
  | _ => nomatch hb

theorem act?_cases (a : Arrival α) :
    a = .never ∨ ∃ after b result, act? a = some (after, b) ∧ a.event? = some (after, result) ∧
      b.verdict? = some result := by
  cases a with
  | never => exact .inl rfl
  | delivers after result => exact .inr ⟨after, _, result, rfl, rfl, rfl⟩
  | leaves after => exact .inr ⟨after, _, _, rfl, rfl, rfl⟩

/-- A wait in one piece returns what the wait returns that goes step by step. -/
theorem returned_played (limit : Option Nat) (a : Arrival α) :
    (run {} (played limit a)).1.findSome? result? = (Completion.pending a).wait limit := by
  rcases act?_cases a with rfl | ⟨after, b, result, hact, hevent, hb⟩
  · cases limit with
    | none => rfl
    | some l => exact run_overdue l
  · rcases after with _ | after
    · -- the producer acts before the wait begins
      simp only [played, hact, run_sent limit hb]
      cases limit <;> simp [Completion.wait, Arrival.wait, hevent]
    · cases limit with
      | none =>
        have hnone : overdue none 0 = false := rfl
        simp only [played, hact, run_acted hnone (after + 1) hb]
        simp [Completion.wait, Arrival.wait, hevent]
      | some l =>
        -- it acts in time, or the limit is over first
        by_cases hl : after + 1 ≤ l
        · have hlimit : overdue (some l) 0 = false := decide_eq_false (by omega)
          simp only [played, hact, if_pos hl, run_acted hlimit (after + 1) hb]
          simp [Completion.wait, Arrival.wait, hevent, hl]
        · simp only [played, hact, if_neg hl, run_overdue]
          simp [Completion.wait, Arrival.wait, hevent, hl]

end Rendezvous

end KeyWalk
