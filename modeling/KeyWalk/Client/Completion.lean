import KeyWalk.Failure

/-!
Completion handles: the pending result of a command, on a virtual clock.

A handle is resolved, or it waits for its producer.  What the producer does from now on is an
`Arrival`: nothing ever, a result after some milliseconds, or going away without one.

* `h.wait limit` is the result, `none` if the wait never ends,
* `h.poll` resolves a handle whose result has arrived,
* `Exchange` is a handle together with the producer's end, for runs of steps on both.
-/

namespace KeyWalk

variable {α : Type}

/-- The failure of a command whose producer went away. -/
def abandoned : Failure :=
  .ofCause (.transport "command abandoned before a reply arrived")

/-- The failure of a wait that lasted `limit` milliseconds. -/
def timedOut (limit : Nat) : Failure :=
  .ofCause (.transport ("no reply within " ++ toString limit ++ "ms"))

/-- What a producer does from now on. -/
inductive Arrival (α : Type) where
  | never
  | delivers (after : Nat) (result : Outcome α)
  | leaves (after : Nat)

namespace Arrival

/-- When the producer acts, and what the handle then holds. -/
def event? : Arrival α → Option (Nat × Outcome α)
  | never => none
  | delivers after result => some (after, result)
  | leaves after => some (after, .error abandoned)

/-- Waits for the producer.  What arrives within the limit counts, also at its last moment, so a
result that is there is never lost. -/
def wait (limit : Option Nat) (a : Arrival α) : Option (Outcome α) :=
  match a.event?, limit with
  | none, none => none
  | none, some l => some (.error (timedOut l))
  | some (_, result), none => some result
  | some (after, result), some l =>
    some (if after ≤ l then result else .error (timedOut l))

end Arrival

/-- The pending or resolved result of a command. -/
inductive Completion (α : Type) where
  | pending (arrival : Arrival α)
  | ready (value : α)
  | failed (f : Failure)

namespace Completion

/-- The handle of a result that is there. -/
def ofOutcome : Outcome α → Completion α
  | .ok a => ready a
  | .error f => failed f

/-- Resolves a handle whose result has arrived; the answer is whether it is resolved. -/
def poll : Completion α → Bool × Completion α
  | pending a =>
    match a.event? with
    | some (0, result) => (true, ofOutcome result)
    | _ => (false, pending a)
  | resolved => (true, resolved)

/-- The result, waited for at most `limit` milliseconds; `none` if the wait never ends. -/
def wait (limit : Option Nat) : Completion α → Option (Outcome α)
  | pending a => a.wait limit
  | ready a => some (.ok a)
  | failed f => some (.error f)

end Completion

/-! ### Both ends -/

/-- The producer's end. -/
inductive Producer where
  /-- There is none, or it was used up. -/
  | absent
  /-- Its handle is there. -/
  | linked
  /-- Its handle was dropped, consumed or replaced. -/
  | orphaned
  deriving DecidableEq, Repr

/-- A handle, if it is still held, and the producer's end. -/
structure Exchange (α : Type) where
  handle : Option (Completion α) := none
  producer : Producer := .absent

namespace Exchange

/-- A new pair of both ends. -/
def channel : Exchange α := ⟨some (.pending .never), .linked⟩

/-- The producer after its handle is gone. -/
def unlinked : Producer → Producer
  | .linked => .orphaned
  | p => p

/-- Holds another handle, without a producer of its own. -/
def hold (h : Completion α) (e : Exchange α) : Exchange α := ⟨some h, unlinked e.producer⟩

/-- Drops the handle. -/
def dropHandle (e : Exchange α) : Exchange α := ⟨none, unlinked e.producer⟩

/-- The producer delivers a result and is used up; the answer is whether a handle was there, and
`none` if there was no producer. -/
def complete (result : Outcome α) (e : Exchange α) : Option Bool × Exchange α :=
  match e.producer with
  | .absent => (none, e)
  | .orphaned => (some false, { e with producer := .absent })
  | .linked => (some true, ⟨some (.pending (.delivers 0 result)), .absent⟩)

/-- The producer goes away. -/
def dropProducer (e : Exchange α) : Exchange α :=
  match e.producer with
  | .linked => ⟨some (.pending (.leaves 0)), .absent⟩
  | _ => { e with producer := .absent }

/-- Polls the handle; `none` if there is none. -/
def poll (e : Exchange α) : Option Bool × Exchange α :=
  match e.handle with
  | none => (none, e)
  | some h => (some h.poll.1, { e with handle := some h.poll.2 })

/-- Consumes the handle and waits for its result; `none` if there is no handle or the wait never
ends. -/
def wait (limit : Option Nat) (e : Exchange α) : Option (Outcome α) × Exchange α :=
  (e.handle.bind (·.wait limit), e.dropHandle)

end Exchange

end KeyWalk
