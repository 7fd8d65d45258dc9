import KeyWalk.Client.Completion
import KeyWalk.Reply
import KeyWalk.Store

/-!
Transports: what carries commands to a store and replies back.

A `Transport σ` answers a command at once; a `Dispatcher σ` hands back a completion handle.  Both
are machines with a state `σ` of their own.  Error replies of a store are replies; a failure means
that the request itself did not complete.
-/

namespace KeyWalk

variable {σ : Type}

/-- Answers each command at once. -/
structure Transport (σ : Type) where
  send : Command → σ → Outcome Reply × σ

namespace Transport

/-- The store itself. -/
def store [GlobEngine] : Transport Store := ⟨fun c s => ((s.apply c).map Except.ok id)⟩

/-- Prepared answers, one for each command, and `afterwards` once they are used up. -/
def scripted (afterwards : Outcome Reply) : Transport (List (Outcome Reply)) :=
  ⟨fun _ script =>
    match script with
    | [] => (afterwards, [])
    | a :: r => (a, r)⟩

/-- The transport that also keeps the commands it was given, in order. -/
def recording (t : Transport σ) : Transport (σ × List Command) :=
  ⟨fun c s => ((t.send c s.1).1, (t.send c s.1).2, s.2 ++ [c])⟩

end Transport

/-- Hands back a completion handle for each command. -/
structure Dispatcher (σ : Type) where
  dispatch : Command → σ → Completion Reply × σ

namespace Dispatcher

/-- Runs a transport on a pool of workers, if there is a runtime to run it on.  The commands are
carried out one at a time in the order given, and a handle resolves when its command is done. -/
def ofTransport (hasRuntime : Bool) (t : Transport σ) : Dispatcher σ :=
  ⟨fun c s =>
    if hasRuntime then
      let (result, s₁) := t.send c s
      (.pending (.delivers 0 result), s₁)
    else (.failed (.ofCause (.transport "no tokio runtime to dispatch on")), s)⟩

/-- The store itself: its handles are resolved from the start. -/
def store [GlobEngine] : Dispatcher Store := ⟨fun c s => (.ready (s.apply c).1, (s.apply c).2)⟩

/-- Prepared handles, one for each command, and `afterwards` once they are used up. -/
def scripted (afterwards : Completion Reply) : Dispatcher (List (Completion Reply)) :=
  ⟨fun _ script =>
    match script with
    | [] => (afterwards, [])
    | a :: r => (a, r)⟩

/-- The transport that waits for each handle at most `limit` milliseconds.  A handle that nobody
resolves and no limit bounds counts as abandoned. -/
def awaited (limit : Option Nat) (d : Dispatcher σ) : Transport σ :=
  ⟨fun c s =>
    let (handle, s₁) := d.dispatch c s
    ((handle.wait limit).getD (.error abandoned), s₁)⟩

end Dispatcher

end KeyWalk
