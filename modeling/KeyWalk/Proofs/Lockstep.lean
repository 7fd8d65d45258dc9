import Mathlib.Data.List.Forall2
import KeyWalk.Client

/-!
Two clients in lockstep.

Two clients are answered step by step, each by a transport of its own.  Where the transports give
the same replies, and failures that are related, so do the clients:

* `Outcome.Agrees F`: the same value, or failures that `F` relates,
* `Client.Lockstep F c e Q`: the transports agree as long as their states are related by `Q`,
* `Client.Stable F`: two wordings of a context keep failures related,
* `Lockstep.attempt`: one call,
* `Lockstep.gather`, `Lockstep.pour`, `Lockstep.take`: walks, in all three forms.

Design notes.  Commands and replies are the same on both sides, and so is everything that is read
from a reply.  Only a failure of a transport can differ, and it ends what it happens to.
-/

namespace KeyWalk

variable {σ τ ε γ α : Type} {F G : Failure → Failure → Prop}

/-- The same value, or failures that are related. -/
inductive Outcome.Agrees (F : Failure → Failure → Prop) : Outcome α → Outcome α → Prop
  | ok (a : α) : Agrees F (.ok a) (.ok a)
  | error {f f' : Failure} (h : F f f') : Agrees F (.error f) (.error f')

namespace Outcome.Agrees

theorem refl (hF : ∀ f, F f f) (r : Outcome α) : Agrees F r r := by
  cases r with
  | ok a => exact .ok a
  | error f => exact .error (hF f)

theorem mono {r r' : Outcome α} (h : Agrees F r r') (hFG : ∀ f f', F f f' → G f f') :
    Agrees G r r' := by
  cases h with
  | ok a => exact .ok a
  | error hF => exact .error (hFG _ _ hF)

theorem eq {r r' : Outcome α} (h : Agrees Eq r r') : r' = r := by
  cases h with
  | ok a => rfl
  | error hF => exact congrArg Except.error hF.symm

end Outcome.Agrees

namespace Client

/-- Failures stay related when each goes through a context of its own. -/
def Stable (F : Failure → Failure → Prop) (wording wording' : String → String) : Prop :=
  ∀ name f f', F f f' → F (f.context (wording name)) (f'.context (wording' name))

/-- Two clients that add the same arguments to a walk, over transports that agree. -/
structure Lockstep (F : Failure → Failure → Prop) (c : Client σ) (e : Client τ) (Q : σ → τ → Prop) :
    Prop where
  options : e.options = c.options
  refl : ∀ f, F f f
  send : ∀ (command : Command) (s : σ) (u : τ), Q s u →
    Outcome.Agrees F (c.transport.send command s).1 (e.transport.send command u).1 ∧
      Q (c.transport.send command s).2 (e.transport.send command u).2

namespace Lockstep

variable {c : Client σ} {e : Client τ} {Q : σ → τ → Prop} {s : σ} {u : τ}

theorem mono (h : Lockstep F c e Q) (hFG : ∀ f f', F f f' → G f f') : Lockstep G c e Q where
  options := h.options
  refl f := hFG f f (h.refl f)
  send command s u hQ := (h.send command s u hQ).imp_left (·.mono hFG)

theorem walk_eq (h : Lockstep F c e Q) (kind : ScanKind ε) (key : Bytes) (args : Option ScanArgs) :
    e.walk kind key args = c.walk kind key args := by
  rw [walk, walk, h.options]

/-! ### One round trip -/

theorem run (h : Lockstep F c e Q) (hcall : Stable F c.callContext e.callContext) (hQ : Q s u)
    (p : Prepared γ α) (g : γ) :
    Outcome.Agrees F (c.run p s g).1 (e.run p u g).1 ∧ (e.run p u g).2.2 = (c.run p s g).2.2 ∧
      Q (c.run p s g).2.1 (e.run p u g).2.1 := by
  obtain ⟨hagrees, hnext⟩ := h.send p.command s u hQ
  rcases hc : c.transport.send p.command s with ⟨r, s₁⟩
  rcases he : e.transport.send p.command u with ⟨r', u₁⟩
  rw [hc, he] at hagrees hnext
  simp only [Client.run, hc, he]
  cases hagrees with
  | ok reply => exact ⟨.refl h.refl _, rfl, hnext⟩
  | error hF => exact ⟨.error (hcall _ _ _ hF), rfl, hnext⟩

/-- **A call**, whether its arguments were refused or not. -/
theorem attempt (h : Lockstep F c e Q) (hcall : Stable F c.callContext e.callContext) (hQ : Q s u)
    (p : Outcome (Prepared γ α)) (g : γ) :
    Outcome.Agrees F (c.attempt p s g).1 (e.attempt p u g).1 ∧
      (e.attempt p u g).2.2 = (c.attempt p s g).2.2 ∧
      Q (c.attempt p s g).2.1 (e.attempt p u g).2.1 := by
  cases p with
  | error f => exact ⟨.error (h.refl f), rfl, hQ⟩
  | ok p => exact h.run hcall hQ p g

/-! ### Walks -/

section Walks

variable (h : Lockstep F c e Q) (hstep : Stable F c.stepContext e.stepContext)

include h hstep

/-- One round: both walks get the same reply, or failures that are related. -/
theorem round (hQ : Q s u) (command : Command) :
    ∃ s₁ u₁, Q s₁ u₁ ∧
      ((∃ reply, c.sendStep command s = (.ok reply, s₁) ∧
          e.sendStep command u = (.ok reply, u₁)) ∨
        ∃ f f', F f f' ∧ c.sendStep command s = (.error f, s₁) ∧
          e.sendStep command u = (.error f', u₁)) := by
  obtain ⟨hagrees, hnext⟩ := h.send command s u hQ
  rcases hc : c.transport.send command s with ⟨r, s₁⟩
  rcases he : e.transport.send command u with ⟨r', u₁⟩
  rw [hc, he] at hagrees hnext
  refine ⟨s₁, u₁, hnext, ?_⟩
  simp only [sendStep, hc, he]
  -- each client adds its own context to the failure of its transport
  cases hagrees with
  | ok reply => exact .inl ⟨reply, rfl, rfl⟩
  | error hF => exact .inr ⟨_, _, hstep _ _ _ hF, rfl, rfl⟩

/-- **Walks whose pages are gathered.** -/
theorem gather (limit : Nat) (w : Walk ε) (taken : List ε) (hQ : Q s u) :
    Option.Rel (Outcome.Agrees F) (c.gather limit w taken s).1 (e.gather limit w taken u).1 ∧
      Q (c.gather limit w taken s).2 (e.gather limit w taken u).2 := by
  induction limit generalizing w taken s u with
  | zero =>
    rw [Client.gather, Client.gather]
    rcases w.nextCommand? with f | _ | command
    · exact ⟨.some (.error (h.refl f)), hQ⟩
    · exact ⟨.some (.ok taken), hQ⟩
    · exact ⟨.none, hQ⟩
  | succ n ih =>
    rw [Client.gather, Client.gather]
    rcases w.nextCommand? with f | _ | command
    · exact ⟨.some (.error (h.refl f)), hQ⟩
    · exact ⟨.some (.ok taken), hQ⟩
    · obtain ⟨s₁, u₁, hnext, ⟨reply, hc, he⟩ | ⟨f, f', hF, hc, he⟩⟩ := h.round hstep hQ command
      · -- both clients read the same reply
        simp only [hc, he]
        rcases w.advance reply with ⟨f | page, w₁⟩
        · exact ⟨.some (.error (h.refl f)), hnext⟩
        · exact ih w₁ (taken ++ page) hnext
      · simp only [hc, he]
        exact ⟨.some (.error hF), hnext⟩

/-- **Walks into a channel**, which is left in the same state. -/
theorem pour (channel : Channel ε γ) (limit : Nat) (w : Walk ε) (total : Nat) (g : γ) (hQ : Q s u) :
    let x := c.pour channel limit w total s g
    let y := e.pour channel limit w total u g
    Option.Rel (Outcome.Agrees F) x.1 y.1 ∧ y.2.2 = x.2.2 ∧ Q x.2.1 y.2.1 := by
  induction limit generalizing w total s u g with
  | zero =>
    rw [Client.pour, Client.pour]
    rcases w.nextCommand? with f | _ | command
    · exact ⟨.some (.error (h.refl f)), rfl, hQ⟩
    · exact ⟨.some (.ok total), rfl, hQ⟩
    · exact ⟨.none, rfl, hQ⟩
  | succ n ih =>
    rw [Client.pour, Client.pour]
    rcases w.nextCommand? with f | _ | command
    · exact ⟨.some (.error (h.refl f)), rfl, hQ⟩
    · exact ⟨.some (.ok total), rfl, hQ⟩
    · obtain ⟨s₁, u₁, hnext, ⟨reply, hc, he⟩ | ⟨f, f', hF, hc, he⟩⟩ := h.round hstep hQ command
      · -- one reply into channels in one state leaves them in one state
        simp only [hc, he]
        rcases w.advanceStreaming channel reply g with ⟨f | count, w₁, g₁⟩
        · exact ⟨.some (.error (h.refl f)), rfl, hnext⟩
        · exact ih w₁ (total + count) g₁ hnext
      · simp only [hc, he]
        exact ⟨.some (.error hF), trivial, hnext⟩

theorem next (p : Pages ε) (hQ : Q s u) :
    let x := p.next c s
    let y := p.next e u
    Option.Rel (Outcome.Agrees F) x.1 y.1 ∧ y.2.1 = x.2.1 ∧ Q x.2.2 y.2.2 := by
  obtain ⟨w, failed⟩ := p
  cases failed with
  | true => exact ⟨.none, rfl, hQ⟩
  | false =>
    simp only [Pages.next, Bool.false_eq_true, if_false]
    rcases w.nextCommand? with f | _ | command
    · exact ⟨.some (.error (h.refl f)), rfl, hQ⟩
    · exact ⟨.none, rfl, hQ⟩
    · obtain ⟨s₁, u₁, hnext, ⟨reply, hc, he⟩ | ⟨f, f', hF, hc, he⟩⟩ := h.round hstep hQ command
      · simp only [hc, he]
        rcases w.advance reply with ⟨f | page, w₁⟩
        · exact ⟨.some (.error (h.refl f)), rfl, hnext⟩
        · exact ⟨.some (.ok page), rfl, hnext⟩
      · simp only [hc, he]
        exact ⟨.some (.error hF), trivial, hnext⟩

/-- **Walks page by page**: each page or failure comes with the same walk behind it. -/
theorem take (limit : Nat) (p : Pages ε) (hQ : Q s u) :
    let x := p.take c limit s
    let y := p.take e limit u
    List.Forall₂ (fun a b => Outcome.Agrees F a.1 b.1 ∧ b.2 = a.2) x.1 y.1 ∧
      y.2.1 = x.2.1 ∧ Q x.2.2 y.2.2 := by
  induction limit generalizing p s u with
  | zero => exact ⟨.nil, rfl, hQ⟩
  | succ n ih =>
    obtain ⟨hpage, hpages, hnext⟩ := h.next hstep p hQ
    rcases hc : p.next c s with ⟨r, p₁, s₁⟩
    rcases he : p.next e u with ⟨r', p₁', u₁⟩
    rw [hc, he] at hpage hpages hnext
    obtain rfl : p₁' = p₁ := hpages
    simp only [Pages.take, hc, he]
    cases hpage with
    | none => exact ⟨.nil, rfl, hnext⟩
    | some hagrees =>
      obtain ⟨hrest, hpages', hnext'⟩ := ih p₁' hnext
      exact ⟨.cons ⟨hagrees, rfl⟩ hrest, hpages', hnext'⟩

end Walks

end Lockstep

end Client

end KeyWalk
