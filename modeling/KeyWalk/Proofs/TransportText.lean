import KeyWalk.Proofs.Lockstep

/-!
What a caller is told when a transport fails.

Two transports may fail at the same step and for the same kind of reason, in different words.  Over
two such transports a client does the same, up to the words, and the text for the caller depends on
how the failure was made.  A failure of a command hides the words of the transport.  An input or
output error does not: its text is what the caller is told.

* `Failure.SameKind`: failures of one kind, in different words,
* `Transport.Resembles`, `Dispatcher.Resembles`: transports that differ in such words alone,
* `Failure.SameReport`: what is the same in the reports of two failures,
* `Client.Together`: two clients over all calls and all walks,
* `Client.together_of_resembles`: over transports that resemble each other, all reports are the same
  but for the texts of input and output errors.

Design notes.  The transports may fail more than once, and go on alike in between; a walk ends with
its first failure, but calls can be made behind one.
-/

namespace KeyWalk

variable {σ τ ε γ α : Type}

/-! ### Failures of one kind -/

namespace Failure

/-- Failures of one kind, in the words of two transports. -/
inductive SameKind : Failure → Failure → Prop
  | same (f : Failure) : SameKind f f
  | transport (reason reason' : String) (contexts : List String) :
    SameKind ⟨.transport reason, contexts⟩ ⟨.transport reason', contexts⟩
  | io (kind : IoKind) (text text' : String) (contexts : List String) :
    SameKind ⟨.other kind.status text, contexts⟩ ⟨.other kind.status text', contexts⟩

/-- The reports of two failures: the text for the caller is the same just if the failures are, or if
they are failures of a command; and else it is the words of the transport. -/
structure SameReport (f f' : Failure) : Prop where
  status : f'.status = f.status
  contexts : f'.contexts = f.contexts
  clientMessage : f'.clientMessage = f.clientMessage ↔ f' = f ∨ f.cause.isCommandError = true
  words : f' ≠ f → f.cause.isCommandError = false →
    f.clientMessage = f.cause.message ∧ f'.clientMessage = f'.cause.message

variable {f f' : Failure}

theorem SameKind.context (h : SameKind f f') (text : String) :
    SameKind (f.context text) (f'.context text) := by
  cases h with
  | same => exact .same _
  | transport reason reason' contexts => exact .transport reason reason' (contexts ++ [text])
  | io kind text₁ text₂ contexts => exact .io kind text₁ text₂ (contexts ++ [text])

theorem clientMessage_of_io (kind : IoKind) (text : String) (contexts : List String) :
    clientMessage ⟨.other kind.status text, contexts⟩ = text := by
  cases kind <;> rfl

/-- **What a caller is told of failures of one kind.** -/
theorem SameKind.sameReport (h : SameKind f f') : SameReport f f' := by
  cases h with
  | same => exact ⟨rfl, rfl, iff_of_true rfl (.inl rfl), fun hne => absurd rfl hne⟩
  | transport reason reason' contexts =>
    exact ⟨rfl, rfl, iff_of_true rfl (.inr rfl), fun _ hcommand => nomatch hcommand⟩
  | io kind text text' contexts =>
    have htext := clientMessage_of_io kind text contexts
    have htext' := clientMessage_of_io kind text' contexts
    refine ⟨rfl, rfl, ?_, fun _ _ => ⟨htext, htext'⟩⟩
    rw [htext, htext']
    constructor
    · rintro rfl
      exact .inl rfl
    · rintro (heq | hcommand)
      · cases heq
        rfl
      · cases hcommand

end Failure

/-! ### Transports that differ in words -/

open Failure

/-- The transports answer alike, but for the words of their failures.  The relation tells which of
their states belong together. -/
def Transport.Resembles (t : Transport σ) (t' : Transport τ) (Q : σ → τ → Prop) : Prop :=
  ∀ (command : Command) (s : σ) (u : τ), Q s u →
    Outcome.Agrees SameKind (t.send command s).1 (t'.send command u).1 ∧
      Q (t.send command s).2 (t'.send command u).2

/-- Prepared answers that differ in words, item by item. -/
theorem Transport.scripted_resembles {answer answer' : Outcome Reply}
    (h : Outcome.Agrees SameKind answer answer') :
    (scripted answer).Resembles (scripted answer')
      (List.Forall₂ (Outcome.Agrees SameKind)) := by
  intro command s u hsu
  cases hsu with
  | nil => exact ⟨h, .nil⟩
  | cons hfirst hrest => exact ⟨hfirst, hrest⟩

/-- The handles hold alike, or their producers will act alike at the same time, but for words. -/
inductive Completion.Resembles : Completion α → Completion α → Prop
  | ready (a : α) : Resembles (ready a) (ready a)
  | failed {f f' : Failure} (h : SameKind f f') : Resembles (failed f) (failed f')
  | never : Resembles (pending .never) (pending .never)
  | delivers (after : Nat) {r r' : Outcome α} (h : Outcome.Agrees SameKind r r') :
    Resembles (pending (.delivers after r)) (pending (.delivers after r'))
  | leaves (after : Nat) : Resembles (pending (.leaves after)) (pending (.leaves after))

/-- Waiting for such handles gives results that differ in words. -/
theorem Completion.Resembles.wait {h h' : Completion α} (hh : h.Resembles h')
    (limit : Option Nat) :
    Option.Rel (Outcome.Agrees SameKind) (h.wait limit) (h'.wait limit) := by
  cases hh with
  | ready a => exact .some (.ok a)
  | failed hF => exact .some (.error hF)
  | never =>
    cases limit with
    | none => exact .none
    | some l => exact .some (.refl .same _)
  | leaves after =>
    cases limit with
    | none => exact .some (.refl .same _)
    | some l => exact .some (.refl .same _)
  | delivers after hr =>
    cases limit with
    | none => exact .some hr
    | some l =>
      -- both arrive in time, or the limit is up for both
      show Option.Rel _ (some (if after ≤ l then _ else _)) (some (if after ≤ l then _ else _))
      by_cases hin : after ≤ l
      · rw [if_pos hin, if_pos hin]
        exact .some hr
      · rw [if_neg hin, if_neg hin]
        exact .some (.refl .same _)

namespace Dispatcher

variable {d : Dispatcher σ} {d' : Dispatcher τ} {Q : σ → τ → Prop}

/-- The dispatchers hand back handles that resemble each other. -/
def Resembles (d : Dispatcher σ) (d' : Dispatcher τ) (Q : σ → τ → Prop) : Prop :=
  ∀ (command : Command) (s : σ) (u : τ), Q s u →
    (d.dispatch command s).1.Resembles (d'.dispatch command u).1 ∧
      Q (d.dispatch command s).2 (d'.dispatch command u).2

theorem Resembles.awaited (h : d.Resembles d' Q) (limit : Option Nat) :
    (d.awaited limit).Resembles (d'.awaited limit) Q := by
  intro command s u hQ
  obtain ⟨hhandle, hnext⟩ := h command s u hQ
  refine ⟨?_, hnext⟩
  have hwait := hhandle.wait limit
  show Outcome.Agrees SameKind (((d.dispatch command s).1.wait limit).getD _)
    (((d'.dispatch command u).1.wait limit).getD _)
  generalize (d.dispatch command s).1.wait limit = x at hwait ⊢
  generalize (d'.dispatch command u).1.wait limit = y at hwait ⊢
  cases hwait with
  | some hagrees => exact hagrees
  | none => exact .refl .same _

/-- Workers that run transports which differ in words. -/
theorem ofTransport_resembles {t : Transport σ} {t' : Transport τ} (h : t.Resembles t' Q)
    (hasRuntime : Bool) : (ofTransport hasRuntime t).Resembles (ofTransport hasRuntime t') Q := by
  intro command s u hQ
  cases hasRuntime with
  | false => exact ⟨.failed (.same _), hQ⟩
  | true =>
    obtain ⟨hagrees, hnext⟩ := h command s u hQ
    exact ⟨.delivers 0 hagrees, hnext⟩

end Dispatcher

/-! ### Clients over such transports -/

namespace Client

/-- Whatever is asked of the two clients, from these states on: they come to results that agree and
leave a channel in the same state. -/
structure Together (F : Failure → Failure → Prop) (c : Client σ) (e : Client τ)
    (Q : σ → τ → Prop) (s : σ) (u : τ) : Prop where
  call : ∀ {γ α : Type} (p : Outcome (Prepared γ α)) (g : γ),
    let x := c.attempt p s g
    let y := e.attempt p u g
    Outcome.Agrees F x.1 y.1 ∧ y.2.2 = x.2.2 ∧ Q x.2.1 y.2.1
  scanAll : ∀ {ε : Type} (limit : Nat) (kind : ScanKind ε) (key : Bytes) (args : Option ScanArgs),
    let x := c.scanAll limit kind key args s
    let y := e.scanAll limit kind key args u
    Option.Rel (Outcome.Agrees F) x.1 y.1 ∧ Q x.2 y.2
  scanAllStream : ∀ {ε γ : Type} (limit : Nat) (kind : ScanKind ε) (channel : Channel ε γ)
      (key : Bytes) (args : Option ScanArgs) (g : γ),
    let x := c.scanAllStream limit kind channel key args s g
    let y := e.scanAllStream limit kind channel key args u g
    Option.Rel (Outcome.Agrees F) x.1 y.1 ∧ y.2.2 = x.2.2 ∧ Q x.2.1 y.2.1
  /-- The pages of a walk, wherever it stands, each with the walk behind it. -/
  pages : ∀ {ε : Type} (limit : Nat) (p : Pages ε),
    let x := p.take c limit s
    let y := p.take e limit u
    List.Forall₂ (fun a b => Outcome.Agrees F a.1 b.1 ∧ b.2 = a.2) x.1 y.1 ∧
      y.2.1 = x.2.1 ∧ Q x.2.2 y.2.2

variable {c : Client σ} {e : Client τ} {Q : σ → τ → Prop} {s : σ} {u : τ}
  {F : Failure → Failure → Prop}

theorem Lockstep.together (h : Lockstep F c e Q) (hcall : Stable F c.callContext e.callContext)
    (hstep : Stable F c.stepContext e.stepContext) (hQ : Q s u) : Together F c e Q s u := by
  constructor
  case call => exact fun p g => h.attempt hcall hQ p g
  case pages => exact fun limit p => h.take hstep limit p hQ
  case scanAll =>
    intro ε limit kind key args x y
    have hy : y = e.gather limit (c.walk kind key args) [] u := by
      rw [← h.walk_eq]
      rfl
    rw [hy]
    exact h.gather hstep limit _ [] hQ
  case scanAllStream =>
    intro ε γ limit kind channel key args g x y
    have hy : y = e.pour channel limit (c.walk kind key args) 0 u g := by
      rw [← h.walk_eq]
      rfl
    rw [hy]
    exact h.pour hstep channel limit _ 0 g hQ

theorem Together.mono {G : Failure → Failure → Prop} (h : Together F c e Q s u)
    (hFG : ∀ f f', F f f' → G f f') : Together G c e Q s u := by
  have hrel : ∀ {α : Type} {x y : Option (Outcome α)}, Option.Rel (Outcome.Agrees F) x y →
      Option.Rel (Outcome.Agrees G) x y := fun hxy => by
    cases hxy with
    | none => exact .none
    | some hagrees => exact .some (hagrees.mono hFG)
  constructor
  case call => exact fun p g => (h.call p g).imp_left (·.mono hFG)
  case scanAll => exact fun limit kind key args => (h.scanAll limit kind key args).imp_left hrel
  case scanAllStream =>
    exact fun limit kind channel key args g =>
      (h.scanAllStream limit kind channel key args g).imp_left hrel
  case pages =>
    exact fun limit p => (h.pages limit p).imp_left fun hitems =>
      hitems.imp fun _ _ hitem => hitem.imp_left (·.mono hFG)

/-- Two clients of one wording, over transports that differ in words. -/
theorem together_of_sends (hoptions : e.options = c.options)
    (hcall : e.callContext = c.callContext) (hstep : e.stepContext = c.stepContext)
    (hsend : c.transport.Resembles e.transport Q) (hQ : Q s u) : Together SameReport c e Q s u := by
  have h : Lockstep SameKind c e Q := ⟨hoptions, .same, hsend⟩
  have hstable : ∀ wording, Stable SameKind wording wording :=
    fun wording name f f' hkind => hkind.context (wording name)
  have htogether : Together SameKind c e Q s u :=
    h.together (hcall ▸ hstable _) (hstep ▸ hstable _) hQ
  exact htogether.mono fun _ _ hkind => hkind.sameReport

/-- **What a caller is told when a transport fails**, over two transports that differ in the words
of their failures alone.  All calls, all walks and all pages come to the same results, or to
failures with the same status and the same contexts.  If these are failures of a command then the
text for the caller is the same.  If they are not, then they are input or output errors, and the
text for the caller is the words of the transport. -/
theorem together_of_resembles {t : Transport σ} {t' : Transport τ} (options : ClientOptions)
    (h : t.Resembles t' Q) (hQ : Q s u) :
    Together SameReport (blocking t options) (blocking t' options) Q s u ∧
      (∀ {d : Dispatcher σ} {d' : Dispatcher τ}, d.Resembles d' Q →
        Together SameReport (awaiting d options) (awaiting d' options) Q s u) ∧
      ∀ hasRuntime, Together SameReport (awaiting (.ofTransport hasRuntime t) options)
        (awaiting (.ofTransport hasRuntime t') options) Q s u := by
  have hawaiting : ∀ {d : Dispatcher σ} {d' : Dispatcher τ}, d.Resembles d' Q →
      Together SameReport (awaiting d options) (awaiting d' options) Q s u := fun hd =>
    together_of_sends rfl rfl rfl (hd.awaited options.timeout) hQ
  exact ⟨together_of_sends rfl rfl rfl h hQ, hawaiting, fun hasRuntime =>
    hawaiting (Dispatcher.ofTransport_resembles h hasRuntime)⟩

/-- A reset in the words of two transports, which neither caller is told, and then a timeout in
their words, which both are. -/
theorem together_of_resembles_reset :
    let slow : Outcome Reply := .error (.ofIo .timedOut "slow")
    let slow' : Outcome Reply := .error (.ofIo .timedOut "10.0.0.7:6379 timed out")
    let script := [.error (.ofCause (.transport "down")), slow]
    let script' := [.error (.ofCause (.transport "10.0.0.7:6379 reset by peer")), slow']
    let c := blocking (Transport.scripted (.ok .null)) {}
    let p : Prepared Unit (Option Bytes) := Call.hget [0x68] [0x66]
    (∃ f f', (c.attempt (.ok p) script ()).1 = .error f ∧
        (c.attempt (.ok p) script' ()).1 = .error f' ∧ f ≠ f' ∧
        f'.clientMessage = f.clientMessage) ∧
      ∃ f f', (c.attempt (.ok p) [slow] ()).1 = .error f ∧
        (c.attempt (.ok p) [slow'] ()).1 = .error f' ∧ f'.status = f.status ∧
        f.clientMessage = f.cause.message ∧ f'.clientMessage = f'.cause.message := by
  intro slow slow' script script' c p
  have hanswers : (Transport.scripted (.ok .null)).Resembles (Transport.scripted (.ok .null))
      (List.Forall₂ (Outcome.Agrees SameKind)) := Transport.scripted_resembles (.ok Reply.null)
  have hslow : Outcome.Agrees SameKind slow slow' := .error (.io .timedOut _ _ [])
  have hscripts : List.Forall₂ (Outcome.Agrees SameKind) script script' :=
    .cons (.error (.transport _ _ [])) (.cons hslow .nil)
  obtain ⟨hreset, -⟩ := together_of_resembles {} hanswers hscripts
  obtain ⟨htimeout, -⟩ := together_of_resembles {} hanswers (.cons hslow .nil)
  constructor
  · obtain ⟨hagrees, -⟩ := hreset.call (.ok p) ()
    cases hagrees with
    | error hreport => exact ⟨_, _, rfl, rfl, by decide, hreport.clientMessage.2 (.inr rfl)⟩
  · obtain ⟨hagrees, -⟩ := htimeout.call (.ok p) ()
    cases hagrees with
    | error hreport =>
      obtain ⟨hwords, hwords'⟩ := hreport.words (by decide) rfl
      exact ⟨_, _, rfl, rfl, hreport.status, hwords, hwords'⟩

/-- Callers of two transports that time out in different words are told different things. -/
theorem not_same_clientMessage :
    ¬ ∀ {σ τ γ α : Type} (t : Transport σ) (t' : Transport τ) (Q : σ → τ → Prop) (s : σ) (u : τ)
      (p : Outcome (Prepared γ α)) (g : γ) (f f' : Failure), t.Resembles t' Q → Q s u →
      ((blocking t {}).attempt p s g).1 = .error f →
      ((blocking t' {}).attempt p u g).1 = .error f' → f'.clientMessage = f.clientMessage := by
  intro h
  let script : List (Outcome Reply) := [.error (.ofIo .timedOut "slow")]
  let script' : List (Outcome Reply) := [.error (.ofIo .timedOut "10.0.0.7:6379 timed out")]
  let p : Prepared Unit (Option Bytes) := Call.hget [0x68] [0x66]
  have hanswers : (Transport.scripted (.ok .null)).Resembles (Transport.scripted (.ok .null))
      (List.Forall₂ (Outcome.Agrees SameKind)) := Transport.scripted_resembles (.ok Reply.null)
  have hscripts : List.Forall₂ (Outcome.Agrees SameKind) script script' :=
    .cons (.error (.io .timedOut _ _ [])) .nil
  exact absurd (h _ _ _ script script' (.ok p) () _ _ hanswers hscripts rfl rfl) (by decide)

end Client

end KeyWalk
