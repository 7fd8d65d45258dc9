import KeyWalk.Proofs.Course
import KeyWalk.Proofs.Lockstep

/-!
The blocking client and the client that waits for handles.

A dispatcher follows a transport if its handles give what the transport would have answered, at
once or in time.  Two clients over such a pair send the same commands, come to the same results and
leave a channel in the same state; only the wording of a context differs.

* `Dispatcher.Follows`: handles that hold a result, fail, or are resolved within the limit, in any
  mix,
* `Dispatcher.pool_follows`: workers that run the transport follow it, whatever time they take
  within the limit,
* `Client.lockstep_of_follows`: the two clients are in lockstep,
* `Client.alike_of_follows`: all calls and all walks.
-/

namespace KeyWalk

variable {σ τ ε γ α : Type}

/-- The result, a failure without the contexts that it went through. -/
def root (r : Outcome α) : Except Cause α := r.mapError Failure.cause

theorem root_error {f f' : Failure} (h : f.cause = f'.cause) :
    root (.error f : Outcome α) = root (.error f') := congrArg Except.error h

/-! ### Handles that give a result -/

/-- The handle holds the result, or it will within the limit. -/
inductive Completion.Gives (limit : Option Nat) : Completion α → Outcome α → Prop where
  | ready (a : α) : Gives limit (ready a) (.ok a)
  | failed (f : Failure) : Gives limit (failed f) (.error f)
  | pending {a : Arrival α} {after : Nat} {r : Outcome α} (h : a.event? = some (after, r))
      (hin : ∀ l, limit = some l → after ≤ l) : Gives limit (pending a) r

theorem Completion.Gives.wait {limit : Option Nat} {h : Completion α} {r : Outcome α}
    (hr : h.Gives limit r) : h.wait limit = some r := by
  cases hr with
  | ready a => rfl
  | failed f => rfl
  | pending ha hin =>
    cases limit with
    | none => simp [Completion.wait, Arrival.wait, ha]
    | some l => simp [Completion.wait, Arrival.wait, ha, hin l rfl]

namespace Dispatcher

/-- The dispatcher answers in time as the transport does.  The relation tells which of their states
belong together. -/
def Follows (d : Dispatcher τ) (t : Transport σ) (limit : Option Nat) (R : σ → τ → Prop) : Prop :=
  ∀ (command : Command) (s : σ) (u : τ), R s u →
    (d.dispatch command u).1.Gives limit (t.send command s).1 ∧
      R (t.send command s).2 (d.dispatch command u).2

/-- The dispatcher that also keeps the commands it was given, in order. -/
def recording (d : Dispatcher τ) : Dispatcher (τ × List Command) :=
  ⟨fun c u => ((d.dispatch c u.1).1, (d.dispatch c u.1).2, u.2 ++ [c])⟩

/-- A transport on a pool of workers, which takes its time over a command. -/
def pool (delay : Command → σ → Nat) (t : Transport σ) : Dispatcher σ :=
  ⟨fun c s => (.pending (.delivers (delay c s) (t.send c s).1), (t.send c s).2)⟩

/-- With a runtime to run it on, a transport is a pool whose workers take no time. -/
theorem ofTransport_eq_pool (t : Transport σ) : ofTransport true t = pool (fun _ _ => 0) t := rfl

theorem pool_follows {delay : Command → σ → Nat} {limit : Option Nat}
    (h : ∀ c s l, limit = some l → delay c s ≤ l) (t : Transport σ) :
    (pool delay t).Follows t limit Eq := by
  intro c s u hsu
  subst hsu
  exact ⟨.pending rfl (h c s), rfl⟩

/-- Prepared handles follow prepared answers, item by item. -/
theorem scripted_follows {limit : Option Nat} {handle : Completion Reply} {answer : Outcome Reply}
    (h : handle.Gives limit answer) :
    (scripted handle).Follows (Transport.scripted answer) limit
      (List.Forall₂ fun r h => h.Gives limit r) := by
  intro c s u hsu
  cases hsu with
  | nil => exact ⟨h, .nil⟩
  | cons hfirst hrest => exact ⟨hfirst, hrest⟩

end Dispatcher

namespace Client

/-! ### All calls and all walks -/

/-- What the blocking client does over a transport and the waiting client over a dispatcher, from
these states on.  The commands that were sent stand in the logs. -/
structure Alike (R : σ → τ → Prop) (options : ClientOptions) (t : Transport σ) (d : Dispatcher τ)
    (s : σ) (u : τ) (log : List Command) : Prop where
  /-- A call has the same result, and a channel that it fills gets the same elements. -/
  call : ∀ {γ α : Type} (p : Outcome (Prepared γ α)) (g : γ),
    let x := (blocking t.recording options).attempt p (s, log) g
    let y := (awaiting d.recording options).attempt p (u, log) g
    y.1 = x.1 ∧ y.2.1.2 = x.2.1.2 ∧ y.2.2 = x.2.2 ∧ R x.2.1.1 y.2.1.1
  /-- A walk has the same result, but for the contexts of a failure. -/
  scanAll : ∀ {ε : Type} (limit : Nat) (kind : ScanKind ε) (key : Bytes) (args : Option ScanArgs),
    let x := (blocking t.recording options).scanAll limit kind key args (s, log)
    let y := (awaiting d.recording options).scanAll limit kind key args (u, log)
    y.1.map root = x.1.map root ∧ y.2.2 = x.2.2 ∧ R x.2.1 y.2.1
  scanAllStream : ∀ {ε γ : Type} (limit : Nat) (kind : ScanKind ε) (channel : Channel ε γ)
      (key : Bytes) (args : Option ScanArgs) (g : γ),
    let x := (blocking t.recording options).scanAllStream limit kind channel key args (s, log) g
    let y := (awaiting d.recording options).scanAllStream limit kind channel key args (u, log) g
    y.1.map root = x.1.map root ∧ y.2.1.2 = x.2.1.2 ∧ y.2.2 = x.2.2 ∧ R x.2.1.1 y.2.1.1

theorem lockstep_of_follows {t : Transport σ} {d : Dispatcher τ} {R : σ → τ → Prop}
    {options : ClientOptions} (h : d.Follows t options.timeout R) :
    Lockstep Eq (blocking t.recording options) (awaiting d.recording options)
      fun s u => R s.1 u.1 ∧ u.2 = s.2 := by
  refine ⟨rfl, fun _ => rfl, fun command s u hsu => ?_⟩
  obtain ⟨hgives, hnext⟩ := h command s.1 u.1 hsu.1
  have hresult : ((awaiting d.recording options).transport.send command u).1 =
      (t.send command s.1).1 := by
    show ((d.dispatch command u.1).1.wait options.timeout).getD _ = _
    rw [hgives.wait]
    rfl
  refine ⟨?_, hnext, ?_⟩
  · rw [hresult]
    exact .refl (fun _ => rfl) _
  · show u.2 ++ [command] = s.2 ++ [command]
    rw [hsu.2]

/-- Walks whose failures have the same causes come to the same results, but for contexts. -/
theorem root_of_agrees {x y : Option (Outcome α)}
    (h : Option.Rel (Outcome.Agrees fun f f' => f'.cause = f.cause) x y) :
    y.map root = x.map root := by
  cases h with
  | none => rfl
  | some hagrees =>
    cases hagrees with
    | ok a => rfl
    | error hcause => exact congrArg some (root_error hcause)

theorem exists_alike {t : Transport σ} {d : Dispatcher τ} {R : σ → τ → Prop}
    {options : ClientOptions} (h : d.Follows t options.timeout R) {s : σ} {u : τ} (hR : R s u)
    (log : List Command) : Alike R options t d s u log := by
  have hcalls := lockstep_of_follows h
  -- each client adds its own context to the failure of a walk step, so only causes are compared
  have hwalks := hcalls.mono (G := fun f f' => f'.cause = f.cause) fun _ _ heq => heq ▸ rfl
  have hstep : Stable (fun f f' => f'.cause = f.cause) (blocking t.recording options).stepContext
      (awaiting d.recording options).stepContext := fun _ _ _ hcause => hcause
  have hstart : R (s, log).1 (u, log).1 ∧ (u, log).2 = (s, log).2 := ⟨hR, rfl⟩
  constructor
  case call =>
    intro γ α p g x y
    obtain ⟨hresult, hchannel, hnext, hlog⟩ :=
      hcalls.attempt (fun _ _ _ heq => heq ▸ rfl) hstart p g
    exact ⟨hresult.eq, hlog, hchannel, hnext⟩
  case scanAll =>
    intro ε limit kind key args x y
    obtain ⟨hresult, hnext, hlog⟩ := hwalks.gather hstep limit
      ((blocking t.recording options).walk kind key args) [] hstart
    exact ⟨root_of_agrees hresult, hlog, hnext⟩
  case scanAllStream =>
    intro ε γ limit kind channel key args g x y
    obtain ⟨hresult, hchannel, hnext, hlog⟩ := hwalks.pour hstep channel limit
      ((blocking t.recording options).walk kind key args) 0 g hstart
    exact ⟨root_of_agrees hresult, hlog, hchannel, hnext⟩

/-! ### The pages of a walk in a loop -/

/-- The elements of all pages, or the first failure among them. -/
def concatPages : List (Outcome (List ε)) → Outcome (List ε)
  | [] => .ok []
  | .error f :: _ => .error f
  | .ok page :: rest => (concatPages rest).map (page ++ ·)

theorem concatPages_append (pages : List (List ε)) (rest : List (Outcome (List ε))) :
    concatPages (pages.map .ok ++ rest) = (concatPages rest).map (pages.flatten ++ ·) := by
  induction pages with
  | nil => cases h : concatPages rest <;> simp [Except.map, h]
  | cons page pages ih =>
    rw [List.map_cons, List.cons_append, concatPages, ih]
    cases concatPages rest <;> simp [Except.map]

/-- A loop over the pages of a walk comes to the result of the walk. -/
theorem concatPages_take (c : Client σ) {limit : Nat} {kind : ScanKind ε} {key : Bytes}
    {args : Option ScanArgs} {s s' : σ} {r : Outcome (List ε)}
    (h : c.scanAll limit kind key args s = (some r, s')) :
    let taken := (c.pages kind key args).take c (limit + 1) s
    concatPages (taken.1.map (·.1)) = r ∧ taken.2.2 = s' := by
  intro taken
  obtain ⟨legs, n, w', s₁, ending, s₂, rfl, htravels, hhalts⟩ :=
    c.exists_course limit (c.walk kind key args) s
  obtain ⟨items, hitems, htake⟩ := take_travels htravels (n + 1)
  rw [scanAll, gather_of_course htravels hhalts] at h
  obtain ⟨hr, rfl⟩ := Prod.mk.inj h
  have htaken : taken = (items ++ (Pages.take c (n + 1) ⟨w', false⟩ s₁).1,
      (Pages.take c (n + 1) ⟨w', false⟩ s₁).2) := by
    rw [← htake]
    exact congrArg (fun m => Pages.take c m _ s) (Nat.add_right_comm n _ 1)
  cases ending with
  | cut => nomatch hr
  | finished =>
    cases hr
    cases hhalts with
    | finished hover =>
      rw [htaken, take_of_next (next_of_finished c hover s₁) (n + 1), List.map_append, hitems,
        concatPages_append, Leg.flatten_pages]
      exact ⟨congrArg Except.ok (List.append_nil _), rfl⟩
  | failed f =>
    cases hr
    rw [htaken, take_failed hhalts n, List.map_append, hitems, concatPages_append]
    exact ⟨rfl, rfl⟩

/-- **A client that waits for handles does what the blocking client does**, if the handles give
what the transport answers, at once or in time. -/
theorem alike_of_follows {t : Transport σ} {d : Dispatcher τ} {R : σ → τ → Prop}
    (options : ClientOptions) (hd : d.Follows t options.timeout R) {s : σ} {u : τ} (hR : R s u)
    (log : List Command) :
    Alike R options t d s u log ∧
      (∀ delay, (∀ c s l, options.timeout = some l → delay c s ≤ l) →
        Alike Eq options t (Dispatcher.pool delay t) s s log) ∧
      ∀ {ε : Type} (limit : Nat) (kind : ScanKind ε) (key : Bytes) (args : Option ScanArgs)
        (r : Outcome (List ε)) (after : σ × List Command),
        let c := blocking t.recording options
        c.scanAll limit kind key args (s, log) = (some r, after) →
          let taken := (c.pages kind key args).take c (limit + 1) (s, log)
          concatPages (taken.1.map (·.1)) = r ∧ taken.2.2 = after := by
  refine ⟨exists_alike hd hR log, fun delay hdelay => ?_, ?_⟩
  · exact exists_alike (Dispatcher.pool_follows hdelay t) rfl log
  · intro ε limit kind key args r after c h
    exact concatPages_take c h

/-- The first handle is resolved at the last moment, the second one failed from the start. -/
theorem alike_deferred_then_failed :
    let page : Reply := .array [.value [0x37], .array [.value [1], .value [2]]]
    let handles : List (Completion Reply) :=
      [.pending (.delivers 30000 (.ok page)), .failed (.ofCause (.transport "down"))]
    let y := (awaiting (Dispatcher.scripted (.ready .null)).recording {}).scanAllStream 5 hashScan
      Channel.collector [9] none (handles, []) []
    y.1.map root = some (.error (.transport "down")) ∧
      y.2.1.2 = [⟨.hscan, [[9], [0x30]]⟩, ⟨.hscan, [[9], [0x37]]⟩] ∧ y.2.2 = [⟨[1], [2]⟩] := by
  intro page handles y
  have hfirst : (Completion.pending (.delivers 30000 (.ok page))).Gives (some 30000) (.ok page) :=
    .pending rfl fun l hl => Option.some.inj hl ▸ Nat.le_refl _
  have hgives : List.Forall₂ (fun r h => Completion.Gives (some 30000) h r)
      [.ok page, .error (.ofCause (.transport "down"))] handles :=
    .cons hfirst (.cons (.failed _) .nil)
  obtain ⟨⟨-, -, hstream⟩, -⟩ :=
    alike_of_follows {} (Dispatcher.scripted_follows (.ready .null)) hgives []
  obtain ⟨hresult, hsent, hchannel, -⟩ := hstream 5 hashScan Channel.collector [9] none []
  exact ⟨hresult.trans rfl, hsent.trans rfl, hchannel.trans rfl⟩

end Client

end KeyWalk
