import KeyWalk.Proofs.ClientsAgree
import KeyWalk.Proofs.ScanStep
import Mathlib.Data.List.Induction

/-!
The failures of scan operations, and which of them are retryable.

A failure of the client's own making is the error of a command: the arguments or the cursor were
refused, the reply was an error or of another shape, the channel refused an element, a handle was
abandoned or took too long.  No such error is retryable.  What a transport fails with passes through
the client with its status, whatever it is.

* `CommandErrorsOnly r`: the failures of an outcome are errors of commands,
* `CommandErrorsOnly.scanCommand`, `CommandErrorsOnly.scanPage`, `CommandErrorsOnly.scanStream`: so
  are those of building the request of a step and of reading its reply,
* `Client.ScanFails`: a scan operation returns a failure,
* `Client.origin_of_scanFails`: the error of a command, or the failure of the transport,
* `Client.isRetryable_of_scanFails`: so a scan is retryable just when the transport's failure is.

Design notes.  No scan step is meant to be retryable.  An input or output error that says that the
time is over, or that the connection was lost, has a retryable status all the same, and keeps it on
its way through a scan step (`Client.isRetryable_iff_ofIo`).  The time limit of the client itself is
not retryable (`Client.exists_gives_of_scanFails`).
-/

namespace KeyWalk

variable {σ τ ε γ α β : Type} {f : Failure}

/-- The errors of commands are not retryable. -/
theorem Failure.not_isRetryable (h : f.cause.isCommandError = true) :
    ¬f.status.isRetryable = true := by
  rw [Failure.status]
  cases hcause : f.cause with
  | other =>
    rw [hcause] at h
    cases h
  | _ => exact Bool.false_ne_true

/-- All input and output errors that have a kind of their own are retryable. -/
theorem Failure.isRetryable_ofIo (kind : IoKind) (text : String) :
    (Failure.ofIo kind text).status.isRetryable = true ↔ kind ≠ .other := by
  cases kind <;> simp [ofIo, status, ofCause, Cause.status, IoKind.status, StatusCode.isRetryable]

/-! ### Outcomes that fail with errors of commands only -/

/-- If the outcome is a failure then it is the error of a command. -/
def CommandErrorsOnly (r : Outcome α) : Prop := ∀ f, r = .error f → f.cause.isCommandError = true

namespace CommandErrorsOnly

variable {command : String} {reader : Reader ε} {tokens : List Reply} {kind : ScanKind ε}

theorem ok (a : α) : CommandErrorsOnly (.ok a) := by
  intro f h
  cases h

theorem error (h : f.cause.isCommandError = true) :
    CommandErrorsOnly (.error f : Outcome α) := by
  rintro f' ⟨⟩
  exact h

theorem fail {c : Cause} (h : c.isCommandError = true) :
    CommandErrorsOnly (KeyWalk.fail c : Outcome α) := error h

theorem bind {r : Outcome α} {k : α → Outcome β} (hr : CommandErrorsOnly r)
    (hk : ∀ a, CommandErrorsOnly (k a)) : CommandErrorsOnly (r >>= k) := by
  cases r with
  | ok a => exact hk a
  | error f => exact error (hr f rfl)

theorem map {r : Outcome α} (hr : CommandErrorsOnly r) (k : α → β) :
    CommandErrorsOnly (r.map k) := by
  cases r with
  | ok a => exact ok (k a)
  | error f => exact error (hr f rfl)

/-! ### Readers -/

theorem check (r : Reply) : CommandErrorsOnly r.check := by
  cases r with
  | error text =>
    rw [Reply.check]
    split <;> exact fail rfl
  | _ => exact ok _

theorem readArray (command : String) (r : Reply) : CommandErrorsOnly (r.readArray command) := by
  refine bind (check r) fun r => ?_
  cases r <;> first | exact ok _ | exact fail rfl

theorem readBulk (command : String) (r : Reply) : CommandErrorsOnly (r.readBulk command) := by
  refine bind (check r) fun r => ?_
  cases r <;> first | exact ok _ | exact fail rfl

theorem readRequiredBulk (command : String) (r : Reply) :
    CommandErrorsOnly (r.readRequiredBulk command) := by
  refine bind (readBulk command r) fun b => ?_
  cases b with
  | none => exact fail rfl
  | some b => exact ok b

theorem ofToken (command : String) (b : Bytes) : CommandErrorsOnly (Score.ofToken command b) := by
  rw [Score.ofToken]
  split
  · exact fail rfl
  · split
    · exact fail rfl
    · exact ok _

theorem readScore (command : String) (r : Reply) : CommandErrorsOnly (r.readScore command) := by
  refine bind (check r) fun r => ?_
  cases r with
  | double d =>
    dsimp only
    split
    · exact fail rfl
    · exact ok _
  | bulk b =>
    cases b with
    | none => exact ok _
    | some b => exact map (ofToken command b) some
  | null => exact ok _
  | _ => exact fail rfl

theorem readRequiredScore (command absent : String) (r : Reply) :
    CommandErrorsOnly (r.readRequiredScore command absent) := by
  refine bind (readScore command r) fun s => ?_
  cases s with
  | none => exact fail rfl
  | some s => exact ok s

theorem elements_paired {read : String → Reply → Reply → Outcome ε}
    (h : ∀ a b, CommandErrorsOnly (read command a b)) (tokens : List Reply) :
    ∀ r ∈ (Reader.paired read).elements command tokens, CommandErrorsOnly r := by
  intro r hr
  -- two tokens at a time, as the elements are read
  induction tokens using List.twoStepInduction with
  | nil => cases hr
  | singleton a => cases hr
  | cons_cons a b rest ih _ =>
    rcases List.mem_cons.1 hr with rfl | hr
    · exact h a b
    · exact ih hr

/-- The readers of both kinds of collections. -/
theorem readings (t : CollectionType) (command : String) (tokens : List Reply) :
    ∀ r ∈ t.scan.reader.readings command tokens, CommandErrorsOnly r := by
  intro r hr
  rw [Reader.readings] at hr
  split at hr
  · rw [List.mem_singleton.1 hr]
    exact fail rfl
  · cases t with
    | hash =>
      refine elements_paired (fun k v => ?_) tokens r hr
      exact bind (readRequiredBulk command k) fun _ =>
        bind (readRequiredBulk command v) fun _ => ok _
    | sortedSet =>
      refine elements_paired (fun m s => ?_) tokens r hr
      exact bind (readRequiredBulk command m) fun _ =>
        bind (readRequiredScore command "nil score" s) fun _ => ok _

/-! ### A step -/

theorem feed {readings : List (Outcome ε)} (h : ∀ r ∈ readings, CommandErrorsOnly r)
    (channel : Channel ε γ) (n : Nat) (g : γ) :
    CommandErrorsOnly (KeyWalk.feed channel n readings g).1 := by
  induction readings generalizing n g with
  | nil => exact ok n
  | cons r rest ih =>
    cases r with
    | error f => exact error (h (.error f) List.mem_cons_self f rfl)
    | ok e =>
      rw [KeyWalk.feed]
      rcases channel.accept e g with ⟨_ | fault, g₁⟩
      · exact ih (fun r hr => h r (List.mem_cons_of_mem _ hr)) (n + 1) g₁
      · -- what a channel refuses with is told as the fault of a channel
        exact error rfl

theorem deliver (h : ∀ r ∈ reader.readings command tokens, CommandErrorsOnly r)
    (channel : Channel ε γ) (g : γ) :
    CommandErrorsOnly (KeyWalk.deliver reader command channel tokens g).1 := by
  rw [deliver_eq_feed]
  exact feed h channel 0 g

theorem collect (h : ∀ r ∈ reader.readings command tokens, CommandErrorsOnly r) :
    CommandErrorsOnly (KeyWalk.collect reader command tokens) := by
  have hdeliver := deliver h Channel.collector []
  rw [KeyWalk.collect]
  rcases hresult : KeyWalk.deliver reader command Channel.collector tokens [] with ⟨f | n, taken⟩
  · exact error (hdeliver f (congrArg Prod.fst hresult))
  · exact ok taken

theorem splitScanReply (command : String) (reply : Reply) :
    CommandErrorsOnly (KeyWalk.splitScanReply command reply) := by
  unfold KeyWalk.splitScanReply
  extract_lets rest
  have hrest : ∀ u, CommandErrorsOnly (rest u) := by
    intro u
    refine bind (readArray command reply) fun parts => ?_
    split
    · refine bind (readArray command _) fun tokens => bind (readBulk command _) fun token? => ?_
      cases token? with
      | none => exact fail rfl
      | some token => exact ok _
    · exact fail rfl
  -- only a refusal of the cursor is told in front of reading the reply
  split
  · split
    · exact bind (fail rfl) hrest
    · exact hrest ()
  · exact hrest ()

theorem scanPage (t : CollectionType) (reply : Reply) :
    CommandErrorsOnly (KeyWalk.scanPage t.scan reply) := by
  refine bind (splitScanReply _ reply) fun parts => ?_
  exact bind (collect (readings t _ _)) fun _ => ok _

theorem scanStream (t : CollectionType) (channel : Channel t.Element γ) (reply : Reply) (g : γ) :
    CommandErrorsOnly (KeyWalk.scanStream t.scan channel reply g).1 := by
  rw [KeyWalk.scanStream]
  rcases hsplit : KeyWalk.splitScanReply t.scan.command.name reply with f | ⟨cursor, parts⟩
  · exact error (splitScanReply _ reply f hsplit)
  · have hdeliver := deliver (readings t t.scan.command.name parts) channel g
    dsimp only
    rcases hresult : KeyWalk.deliver t.scan.reader t.scan.command.name channel parts g with
      ⟨f | n, g₁⟩
    · exact error (hdeliver f (congrArg Prod.fst hresult))
    · exact ok _

theorem scanArgs (args : ScanArgs) : CommandErrorsOnly args.tokens := by
  rw [ScanArgs.tokens]
  split
  · exact ok _
  · split
    · exact fail rfl
    · split
      · exact fail rfl
      · exact ok _

theorem scanCommand (kind : ScanKind ε) (key : Bytes) (cursor : Option Cursor)
    (args : Option ScanArgs) : CommandErrorsOnly (KeyWalk.scanCommand kind key cursor args) := by
  unfold KeyWalk.scanCommand
  cases CursorState.ofCursor? cursor with
  | done c => exact fail rfl
  | initial | inProgress =>
    refine bind (ok _) fun position => ?_
    cases args with
    | none => exact ok _
    | some args => exact bind (scanArgs args) fun _ => ok _

theorem nextCommand? (w : Walk ε) : CommandErrorsOnly w.nextCommand? := by
  rw [Walk.nextCommand?]
  split
  · exact ok _
  · exact map (scanCommand w.kind w.key w.state.cursor? w.args) some

end CommandErrorsOnly

/-! ### Scan operations -/

namespace Client

variable {c : Client σ} {s s' : σ}

/-- A scan operation of the client returned the failure, and left the transport in the state: a step
at any cursor, a step into a channel, the next page from any position of a walk, or a walk of a
whole collection. -/
inductive ScanFails (c : Client σ) (f : Failure) (s' : σ) : Prop where
  | scan {γ : Type} {t : CollectionType} {key cursor args s} {g g' : γ}
      (h : c.scan t.scan key cursor args s g = (.error f, s', g'))
  | scanStream {γ : Type} {t : CollectionType} {channel key cursor args s} {g g' : γ}
      (h : c.scanStream t.scan channel key cursor args s g = (.error f, s', g'))
  | next {t : CollectionType} {pages pages' : Pages t.Element} {s}
      (hkind : pages.walk.kind = t.scan) (h : pages.next c s = (some (.error f), pages', s'))
  | scanAll {t : CollectionType} {limit key args s}
      (h : c.scanAll limit t.scan key args s = (some (.error f), s'))
  | scanAllStream {γ : Type} {t : CollectionType} {limit channel key args s} {g g' : γ}
      (h : c.scanAllStream limit t.scan channel key args s g = (some (.error f), s', g'))

/-- The failure is what the transport answered to a command, behind the context of the client. -/
def Sent (c : Client σ) (f : Failure) (s' : σ) : Prop :=
  ∃ (command : Command) (s : σ) (f₀ : Failure),
    c.transport.send command s = (.error f₀, s') ∧
      (f = f₀.context (c.callContext command.name) ∨ f = f₀.context (c.stepContext command.name))

theorem sent_of_sendStep {command : Command} (h : c.sendStep command s = (.error f, s')) :
    c.Sent f s' := by
  rcases hsend : c.transport.send command s with ⟨f₀ | reply, s₁⟩
  · simp only [sendStep, hsend, withContext] at h
    cases h
    exact ⟨command, s, f₀, hsend, .inr rfl⟩
  · simp only [sendStep, hsend, withContext] at h
    cases h

theorem origin_of_attempt {p : Outcome (Prepared γ α)} {g g' : γ} (hp : CommandErrorsOnly p)
    (hdecode : ∀ p', p = .ok p' → ∀ reply g, CommandErrorsOnly (p'.decode reply g).1)
    (h : c.attempt p s g = (.error f, s', g')) : f.cause.isCommandError = true ∨ c.Sent f s' := by
  cases p with
  | error f' =>
    cases h
    exact .inl (hp f rfl)
  | ok p =>
    rw [attempt, run] at h
    rcases hsend : c.transport.send p.command s with ⟨f₀ | reply, s₁⟩
    · simp only [hsend] at h
      cases h
      exact .inr ⟨p.command, s, f₀, hsend, .inl rfl⟩
    · simp only [hsend, Prod.mk.injEq] at h
      exact .inl (hdecode p rfl reply g f h.1)

theorem origin_of_halts {t : CollectionType} {n : Nat} {w : Walk t.Element}
    (hkind : w.kind = t.scan) (h : c.Halts n w s (.failed f) s') :
    f.cause.isCommandError = true ∨ c.Sent f s' := by
  cases h with
  | refused h => exact .inl (CommandErrorsOnly.nextCommand? w f h)
  | unsent _ hsend => exact .inr (sent_of_sendStep hsend)
  | unread _ _ hpage => exact .inl (CommandErrorsOnly.scanPage t _ f (hkind ▸ hpage))

/-- The next page fails where the walk halts. -/
theorem halts_of_next {pages pages' : Pages ε}
    (h : pages.next c s = (some (.error f), pages', s')) :
    c.Halts 1 pages.walk s (.failed f) s' := by
  obtain ⟨w, failed⟩ := pages
  cases failed with
  | true => cases h
  | false =>
    rcases c.next_cases w s with hover | ⟨f', s₁, hhalts⟩ | ⟨leg, s₁, hcommand, hsend, hpage⟩
    · rw [next_of_finished c hover s] at h
      cases h
    · rw [next_of_halts hhalts] at h
      cases h
      exact hhalts
    · rw [next_of_leg hcommand hsend hpage] at h
      cases h

theorem origin_of_gather {t : CollectionType} {limit : Nat} {w : Walk t.Element}
    (hkind : w.kind = t.scan) (h : c.gather limit w [] s = (some (.error f), s')) :
    f.cause.isCommandError = true ∨ c.Sent f s' := by
  -- what is gathered fails only where its course ends
  obtain ⟨legs, n, w', s₁, ending, s₂, rfl, htravels, hhalts⟩ := c.exists_course limit w s
  rw [gather_of_course htravels hhalts] at h
  cases ending with
  | finished => cases h
  | cut => cases h
  | failed f' =>
    cases h
    exact origin_of_halts (htravels.kind_eq.trans hkind) hhalts

theorem origin_of_pour {t : CollectionType} {channel : Channel t.Element γ} {limit total : Nat}
    {w : Walk t.Element} (hkind : w.kind = t.scan) {g g' : γ}
    (h : c.pour channel limit w total s g = (some (.error f), s', g')) :
    f.cause.isCommandError = true ∨ c.Sent f s' := by
  -- the channel may refuse an element of a page that could be gathered
  induction limit generalizing w total s g with
  | zero =>
    rw [pour] at h
    rcases hcommand : w.nextCommand? with f' | _ | command <;> simp only [hcommand] at h
    · cases h
      exact .inl (CommandErrorsOnly.nextCommand? w f hcommand)
    · cases h
    · cases h
  | succ n ih =>
    rw [pour] at h
    rcases hcommand : w.nextCommand? with f' | _ | command
    · simp only [hcommand] at h
      cases h
      exact .inl (CommandErrorsOnly.nextCommand? w f hcommand)
    · simp only [hcommand] at h
      cases h
    · rcases hsend : c.sendStep command s with ⟨f' | reply, s₁⟩
      · simp only [hcommand, hsend] at h
        cases h
        exact .inr (sent_of_sendStep hsend)
      · rcases hstream : KeyWalk.scanStream w.kind channel reply g with ⟨f' | page, g₁⟩
        · simp only [hcommand, hsend, Walk.advanceStreaming, hstream] at h
          cases h
          rw [hkind] at hstream
          exact .inl (CommandErrorsOnly.scanStream t channel reply g f (congrArg Prod.fst hstream))
        · simp only [hcommand, hsend, Walk.advanceStreaming, hstream] at h
          exact ih (w := w.record page.cursor) hkind h

/-- **Where the failure of a scan operation comes from**: it is the error of a command, or what the
transport failed with. -/
theorem origin_of_scanFails (h : c.ScanFails f s') :
    f.cause.isCommandError = true ∨ c.Sent f s' := by
  cases h with
  | @scan _ t key cursor args _ _ _ h =>
    refine origin_of_attempt (.bind (.scanCommand t.scan key cursor _) fun _ => .ok _) ?_ h
    intro p hp reply g
    obtain ⟨command, -, hprepared⟩ := Except.bind_eq_ok_iff.1 hp
    cases hprepared
    exact .scanPage t reply
  | @scanStream _ t channel key cursor args _ _ _ h =>
    refine origin_of_attempt (.bind (.scanCommand t.scan key cursor _) fun _ => .ok _) ?_ h
    intro p hp reply g
    obtain ⟨command, -, hprepared⟩ := Except.bind_eq_ok_iff.1 hp
    cases hprepared
    exact .scanStream t channel reply g
  | next hkind h => exact origin_of_halts hkind (halts_of_next h)
  | scanAll h => exact origin_of_gather rfl h
  | scanAllStream h => exact origin_of_pour rfl h

/-- A retryable failure was the transport's, and was retryable there. -/
theorem sent_of_isRetryable (h : c.ScanFails f s') (hretryable : f.status.isRetryable = true) :
    ∃ (command : Command) (s : σ) (f₀ : Failure),
      c.transport.send command s = (.error f₀, s') ∧
        (f = f₀.context (c.callContext command.name) ∨
          f = f₀.context (c.stepContext command.name)) ∧
        f₀.status.isRetryable = true := by
  rcases origin_of_scanFails h with hown | ⟨command, s, f₀, hsend, hcontext⟩
  · exact absurd hretryable (Failure.not_isRetryable hown)
  · refine ⟨command, s, f₀, hsend, hcontext, ?_⟩
    rcases hcontext with rfl | rfl <;> exact hretryable

/-- **A failed scan operation is retryable just when the transport's failure is.**  Nothing that the
client itself finds wrong is retryable; a failure of the transport that is, as an input or output
error may be, is handed on with its status. -/
theorem isRetryable_of_scanFails (h : c.ScanFails f s') :
    f.status.isRetryable = true ↔
      ∃ (command : Command) (s : σ) (f₀ : Failure),
        c.transport.send command s = (.error f₀, s') ∧
          (f = f₀.context (c.callContext command.name) ∨
            f = f₀.context (c.stepContext command.name)) ∧
          f₀.status.isRetryable = true := by
  constructor
  · exact sent_of_isRetryable h
  · rintro ⟨command, s, f₀, -, rfl | rfl, hretryable⟩ <;> exact hretryable

/-- The connection is lost in the middle of a walk. -/
theorem isRetryable_next_reset :
    let reset : Failure := .ofIo .connectionReset "reset"
    let c := blocking (Transport.scripted (.ok .null)) {}
    let pages : Pages KeyValue := { walk := .resume hashScan [9] ⟨[0x37], false⟩ none }
    let f := reset.context "HSCAN step did not complete"
    pages.next c [.error reset] = (some (.error f), { pages with failed := true }, []) ∧
      f.status.isRetryable = true := by
  intro reset c pages f
  have hnext : pages.next c [.error reset] =
      (some (.error f), { pages with failed := true }, []) := rfl
  have hfails : c.ScanFails f [] := .next (t := .hash) rfl hnext
  have hsend : c.transport.send ⟨.hscan, [[9], [0x37]]⟩ [.error reset] = (.error reset, []) := rfl
  exact ⟨hnext, (isRetryable_of_scanFails hfails).2 ⟨_, _, reset, hsend, .inr rfl, rfl⟩⟩

/-- A step whose transport says that the time is over fails with a retryable status. -/
theorem not_scan_never_retryable :
    ¬∀ (σ : Type) (c : Client σ) (f : Failure) (s' : σ),
      c.ScanFails f s' → f.status.isRetryable = false := by
  intro hnever
  let c := blocking (Transport.scripted (.ok .null)) {}
  let slow : Failure := .ofIo .timedOut "slow"
  have hscan : c.scan hashScan [0x68] none none [.error slow] () =
      (.error (slow.context "HSCAN did not complete"), [], ()) := rfl
  have hno := hnever _ c _ _ (.scan (t := .hash) hscan)
  exact Bool.noConfusion hno

/-- Over a transport that fails with errors of commands, and with input and output errors, the
retryable failures of scan operations are those that say that the time is over or that the
connection was refused or lost. -/
theorem isRetryable_iff_ofIo
    (hc : ∀ command s f₀, (c.transport.send command s).1 = .error f₀ →
      f₀.cause.isCommandError = true ∨ ∃ kind text, f₀ = .ofIo kind text)
    (h : c.ScanFails f s') :
    f.status.isRetryable = true ↔
      ∃ kind text context, kind ≠ IoKind.other ∧ f = (Failure.ofIo kind text).context context := by
  constructor
  · intro hretryable
    obtain ⟨command, s, f₀, hsend, hcontext, hretryable₀⟩ := sent_of_isRetryable h hretryable
    rcases hc command s f₀ (congrArg Prod.fst hsend) with hown | ⟨kind, text, rfl⟩
    · exact absurd hretryable₀ (Failure.not_isRetryable hown)
    · have hkind : kind ≠ .other := (Failure.isRetryable_ofIo kind text).1 hretryable₀
      rcases hcontext with rfl | rfl <;> exact ⟨kind, text, _, hkind, rfl⟩
  · rintro ⟨kind, text, context, hkind, rfl⟩
    exact (Failure.isRetryable_ofIo kind text).2 hkind

/-! ### Waiting for handles -/

/-- A wait fails with a failure that the handle holds, or because it was in vain. -/
theorem origin_of_wait {limit : Option Nat} {handle : Completion α}
    (h : handle.wait limit = some (.error f)) :
    f.cause.isCommandError = true ∨ handle.Gives limit (.error f) := by
  cases handle with
  | ready a => cases h
  | failed f' =>
    cases h
    exact .inr (.failed f)
  | pending a =>
    rcases hevent : a.event? with _ | ⟨after, r⟩
    · cases limit with
      | none => simp [Completion.wait, Arrival.wait, hevent] at h
      | some l =>
        simp only [Completion.wait, Arrival.wait, hevent] at h
        cases h
        exact .inl rfl
    · cases limit with
      | none =>
        simp only [Completion.wait, Arrival.wait, hevent] at h
        cases h
        exact .inr (.pending hevent fun l hl => absurd hl.symm (Option.some_ne_none l))
      | some l =>
        simp only [Completion.wait, Arrival.wait, hevent] at h
        by_cases hin : after ≤ l
        · rw [if_pos hin] at h
          cases h
          exact .inr (.pending hevent fun l' hl => Option.some.inj hl ▸ hin)
        · rw [if_neg hin] at h
          cases h
          exact .inl rfl

/-- **A client that waits for handles** is told of a retryable failure only by a handle that holds
it in time: its own time limit is not retryable. -/
theorem exists_gives_of_scanFails {d : Dispatcher σ} {options : ClientOptions}
    (h : (awaiting d options).ScanFails f s') (hretryable : f.status.isRetryable = true) :
    ∃ (command : Command) (s : σ) (f₀ : Failure),
      (d.dispatch command s).1.Gives options.timeout (.error f₀) ∧
        f = f₀.context (incomplete command.name) := by
  obtain ⟨command, s, f₀, hsend, hcontext, hretryable₀⟩ := sent_of_isRetryable h hretryable
  refine ⟨command, s, f₀, ?_, or_self_iff.1 hcontext⟩
  have hwait : ((d.dispatch command s).1.wait options.timeout).getD (.error abandoned) =
      .error f₀ := congrArg Prod.fst hsend
  rcases hresult : (d.dispatch command s).1.wait options.timeout with _ | r
  · rw [hresult] at hwait
    cases hwait
    cases hretryable₀
  · rw [hresult] at hwait
    have hr : r = .error f₀ := hwait
    rcases origin_of_wait (hr ▸ hresult) with hown | hgives
    · exact absurd hretryable₀ (Failure.not_isRetryable hown)
    · exact hgives

end Client

end KeyWalk
