import KeyWalk.Proofs.Course
import KeyWalk.Proofs.StepRequest

/-!
What a full walk says to a store, and what it hears.

The first command of a walk carries the start token, and every other command carries the token of
the reply before it, as it came.  The walk looks at a token in one way only: it is over when the
token is the start token.

* `TokenChain`, `Dialogue`: the commands of a full walk against given answers,
* `Travels.tokens`: how the commands of the legs follow from their tokens,
* `dialogue_of_gather`: the dialogue of a walk whose pages are gathered,
* `dialogue_of_pour`: the dialogue of a walk into a channel, which may refuse an element.
-/

namespace KeyWalk

variable {σ ε γ : Type}

/-! ### Tokens of replies -/

/-- The token that a part of a reply is. -/
def Reply.token? : Reply → Option Bytes
  | bulk b => b
  | status text => some (Bytes.ofString text)
  | _ => none

/-- The token of the reply to a scan step, as it came. -/
def Reply.scanToken? : Reply → Option Bytes
  | array [position, _] => position.token?
  | _ => none

/-- A token is read as it came. -/
theorem Reply.readBulk_eq_some_iff {position : Reply} {command : String} {token : Bytes} :
    position.readBulk command = .ok (some token) ↔ position.token? = some token := by
  cases position with
  | bulk b =>
    refine ⟨fun h => Except.ok.inj h, fun h => ?_⟩
    cases h
    rfl
  | status text =>
    refine ⟨fun h => Except.ok.inj h, fun h => ?_⟩
    cases h
    rfl
  | error text =>
    refine iff_of_false (fun h => ?_) nofun
    by_cases hprefix : text.startsWith "WRONGTYPE" = true <;>
      simp [readBulk, check, hprefix, fail, bind, Except.bind] at h
  | integer n => exact iff_of_false nofun nofun
  | double d => exact iff_of_false nofun nofun
  | array items => exact iff_of_false nofun nofun
  | null => exact iff_of_false nofun nofun

/-- A reply of two parts: the elements are looked at first, then the token. -/
theorem splitScanReply_array (command : String) (position elements : Reply) :
    splitScanReply command (.array [position, elements]) = (do
      let tokens ← elements.readArray command
      match ← position.readBulk command with
      | some token => return (.ofToken token, tokens)
      | none => fail (.malformed command "nil cursor")) := rfl

theorem splitScanReply_of_token {command : String} {position elements : Reply} {token : Bytes}
    (h : position.token? = some token) :
    splitScanReply command (.array [position, elements]) =
      (elements.readArray command).map fun tokens => (.ofToken token, tokens) := by
  rw [splitScanReply_array, Reply.readBulk_eq_some_iff.2 h]
  cases elements.readArray command <;> rfl

/-- The cursor of a step is made from the token of the reply. -/
theorem exists_token_of_split {command : String} {reply : Reply} {cursor : Cursor}
    {tokens : List Reply} (h : splitScanReply command reply = .ok (cursor, tokens)) :
    ∃ token, reply.scanToken? = some token ∧ cursor = .ofToken token := by
  cases reply with
  | error text =>
    by_cases hrejected : isCursorRejection text = true
    · simp [splitScanReply, hrejected, fail, bind, Except.bind] at h
    · by_cases hprefix : text.startsWith "WRONGTYPE" = true <;>
        simp [splitScanReply, hrejected, Reply.readArray, Reply.check, hprefix, fail, bind,
          Except.bind] at h
  | array items =>
    rcases items with _ | ⟨position, _ | ⟨elements, _ | ⟨third, more⟩⟩⟩
    · cases h
    · cases h
    · rw [splitScanReply_array] at h
      rcases hread : elements.readArray command with f | l
      · simp [hread, bind, Except.bind] at h
      · rcases hbulk : position.readBulk command with f | _ | token
        · simp [hread, hbulk, bind, Except.bind] at h
        · simp [hread, hbulk, bind, Except.bind, fail] at h
        · simp [hread, hbulk, bind, Except.bind, pure, Except.pure] at h
          exact ⟨token, Reply.readBulk_eq_some_iff.1 hbulk, h.1.symm⟩
    · cases h
  | status text => cases h
  | integer n => cases h
  | double d => cases h
  | bulk b => cases h
  | null => cases h

theorem exists_token_of_page {kind : ScanKind ε} {reply : Reply} {page : ScanPage ε}
    (h : scanPage kind reply = .ok page) :
    ∃ token, reply.scanToken? = some token ∧ page.cursor = .ofToken token := by
  obtain ⟨tokens, hsplit, -⟩ := scanPage_eq_ok_iff.1 h
  exact exists_token_of_split hsplit

/-! ### The commands of a walk -/

/-- The commands of a full walk, made by `request` from the tokens of the replies.  Of `limit`
steps a walk that was cut short made all. -/
inductive TokenChain (request : Bytes → Command) (limit : Nat) :
    List Bytes → Ending → List Command → Prop where
  | finished {tokens : List Bytes} (h : Cursor.startToken ∉ tokens) :
      TokenChain request limit (tokens ++ [Cursor.startToken]) .finished
        ((Cursor.startToken :: tokens).map request)
  | failed {tokens : List Bytes} {f : Failure} (h : Cursor.startToken ∉ tokens) :
      TokenChain request limit tokens (.failed f) ((Cursor.startToken :: tokens).map request)
  | cut {tokens : List Bytes} (h : Cursor.startToken ∉ tokens) (hlimit : tokens.length = limit) :
      TokenChain request limit tokens .cut ((Cursor.startToken :: tokens).dropLast.map request)

section Commands

variable {kind : ScanKind ε} {key token : Bytes} {args : Option ScanArgs} {clauses : List Bytes}
  {w w' : Walk ε}

namespace Client

variable {c : Client σ} {s s' : σ} {legs : List (Leg ε)}

/-- **The commands of the legs** follow from the tokens: either the walk asks with the last one
next, or that is the start token, for the first time, and the walk is over. -/
theorem Travels.tokens (h : c.Travels w s legs w' s') (hw : w.Asks kind key args token)
    (hargs : ScanArgs.Encodes args clauses) :
    (∃ last, w'.Asks kind key args last ∧ Cursor.startToken ∉ Leg.tokens legs ∧
        legs.map (·.command) ++ [kind.request key clauses last] =
          (token :: Leg.tokens legs).map (kind.request key clauses)) ∨
      (w'.nextCommand? = .ok none ∧ ∃ tokens, Leg.tokens legs = tokens ++ [Cursor.startToken] ∧
        Cursor.startToken ∉ tokens ∧
          legs.map (·.command) = (token :: tokens).map (kind.request key clauses)) := by
  induction h generalizing token with
  | stay w s => exact .inl ⟨token, hw, nofun, rfl⟩
  | @step w w' s s₁ s' leg legs hcommand _ hpage hrest ih =>
    obtain ⟨t, -, hcursor⟩ := exists_token_of_page hpage
    have hleg : leg.command = kind.request key clauses token := by
      rw [hw.nextCommand? hargs] at hcommand
      exact (Option.some.inj (Except.ok.inj hcommand)).symm
    have htokens : Leg.tokens (leg :: legs) = t :: Leg.tokens legs := by
      rw [Leg.tokens, List.map_cons, hcursor]
      rfl
    rw [hcursor] at hrest ih
    by_cases ht : t = Cursor.startToken
    · -- the walk is over, and no leg follows
      subst ht
      cases hrest with
      | step hcommand => nomatch w.nextCommand?_record_start.symm.trans hcommand
      | stay =>
        refine .inr ⟨w.nextCommand?_record_start, [], htokens, nofun, ?_⟩
        rw [List.map_cons, hleg]
        rfl
    · have hne : Cursor.startToken ≠ t := fun h => ht h.symm
      rcases ih (hw.record ht) with
        ⟨last, hlast, hnot, hmap⟩ | ⟨hfinished, tokens, hends, hnot, hmap⟩
      · refine .inl ⟨last, hlast, ?_, ?_⟩
        · rw [htokens, List.mem_cons, not_or]
          exact ⟨hne, hnot⟩
        · rw [List.map_cons, List.cons_append, hmap, hleg, htokens]
          rfl
      · refine .inr ⟨hfinished, t :: tokens, ?_, ?_, ?_⟩
        · rw [htokens, hends, List.cons_append]
        · rw [List.mem_cons, not_or]
          exact ⟨hne, hnot⟩
        · rw [List.map_cons, hmap, hleg]
          rfl

/-- A walk that has a command to send asks with the token of the last reply. -/
theorem Travels.tokens_of_asking (h : c.Travels w s legs w' s')
    (hw : w.Asks kind key args token) (hargs : ScanArgs.Encodes args clauses) {command : Command}
    (hcommand : w'.nextCommand? = .ok (some command)) :
    command.kind = kind.command ∧ Cursor.startToken ∉ Leg.tokens legs ∧
      legs.map (·.command) ++ [command] =
        (token :: Leg.tokens legs).map (kind.request key clauses) := by
  rcases h.tokens hw hargs with ⟨last, hlast, hnot, hmap⟩ | ⟨hfinished, -⟩
  · cases (hlast.nextCommand? hargs).symm.trans hcommand
    exact ⟨rfl, hnot, hmap⟩
  · nomatch hfinished.symm.trans hcommand

/-- A walk that is over got the start token last. -/
theorem Travels.tokens_of_finished (h : c.Travels w s legs w' s') (hw : w.Asks kind key args token)
    (hargs : ScanArgs.Encodes args clauses) (hfinished : w'.nextCommand? = .ok none) :
    ∃ tokens, Leg.tokens legs = tokens ++ [Cursor.startToken] ∧ Cursor.startToken ∉ tokens ∧
      legs.map (·.command) = (token :: tokens).map (kind.request key clauses) := by
  rcases h.tokens hw hargs with ⟨last, hlast, -⟩ | ⟨-, h⟩
  · nomatch (hlast.nextCommand? hargs).symm.trans hfinished
  · exact h

/-- Valid arguments are not refused later. -/
theorem Travels.not_refused (h : c.Travels w s legs w' s') (hw : w.Asks kind key args token)
    (hargs : ScanArgs.Encodes args clauses) {f : Failure} : w'.nextCommand? ≠ .error f := by
  intro hrefused
  rcases h.tokens hw hargs with ⟨last, hlast, -⟩ | ⟨hfinished, -⟩
  · nomatch (hlast.nextCommand? hargs).symm.trans hrefused
  · nomatch hfinished.symm.trans hrefused

end Client

/-! ### Against a script -/

/-- The answers of a script, counted from the first. -/
def Transport.answer (afterwards : Outcome Reply) (script : List (Outcome Reply)) (i : Nat) :
    Outcome Reply := script[i]?.getD afterwards

/-- What a step of a walk makes of an answer. -/
def ScanKind.outcome (kind : ScanKind ε) (answer : Outcome Reply) : Outcome (ScanPage ε) :=
  withContext (Client.incomplete (kind.command.name ++ " step")) answer >>= scanPage kind

/-- A full walk that completed the steps of `pages`: they are what it made of the first answers,
each page has the token of its reply as it came, and the commands follow from these tokens. -/
structure Dialogue (kind : ScanKind ε) (request : Bytes → Command) (answer : Nat → Outcome Reply)
    (limit : Nat) (pages : List (ScanPage ε)) (ending : Ending) (sent : List Command) : Prop where
  page : ∀ i page, pages[i]? = some page → kind.outcome (answer i) = .ok page
  token : ∀ i page, pages[i]? = some page →
    ∃ reply, answer i = .ok reply ∧ reply.scanToken? = some page.cursor.position
  chain : TokenChain request limit (pages.map (·.cursor.position)) ending sent

/-- Only that it failed counts for the commands. -/
theorem TokenChain.failed_of_failed {request : Bytes → Command} {limit : Nat}
    {tokens : List Bytes} {f : Failure} {sent : List Command}
    (h : TokenChain request limit tokens (.failed f) sent) (f' : Failure) :
    TokenChain request limit tokens (.failed f') sent := by
  cases h with
  | failed h => exact .failed h

theorem withContext_eq_ok_iff {α : Type} {text : String} {r : Outcome α} {a : α} :
    withContext text r = .ok a ↔ r = .ok a := by
  cases r with
  | ok b => exact .rfl
  | error f => exact iff_of_false nofun nofun

namespace Client

open Transport

variable {afterwards : Outcome Reply} {options : ClientOptions} {legs : List (Leg ε)}
  {s s' s'' : List (Outcome Reply) × List Command} {ending : Ending} {n : Nat}

theorem sendStep_scripted (command : Command) (s : List (Outcome Reply) × List Command) :
    (blocking (scripted afterwards).recording options).sendStep command s =
      (withContext (incomplete (command.name ++ " step")) (answer afterwards s.1 0),
        s.1.tail, s.2 ++ [command]) := by
  obtain ⟨_ | ⟨a, script⟩, log⟩ := s <;> rfl

/-- The replies of the legs are the answers of the script, and the rest of it is left. -/
theorem Travels.script
    (h : (blocking (scripted afterwards).recording options).Travels w s legs w' s') :
    s'.1 = s.1.drop legs.length ∧
      ∀ i leg, legs[i]? = some leg → answer afterwards s.1 i = .ok leg.reply := by
  induction h with
  | stay => exact ⟨rfl, nofun⟩
  | @step _ _ s s₁ _ leg legs _ hsend _ _ ih =>
    rw [sendStep_scripted] at hsend
    have hreply := withContext_eq_ok_iff.1 (Prod.mk.inj hsend).1
    have hrest : s₁.1 = s.1.tail := congrArg Prod.fst (Prod.mk.inj hsend).2.symm
    obtain ⟨hleft, hanswers⟩ := ih
    refine ⟨by rw [hleft, hrest, List.drop_tail, List.length_cons], fun i leg' hleg => ?_⟩
    cases i with
    | zero =>
      cases hleg
      exact hreply
    | succ i =>
      rw [← hanswers i leg' hleg, answer, answer, hrest, List.getElem?_tail]

theorem Travels.dialogue
    (h : (blocking (scripted afterwards).recording options).Travels w s legs w' s')
    (hw : w.kind = kind) (request : Bytes → Command) {limit : Nat} {sent : List Command}
    (hchain : TokenChain request limit (Leg.tokens legs) ending sent) :
    Dialogue kind request (answer afterwards s.1) limit (legs.map (·.page)) ending sent := by
  subst hw
  have hanswers := h.script.2
  refine ⟨fun i page hpage => ?_, fun i page hpage => ?_, by rwa [List.map_map]⟩
  · rw [List.getElem?_map, Option.map_eq_some_iff] at hpage
    obtain ⟨leg, hleg, rfl⟩ := hpage
    rw [ScanKind.outcome, hanswers i leg hleg]
    exact h.scanPage_of_mem (List.mem_of_getElem? hleg)
  · rw [List.getElem?_map, Option.map_eq_some_iff] at hpage
    obtain ⟨leg, hleg, rfl⟩ := hpage
    obtain ⟨token, htoken, hcursor⟩ :=
      exists_token_of_page (h.scanPage_of_mem (List.mem_of_getElem? hleg))
    refine ⟨leg.reply, hanswers i leg hleg, ?_⟩
    rw [htoken, hcursor]
    rfl

/-- The course of a walk against a script is a dialogue, and if the walk fails then because of the
answer behind those of the legs. -/
theorem dialogue_of_course (hargs : ScanArgs.Encodes args clauses)
    (hw : w.Asks kind key args Cursor.startToken) (hs : s.2 = [])
    (h : (blocking (scripted afterwards).recording options).Travels w s legs w' s')
    (hend : (blocking (scripted afterwards).recording options).Halts n w' s' ending s'') :
    Dialogue kind (kind.request key clauses) (answer afterwards s.1) (n + legs.length)
        (legs.map (·.page)) ending s''.2 ∧
      ∀ f, ending = .failed f → kind.outcome (answer afterwards s.1 legs.length) = .error f := by
  have hlog : s'.2 = legs.map (·.command) := by rw [h.log, hs, List.nil_append]
  have hnext : answer afterwards s.1 legs.length = answer afterwards s'.1 0 := by
    rw [h.script.1, answer, answer, List.getElem?_drop, Nat.add_zero]
  have hkind : w'.kind = kind := h.kind_eq.trans hw.kind_eq
  cases hend with
  | finished hfinished =>
    obtain ⟨tokens, hends, hnot, hmap⟩ := h.tokens_of_finished hw hargs hfinished
    refine ⟨h.dialogue hw.kind_eq _ ?_, nofun⟩
    rw [hlog, hends, hmap]
    exact .finished hnot
  | cut hcommand =>
    obtain ⟨-, hnot, hmap⟩ := h.tokens_of_asking hw hargs hcommand
    have hsent : legs.map (·.command) =
        (Cursor.startToken :: Leg.tokens legs).dropLast.map (kind.request key clauses) := by
      rw [List.map_dropLast, ← hmap, List.dropLast_concat]
    refine ⟨h.dialogue hw.kind_eq _ ?_, nofun⟩
    rw [hlog, hsent]
    exact .cut hnot (by rw [Leg.tokens, List.length_map, Nat.zero_add])
  | refused hrefused => exact absurd hrefused (h.not_refused hw hargs)
  | unsent hcommand hsend =>
    obtain ⟨hname, hnot, hmap⟩ := h.tokens_of_asking hw hargs hcommand
    rw [sendStep_scripted, Command.name, hname] at hsend
    obtain ⟨hanswer, rfl⟩ := Prod.mk.inj hsend
    refine ⟨h.dialogue hw.kind_eq _ ?_, fun f hf => ?_⟩
    · rw [hlog, hmap]
      exact .failed hnot
    · cases hf
      rw [hnext, ScanKind.outcome, hanswer]
      rfl
  | unread hcommand hsend hpage =>
    obtain ⟨hname, hnot, hmap⟩ := h.tokens_of_asking hw hargs hcommand
    rw [sendStep_scripted, Command.name, hname] at hsend
    obtain ⟨hanswer, rfl⟩ := Prod.mk.inj hsend
    refine ⟨h.dialogue hw.kind_eq _ ?_, fun f hf => ?_⟩
    · rw [hlog, hmap]
      exact .failed hnot
    · cases hf
      rw [hnext, ScanKind.outcome, hanswer]
      exact hkind ▸ hpage

/-- **The dialogue of a walk whose pages are gathered**, and of one that goes page by page: it
fails when the answer behind those of the legs is no page. -/
theorem dialogue_of_gather (hargs : ScanArgs.Encodes args clauses)
    (hw : w.Asks kind key args Cursor.startToken) (hs : s.2 = []) (limit : Nat) :
    let c := blocking (scripted afterwards).recording options
    let bulk := c.gather limit w [] s
    let paged := Pages.take c limit ⟨w, false⟩ s
    ∃ pages ending,
      Dialogue kind (kind.request key clauses) (answer afterwards s.1) limit pages ending
          bulk.2.2 ∧
        paged.2.2 = bulk.2 ∧ bulk.1 = ending.result (pages.flatMap (·.elements)) ∧
        paged.1.map (·.1) = pages.map (.ok ·.elements) ++ ending.failures.map .error ∧
        (∀ f, ending = .failed f →
          kind.outcome (answer afterwards s.1 pages.length) = .error f) ∧
        (ending ≠ .cut → ∀ s, paged.2.1.next c s = (none, paged.2.1, s)) := by
  intro c bulk paged
  obtain ⟨legs, n, w', s', ending, s'', rfl, htravels, hhalts⟩ := c.exists_course limit w s
  obtain ⟨hdialogue, hfails⟩ := dialogue_of_course hargs hw hs htravels hhalts
  have hbulk : bulk = (ending.result (Leg.elements legs), s'') := gather_of_course htravels hhalts
  obtain ⟨items, p, hitems, hpaged, hforever⟩ :=
    exists_take_of_course htravels hhalts fun _ => htravels.not_refused hw hargs
  have hpaged : paged = (items, p, s'') := hpaged
  rw [hbulk, hpaged]
  refine ⟨legs.map (·.page), ending, hdialogue, rfl, ?_, ?_, ?_, hforever⟩
  · rw [List.flatMap_map]
    rfl
  · rw [hitems, Leg.pages, List.map_map, List.map_map]
    rfl
  · rw [List.length_map]
    exact hfails

/-- **The dialogue of a walk into a channel**: it fails when the answer behind those of the legs is
no page that the channel takes. -/
theorem dialogue_of_pour (hargs : ScanArgs.Encodes args clauses)
    (hw : w.Asks kind key args Cursor.startToken) (hs : s.2 = []) (limit : Nat)
    (channel : Channel ε γ) (g : γ) :
    let stream := (blocking (scripted afterwards).recording options).pour channel limit w 0 s g
    ∃ pages ending,
      Dialogue kind (kind.request key clauses) (answer afterwards s.1) limit pages ending
          stream.2.1.2 ∧
        channel.Takes g (pages.flatMap (·.elements)) ∧
        stream.1 = ending.result (pages.flatMap (·.elements)).length ∧
        ∀ f page, ending = .failed f →
          kind.outcome (answer afterwards s.1 pages.length) = .ok page →
            ¬channel.Takes (channel.after g (pages.flatMap (·.elements))) page.elements := by
  obtain ⟨legs, n, w', s', ending, s'', rfl, htravels, hhalts⟩ :=
    (blocking (scripted afterwards).recording options).exists_course limit w s
  have hpages (l : List (Leg ε)) : (l.map (·.page)).flatMap (·.elements) = Leg.elements l := by
    rw [List.flatMap_map]
    rfl
  by_cases htakes : channel.Takes g (Leg.elements legs)
  · -- the walk ends where it would end when gathered
    obtain ⟨hdialogue, hfails⟩ := dialogue_of_course hargs hw hs htravels hhalts
    obtain ⟨ending', g', hpour, hsame⟩ := exists_pour_of_halts hhalts channel
      (0 + (Leg.elements legs).length) (channel.after g (Leg.elements legs))
    have hstream := (pour_travels htravels htakes n 0).trans hpour
    refine ⟨legs.map (·.page), ending', ?_, ?_, ?_, fun f page hf hpage => ?_⟩
    · rw [hstream]
      refine ⟨hdialogue.page, hdialogue.token, ?_⟩
      rcases hsame with rfl | ⟨f, f', rfl, rfl⟩
      · exact hdialogue.chain
      · exact hdialogue.chain.failed_of_failed f'
    · rwa [hpages]
    · rw [hstream, hpages, Nat.zero_add]
    · -- the answer behind the legs is no page
      obtain ⟨f₁, hfailed⟩ : ∃ f₁, ending = .failed f₁ := by
        rcases hsame with rfl | ⟨f₁, f₂, hfailed, -⟩
        · exact ⟨f, hf⟩
        · exact ⟨f₁, hfailed⟩
      rw [List.length_map, hfails f₁ hfailed] at hpage
      nomatch hpage
  · -- the walk ends with a leg, which has the first element that is refused
    obtain ⟨before, e, rest, fault, helements, hbefore, hrefused⟩ := Channel.exists_refused htakes
    obtain ⟨l₁, leg, l₂, a, b, w₁, s₁, hlegs, hpage, rfl, hfirst, hpour⟩ :=
      pour_refused htravels helements hbefore hrefused n 0
    rw [Channel.takes_append] at hbefore
    rw [Channel.after_append] at hrefused
    obtain ⟨w₀, s₀, hcompleted, hleg⟩ := hfirst.split
    have hanswer : answer afterwards s.1 l₁.length = .ok leg.reply :=
      hfirst.script.2 l₁.length leg (by simp)
    have hread : scanPage kind leg.reply = .ok leg.page :=
      hw.kind_eq ▸ hfirst.scanPage_of_mem (by simp)
    refine ⟨l₁.map (·.page), .failed (.ofRefusal a.length fault), ?_, ?_, ?_,
      fun f page hf hpage' => ?_⟩
    · refine hcompleted.dialogue hw.kind_eq _ ?_
      cases hleg with
      | step hcommand _ _ _ =>
        obtain ⟨-, hnot, hmap⟩ := hcompleted.tokens_of_asking hw hargs hcommand
        rw [hpour, hfirst.log, hs, List.nil_append, List.map_append]
        show TokenChain _ _ _ _ (l₁.map (·.command) ++ [leg.command])
        rw [hmap]
        exact .failed hnot
    · rw [hpages]
      exact hbefore.1
    · rw [hpour]
      rfl
    · rw [List.length_map, hanswer] at hpage'
      cases hpage'.symm.trans hread
      rw [hpages, hpage, Channel.takes_append, Channel.takes_cons]
      rintro ⟨-, htaken, -⟩
      nomatch htaken.symm.trans hrefused

end Client

end Commands

end KeyWalk
