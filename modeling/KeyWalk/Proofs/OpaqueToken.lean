import Mathlib.Data.List.Forall2
import KeyWalk.Proofs.Dialogue

/-!
Tokens are opaque.

Against two scripts that differ in tokens alone, and have the start token at the same places, a
walk does the same.  Both runs are followed side by side: the walks ask with other tokens, and
everything else about them is the same.

* `SameButToken`, `SameScript`: what differs between the two runs,
* `round_similar`: one round of both walks,
* `course_similar`: the legs of the two walks have the same elements, and they end alike,
* `gather_similar`, `pour_similar`: so they give the same pages, and the same goes into a channel.
-/

namespace KeyWalk

variable {ε γ : Type} {kind : ScanKind ε} {key : Bytes} {args : Option ScanArgs}
  {clauses : List Bytes}

/-- Two answers that may differ in the token of a step reply, if neither or both tokens are the
start token. -/
inductive SameButToken : Outcome Reply → Outcome Reply → Prop where
  | refl (a : Outcome Reply) : SameButToken a a
  | token {position position' elements : Reply} {token token' : Bytes}
      (h : position.token? = some token) (h' : position'.token? = some token')
      (hstart : token = Cursor.startToken ↔ token' = Cursor.startToken) :
      SameButToken (.ok (.array [position, elements])) (.ok (.array [position', elements]))

/-- Two requests of a walk that may differ in the token. -/
def SameRequest (kind : ScanKind ε) (key : Bytes) (clauses : List Bytes) (c c' : Command) : Prop :=
  ∃ token token', c = kind.request key clauses token ∧ c' = kind.request key clauses token'

/-! ### One reply -/

namespace SameButToken

variable {reply reply' : Reply}

theorem split (h : SameButToken (.ok reply) (.ok reply')) (command : String) :
    (∃ f, splitScanReply command reply = .error f ∧ splitScanReply command reply' = .error f) ∨
      ∃ token token' tokens, splitScanReply command reply = .ok (.ofToken token, tokens) ∧
        splitScanReply command reply' = .ok (.ofToken token', tokens) ∧
        (token = Cursor.startToken ↔ token' = Cursor.startToken) := by
  cases h with
  | refl =>
    rcases hsplit : splitScanReply command reply with f | ⟨cursor, tokens⟩
    · exact .inl ⟨f, rfl, rfl⟩
    · obtain ⟨token, -, rfl⟩ := exists_token_of_split hsplit
      exact .inr ⟨token, token, tokens, rfl, rfl, .rfl⟩
  | @token _ _ elements token token' h h' hstart =>
    rw [splitScanReply_of_token h, splitScanReply_of_token h']
    rcases elements.readArray command with f | tokens
    · exact .inl ⟨f, rfl, rfl⟩
    · exact .inr ⟨token, token', tokens, rfl, rfl, hstart⟩

/-- The pages have the same elements. -/
theorem scanPage (h : SameButToken (.ok reply) (.ok reply')) (kind : ScanKind ε) :
    (∃ f, KeyWalk.scanPage kind reply = .error f ∧ KeyWalk.scanPage kind reply' = .error f) ∨
      ∃ token token' elements, KeyWalk.scanPage kind reply = .ok ⟨.ofToken token, elements⟩ ∧
        KeyWalk.scanPage kind reply' = .ok ⟨.ofToken token', elements⟩ ∧
        (token = Cursor.startToken ↔ token' = Cursor.startToken) := by
  rcases h.split kind.command.name with ⟨f, hf, hf'⟩ | ⟨token, token', tokens, hs, hs', hstart⟩
  · exact .inl ⟨f, scanPage_of_not_split hf, scanPage_of_not_split hf'⟩
  · rw [scanPage_of_split hs, scanPage_of_split hs']
    rcases collect kind.reader kind.command.name tokens with f | elements
    · exact .inl ⟨f, rfl, rfl⟩
    · exact .inr ⟨token, token', elements, rfl, rfl, hstart⟩

/-- The same elements go into a channel. -/
theorem scanStream (h : SameButToken (.ok reply) (.ok reply')) (kind : ScanKind ε)
    (channel : Channel ε γ) (g : γ) :
    (∃ f g', KeyWalk.scanStream kind channel reply g = (.error f, g') ∧
        KeyWalk.scanStream kind channel reply' g = (.error f, g')) ∨
      ∃ token token' n g', KeyWalk.scanStream kind channel reply g = (.ok ⟨.ofToken token, n⟩, g') ∧
        KeyWalk.scanStream kind channel reply' g = (.ok ⟨.ofToken token', n⟩, g') ∧
        (token = Cursor.startToken ↔ token' = Cursor.startToken) := by
  rcases h.split kind.command.name with ⟨f, hf, hf'⟩ | ⟨token, token', tokens, hs, hs', hstart⟩
  · exact .inl ⟨f, g, by simp only [KeyWalk.scanStream, hf], by simp only [KeyWalk.scanStream, hf']⟩
  · simp only [KeyWalk.scanStream, hs, hs']
    rcases deliver kind.reader kind.command.name channel tokens g with ⟨f | n, g'⟩
    · exact .inl ⟨f, g', rfl, rfl⟩
    · exact .inr ⟨token, token', n, g', rfl, rfl, hstart⟩

end SameButToken

/-! ### Two walks side by side -/

/-- Both walks are over, or both are yet to make a step, with tokens that may differ. -/
def Walk.Similar (kind : ScanKind ε) (key : Bytes) (args : Option ScanArgs) (w v : Walk ε) : Prop :=
  (∃ token token', w.Asks kind key args token ∧ v.Asks kind key args token') ∨
    (w.nextCommand? = .ok none ∧ v.nextCommand? = .ok none)

namespace Walk

variable {w v : Walk ε} {token token' : Bytes} {reply reply' : Reply}

theorem similar_record (hw : w.Asks kind key args token) (hv : v.Asks kind key args token')
    {t t' : Bytes} (h : t = Cursor.startToken ↔ t' = Cursor.startToken) :
    Similar kind key args (w.record (.ofToken t)) (v.record (.ofToken t')) := by
  by_cases ht : t = Cursor.startToken
  · obtain rfl := ht
    obtain rfl := h.1 rfl
    exact .inr ⟨w.nextCommand?_record_start, v.nextCommand?_record_start⟩
  · exact .inl ⟨t, t', hw.record ht, hv.record fun ht' => ht (h.2 ht')⟩

theorem advanceStreaming_similar (hw : w.Asks kind key args token)
    (hv : v.Asks kind key args token') (h : SameButToken (.ok reply) (.ok reply'))
    (channel : Channel ε γ) (g : γ) :
    (∃ f g', w.advanceStreaming channel reply g = (.error f, w, g') ∧
        v.advanceStreaming channel reply' g = (.error f, v, g')) ∨
      ∃ n w₁ v₁ g', w.advanceStreaming channel reply g = (.ok n, w₁, g') ∧
        v.advanceStreaming channel reply' g = (.ok n, v₁, g') ∧ Similar kind key args w₁ v₁ := by
  simp only [advanceStreaming, hw.kind_eq, hv.kind_eq]
  rcases h.scanStream kind channel g with ⟨f, g', hf, hf'⟩ | ⟨t, t', n, g', ht, ht', hstart⟩
  · exact .inl ⟨f, g', by rw [hf], by rw [hf']⟩
  · exact .inr ⟨n, _, _, g', by rw [ht], by rw [ht'], similar_record hw hv hstart⟩

end Walk

namespace Client

open Transport

/-- What is left of two scripts, and what was sent so far, differ in tokens. -/
structure SameScript (kind : ScanKind ε) (key : Bytes) (clauses : List Bytes)
    (s r : List (Outcome Reply) × List Command) : Prop where
  script : List.Forall₂ SameButToken s.1 r.1
  sent : List.Forall₂ (SameRequest kind key clauses) s.2 r.2

section

variable {afterwards afterwards' : Outcome Reply} {w v : Walk ε}
  {s r : List (Outcome Reply) × List Command} {token token' : Bytes}

theorem SameScript.answer (hafter : SameButToken afterwards afterwards')
    (h : SameScript kind key clauses s r) :
    SameButToken (answer afterwards s.1 0) (answer afterwards' r.1 0) := by
  obtain ⟨_ | _, _⟩ := s <;> obtain ⟨_ | _, _⟩ := r <;> cases h.script
  · exact hafter
  · assumption

theorem SameScript.step (h : SameScript kind key clauses s r) (token token' : Bytes) :
    SameScript kind key clauses (s.1.tail, s.2 ++ [kind.request key clauses token])
      (r.1.tail, r.2 ++ [kind.request key clauses token']) := by
  refine ⟨?_, List.rel_append h.sent (.cons ⟨token, token', rfl, rfl⟩ .nil)⟩
  obtain ⟨_ | _, _⟩ := s <;> obtain ⟨_ | _, _⟩ := r <;> cases h.script
  · exact .nil
  · assumption

/-- **One round of two walks**: both send their command, and either both get the same failure or
they get replies that may differ in the token. -/
theorem round_similar (options : ClientOptions) (hafter : SameButToken afterwards afterwards')
    (hargs : ScanArgs.Encodes args clauses) (hw : w.Asks kind key args token)
    (hv : v.Asks kind key args token') (h : SameScript kind key clauses s r) :
    ∃ command command' s₁ r₁, w.nextCommand? = .ok (some command) ∧
      v.nextCommand? = .ok (some command') ∧ SameScript kind key clauses s₁ r₁ ∧
      ((∃ f, (blocking (scripted afterwards).recording options).sendStep command s =
            (.error f, s₁) ∧
          (blocking (scripted afterwards').recording options).sendStep command' r =
            (.error f, r₁)) ∨
        ∃ reply reply', SameButToken (.ok reply) (.ok reply') ∧
          (blocking (scripted afterwards).recording options).sendStep command s =
            (.ok reply, s₁) ∧
          (blocking (scripted afterwards').recording options).sendStep command' r =
            (.ok reply', r₁)) := by
  refine ⟨_, _, _, _, hw.nextCommand? hargs, hv.nextCommand? hargs, h.step token token', ?_⟩
  rw [sendStep_scripted, sendStep_scripted]
  generalize hx : Transport.answer afterwards s.1 0 = x
  generalize hx' : Transport.answer afterwards' r.1 0 = x'
  have hsame : SameButToken x x' := hx ▸ hx' ▸ h.answer hafter
  cases hsame with
  | refl =>
    cases x with
    | error f => exact .inl ⟨_, rfl, rfl⟩
    | ok reply => exact .inr ⟨reply, reply, .refl _, rfl, rfl⟩
  | token ht ht' hstart => exact .inr ⟨_, _, .token ht ht' hstart, rfl, rfl⟩

/-- **The courses of two walks**: their legs have the same elements, and they end alike. -/
theorem course_similar (options : ClientOptions) (hafter : SameButToken afterwards afterwards')
    (hargs : ScanArgs.Encodes args clauses) (hw : Walk.Similar kind key args w v)
    (h : SameScript kind key clauses s r) (limit : Nat) :
    ∃ n legs legs' w' v' s' r' ending s'' r'', limit = n + legs.length ∧
      Leg.pages legs' = Leg.pages legs ∧
      (blocking (scripted afterwards).recording options).Travels w s legs w' s' ∧
      (blocking (scripted afterwards').recording options).Travels v r legs' v' r' ∧
      (blocking (scripted afterwards).recording options).Halts n w' s' ending s'' ∧
      (blocking (scripted afterwards').recording options).Halts n v' r' ending r'' ∧
      SameScript kind key clauses s'' r'' := by
  induction limit generalizing w v s r with
  | zero =>
    rcases hw with ⟨token, token', hw, hv⟩ | ⟨hw, hv⟩
    · exact ⟨0, [], [], w, v, s, r, .cut, s, r, rfl, rfl, .stay w s, .stay v r,
        .cut (hw.nextCommand? hargs), .cut (hv.nextCommand? hargs), h⟩
    · exact ⟨0, [], [], w, v, s, r, .finished, s, r, rfl, rfl, .stay w s, .stay v r,
        .finished hw, .finished hv, h⟩
  | succ limit ih =>
    rcases hw with ⟨token, token', hw, hv⟩ | ⟨hw, hv⟩
    · obtain ⟨command, command', s₁, r₁, hc, hc', hsame, hround⟩ :=
        round_similar options hafter hargs hw hv h
      rcases hround with ⟨f, hsend, hsend'⟩ | ⟨reply, reply', hreply, hsend, hsend'⟩
      · exact ⟨limit + 1, [], [], w, v, s, r, .failed f, s₁, r₁, rfl, rfl, .stay w s, .stay v r,
          .unsent hc hsend, .unsent hc' hsend', hsame⟩
      · rcases hreply.scanPage kind with ⟨f, hf, hf'⟩ | ⟨t, t', elements, ht, ht', hstart⟩
        · exact ⟨limit + 1, [], [], w, v, s, r, .failed f, s₁, r₁, rfl, rfl, .stay w s, .stay v r,
            .unread hc hsend (hw.kind_eq ▸ hf), .unread hc' hsend' (hv.kind_eq ▸ hf'), hsame⟩
        · -- one leg of each walk, with the same elements, and then the rest of both
          obtain ⟨n, legs, legs', w', v', s', r', ending, s'', r'', rfl, hpages, htravels,
            htravels', hhalts, hhalts', hends⟩ := ih (Walk.similar_record hw hv hstart) hsame
          refine ⟨n, ⟨command, reply, ⟨.ofToken t, elements⟩⟩ :: legs,
            ⟨command', reply', ⟨.ofToken t', elements⟩⟩ :: legs', w', v', s', r', ending, s'', r'',
            rfl, ?_, .step hc hsend (hw.kind_eq ▸ ht) htravels,
            .step hc' hsend' (hv.kind_eq ▸ ht') htravels', hhalts, hhalts', hends⟩
          rw [Leg.pages, List.map_cons, ← Leg.pages, hpages]
          rfl
    · exact ⟨limit + 1, [], [], w, v, s, r, .finished, s, r, rfl, rfl, .stay w s, .stay v r,
        .finished hw, .finished hv, h⟩

/-- Two walks whose pages are gathered, or come one by one. -/
theorem gather_similar (options : ClientOptions) (hafter : SameButToken afterwards afterwards')
    (hargs : ScanArgs.Encodes args clauses) (hw : w.Asks kind key args token)
    (hv : v.Asks kind key args token') (h : SameScript kind key clauses s r) (limit : Nat) :
    let c := blocking (scripted afterwards).recording options
    let c' := blocking (scripted afterwards').recording options
    let paged := Pages.take c limit ⟨w, false⟩ s
    let paged' := Pages.take c' limit ⟨v, false⟩ r
    (c'.gather limit v [] r).1 = (c.gather limit w [] s).1 ∧
      SameScript kind key clauses (c.gather limit w [] s).2 (c'.gather limit v [] r).2 ∧
      paged'.1.map (·.1) = paged.1.map (·.1) ∧
      SameScript kind key clauses paged.2.2 paged'.2.2 := by
  intro c c' paged paged'
  obtain ⟨n, legs, legs', w', v', s', r', ending, s'', r'', rfl, hpages, htravels, htravels',
    hhalts, hhalts', hends⟩ :=
    course_similar options hafter hargs (.inl ⟨token, token', hw, hv⟩) h limit
  have hlength : legs.length = legs'.length := by
    rw [← Leg.length_pages, ← hpages, Leg.length_pages]
  have helements : Leg.elements legs' = Leg.elements legs := by
    rw [← Leg.flatten_pages, hpages, Leg.flatten_pages]
  obtain ⟨items, p, hitems, hpaged, -⟩ :=
    exists_take_of_course htravels hhalts fun _ => htravels.not_refused hw hargs
  obtain ⟨items', p', hitems', hpaged', -⟩ :=
    exists_take_of_course htravels' hhalts' fun _ => htravels'.not_refused hv hargs
  have hbulk' := gather_of_course htravels' hhalts'
  rw [← hlength] at hpaged' hbulk'
  have hpaged : paged = (items, p, s'') := hpaged
  have hpaged' : paged' = (items', p', r'') := hpaged'
  rw [gather_of_course htravels hhalts, hbulk', hpaged, hpaged', helements, hitems, hitems', hpages]
  exact ⟨rfl, hends, rfl, hends⟩

/-- Two walks into a channel. -/
theorem pour_similar (options : ClientOptions) (hafter : SameButToken afterwards afterwards')
    (hargs : ScanArgs.Encodes args clauses) (hw : Walk.Similar kind key args w v)
    (h : SameScript kind key clauses s r) (channel : Channel ε γ) (limit total : Nat) (g : γ) :
    ∃ result s' r' g', SameScript kind key clauses s' r' ∧
      (blocking (scripted afterwards).recording options).pour channel limit w total s g =
        (result, s', g') ∧
      (blocking (scripted afterwards').recording options).pour channel limit v total r g =
        (result, r', g') := by
  induction limit generalizing w v s r total g with
  | zero =>
    rcases hw with ⟨token, token', hw, hv⟩ | ⟨hw, hv⟩
    · refine ⟨none, s, r, g, h, ?_, ?_⟩
      · simp only [pour, hw.nextCommand? hargs]
      · simp only [pour, hv.nextCommand? hargs]
    · exact ⟨some (.ok total), s, r, g, h, by simp only [pour, hw], by simp only [pour, hv]⟩
  | succ limit ih =>
    rcases hw with ⟨token, token', hw, hv⟩ | ⟨hw, hv⟩
    · obtain ⟨command, command', s₁, r₁, hc, hc', hsame, hround⟩ :=
        round_similar options hafter hargs hw hv h
      rcases hround with ⟨f, hsend, hsend'⟩ | ⟨reply, reply', hreply, hsend, hsend'⟩
      · refine ⟨some (.error f), s₁, r₁, g, hsame, ?_, ?_⟩
        · simp only [pour, hc, hsend]
        · simp only [pour, hc', hsend']
      · rcases Walk.advanceStreaming_similar hw hv hreply channel g with
          ⟨f, g₁, ha, ha'⟩ | ⟨n, w₁, v₁, g₁, ha, ha', hnext⟩
        · refine ⟨some (.error f), s₁, r₁, g₁, hsame, ?_, ?_⟩
          · simp only [pour, hc, hsend, ha]
          · simp only [pour, hc', hsend', ha']
        · obtain ⟨result, s', r', g', hends, hrun, hrun'⟩ := ih hnext hsame (total + n) g₁
          refine ⟨result, s', r', g', hends, ?_, ?_⟩
          · rw [pour]
            simp only [hc, hsend, ha, hrun]
          · rw [pour]
            simp only [hc', hsend', ha', hrun']
    · exact ⟨some (.ok total), s, r, g, h, by simp only [pour, hw], by simp only [pour, hv]⟩

end

/-- **The dialogue of a full walk with a script**, when its arguments are valid.

The pages of the walk are what it made of the first answers.  The first command carries the start
token and each later one the token of the reply before it, as it came; all else in the commands is
the same.  The walk is over with the first reply whose token is the start token.  If a step fails
then its command is the last one, and the iterator yields the failure and nothing after it.  A step
into a channel fails unless its answer is a page that the channel takes.

Against another script that differs in tokens alone, with the start token at the same places, the
walk has the same result, and its commands differ in tokens alone. -/
theorem dialogue_of_script (kind : ScanKind ε) (key : Bytes) (args : Option ScanArgs)
    (options : ClientOptions) (limit : Nat) (script : List (Outcome Reply))
    (afterwards : Outcome Reply) (channel : Channel ε γ) (g : γ)
    (hargs : ScanArgs.Encodes (options.scanArgs args) clauses) :
    let c := blocking (scripted afterwards).recording options
    let bulk := c.scanAll limit kind key args (script, [])
    let paged := (c.pages kind key args).take c limit (script, [])
    let stream := c.scanAllStream limit kind channel key args (script, []) g
    let IsDialogue := Dialogue kind (kind.request key clauses) (answer afterwards script) limit
    let outcome (i : Nat) := kind.outcome (answer afterwards script i)
    (∃ pages ending, IsDialogue pages ending bulk.2.2 ∧ paged.2.2 = bulk.2 ∧
        bulk.1 = ending.result (pages.flatMap (·.elements)) ∧
        paged.1.map (·.1) = pages.map (.ok ·.elements) ++ ending.failures.map .error ∧
        (∀ f, ending = .failed f → outcome pages.length = .error f) ∧
        (ending ≠ .cut → ∀ s, paged.2.1.next c s = (none, paged.2.1, s))) ∧
      (∃ pages ending, IsDialogue pages ending stream.2.1.2 ∧
        channel.Takes g (pages.flatMap (·.elements)) ∧
        stream.1 = ending.result (pages.flatMap (·.elements)).length ∧
        ∀ f page, ending = .failed f → outcome pages.length = .ok page →
          ¬channel.Takes (channel.after g (pages.flatMap (·.elements))) page.elements) ∧
      ∀ script' afterwards', List.Forall₂ SameButToken script script' →
        SameButToken afterwards afterwards' →
        let c' := blocking (scripted afterwards').recording options
        let bulk' := c'.scanAll limit kind key args (script', [])
        let paged' := (c'.pages kind key args).take c' limit (script', [])
        let stream' := c'.scanAllStream limit kind channel key args (script', []) g
        let SameRequests := List.Forall₂ (SameRequest kind key clauses)
        (bulk'.1 = bulk.1 ∧ SameRequests bulk.2.2 bulk'.2.2) ∧
          (paged'.1.map (·.1) = paged.1.map (·.1) ∧ SameRequests paged.2.2.2 paged'.2.2.2) ∧
          stream'.1 = stream.1 ∧ stream'.2.2 = stream.2.2 ∧
          SameRequests stream.2.1.2 stream'.2.1.2 := by
  intro c bulk paged stream IsDialogue outcome
  have hw : (c.walk kind key args).Asks kind key (options.scanArgs args) Cursor.startToken :=
    Walk.asks_start kind key _
  refine ⟨dialogue_of_gather (s := (script, [])) hargs hw rfl limit,
    dialogue_of_pour (s := (script, [])) hargs hw rfl limit channel g, ?_⟩
  intro script' afterwards' hscript hafter c' bulk' paged' stream' SameRequests
  have hv : (c'.walk kind key args).Asks kind key (options.scanArgs args) Cursor.startToken :=
    Walk.asks_start kind key _
  have hstart : SameScript kind key clauses (script, []) (script', []) := ⟨hscript, .nil⟩
  obtain ⟨hbulk, hsent, hpaged, hsent'⟩ := gather_similar options hafter hargs hw hv hstart limit
  obtain ⟨result, s', r', g', hends, hstream, hstream'⟩ :=
    pour_similar options hafter hargs (.inl ⟨_, _, hw, hv⟩) hstart channel limit 0 g
  have hstream : stream = (result, s', g') := hstream
  have hstream' : stream' = (result, r', g') := hstream'
  rw [hstream, hstream']
  exact ⟨⟨hbulk, hsent.sent⟩, ⟨hpaged, hsent'.sent⟩, rfl, rfl, hends.sent⟩

/-- The tokens `00` and the empty one against two others; the last token is a status text in one
of the scripts. -/
theorem dialogue_near_start :
    let page (position : Reply) (field : UInt8) : Outcome Reply :=
      .ok (.array [position, .array [.value [field], .value [2]]])
    let script := [page (.value [0x30, 0x30]) 1, page (.value []) 3, page (.value [0x30]) 5]
    let script' := [page (.value [0xff]) 1, page (.value [0x31]) 3, page (.status "0") 5]
    let clauses := [Bytes.ofString "COUNT", [0x37]]
    let walk (script : List (Outcome Reply)) :=
      (blocking (scripted (.ok .null)).recording { scanCount := some 7 }).scanAll 5 hashScan [9]
        none (script, [])
    (walk script).1 = some (.ok [⟨[1], [2]⟩, ⟨[3], [2]⟩, ⟨[5], [2]⟩]) ∧
      (walk script').1 = (walk script).1 ∧
      (walk script).2.2 = [[0x30], [0x30, 0x30], []].map (hashScan.request [9] clauses) ∧
      (walk script').2.2 = [[0x30], [0xff], [0x31]].map (hashScan.request [9] clauses) := by
  intro page script script' clauses walk
  have hargs : ScanArgs.Encodes (({ scanCount := some 7 } : ClientOptions).scanArgs none) clauses :=
    rfl
  have hscripts : List.Forall₂ SameButToken script script' :=
    .cons (.token rfl rfl (by decide)) (.cons (.token rfl rfl (by decide))
      (.cons (.token rfl rfl (by decide)) .nil))
  obtain ⟨-, -, hother⟩ := dialogue_of_script hashScan [9] none { scanCount := some 7 } 5 script
    (.ok .null) Channel.collector [] hargs
  obtain ⟨⟨hsame, -⟩, -⟩ := hother script' (.ok .null) hscripts (.refl _)
  exact ⟨rfl, hsame, rfl, rfl⟩

end Client

end KeyWalk
