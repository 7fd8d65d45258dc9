import KeyWalk.Client
import KeyWalk.Proofs.Delivery

/-!
The course of a walk.

A walk over any transport completes some steps, its legs, and then it halts: it is over, a step
fails, or no more steps may be made.  The three ways to drive a walk go through the same legs and
differ in what they make of the pages.

* `exists_course`: from any state there are legs and an ending,
* `Travels.log`: the commands of the legs are what is sent,
* `gather_of_course`, `exists_take_of_course`: what becomes of the pages,
* `pour_travels`, `exists_pour_of_accepts`: a walk into a channel that takes everything,
* `pour_refused`: a walk into a channel that refuses an element.

Design notes.  A leg keeps its command and its reply beside the page, so that what was sent and
what was answered can be told from the legs.
-/

namespace KeyWalk

variable {σ ε γ : Type}

/-! ### One reply, as a page and into a channel -/

section OneReply

variable {kind : ScanKind ε} {reply : Reply} {page : ScanPage ε} {channel : Channel ε γ} {g : γ}

theorem scanPage_of_split {cursor : Cursor} {tokens : List Reply}
    (h : splitScanReply kind.command.name reply = .ok (cursor, tokens)) :
    scanPage kind reply = (collect kind.reader kind.command.name tokens).map (⟨cursor, ·⟩) := by
  rw [scanPage, h]
  cases hcollect : collect kind.reader kind.command.name tokens <;>
    simp [bind, Except.bind, pure, Except.pure, Except.map, hcollect]

theorem scanPage_of_not_split {f : Failure}
    (h : splitScanReply kind.command.name reply = .error f) : scanPage kind reply = .error f := by
  rw [scanPage, h]
  rfl

theorem scanPage_eq_ok_iff :
    scanPage kind reply = .ok page ↔ ∃ tokens,
      splitScanReply kind.command.name reply = .ok (page.cursor, tokens) ∧
        collect kind.reader kind.command.name tokens = .ok page.elements := by
  constructor
  · intro h
    rcases hsplit : splitScanReply kind.command.name reply with f | ⟨cursor, tokens⟩
    · rw [scanPage_of_not_split hsplit] at h
      nomatch h
    · rw [scanPage_of_split hsplit] at h
      cases hcollect : collect kind.reader kind.command.name tokens with
      | error f =>
        rw [hcollect] at h
        nomatch h
      | ok elements =>
        rw [hcollect] at h
        cases h
        exact ⟨tokens, rfl, hcollect⟩
  · rintro ⟨tokens, hsplit, hcollect⟩
    rw [scanPage_of_split hsplit, hcollect]
    rfl

/-- A reply that is no page does not split, or it has an element that cannot be read. -/
theorem scanPage_eq_error {f : Failure} (h : scanPage kind reply = .error f) :
    splitScanReply kind.command.name reply = .error f ∨ ∃ cursor tokens,
      splitScanReply kind.command.name reply = .ok (cursor, tokens) ∧
        collect kind.reader kind.command.name tokens = .error f := by
  rcases hsplit : splitScanReply kind.command.name reply with f' | ⟨cursor, tokens⟩
  · rw [scanPage_of_not_split hsplit] at h
    cases h
    exact .inl rfl
  · rw [scanPage_of_split hsplit] at h
    cases hcollect : collect kind.reader kind.command.name tokens with
    | error f' =>
      rw [hcollect] at h
      cases h
      exact .inr ⟨cursor, tokens, rfl, hcollect⟩
    | ok elements =>
      rw [hcollect] at h
      nomatch h

/-- A page that the channel takes. -/
theorem scanStream_takes (h : scanPage kind reply = .ok page)
    (htakes : channel.Takes g page.elements) :
    scanStream kind channel reply g =
      (.ok ⟨page.cursor, page.elements.length⟩, channel.after g page.elements) := by
  obtain ⟨tokens, hsplit, hcollect⟩ := scanPage_eq_ok_iff.1 h
  simp only [scanStream, hsplit, deliver_of_collect hcollect htakes]

/-- A page with an element that the channel refuses. -/
theorem scanStream_refused {before rest : List ε} {e : ε} {fault : Failure}
    (h : scanPage kind reply = .ok page) (helements : page.elements = before ++ e :: rest)
    (htakes : channel.Takes g before)
    (hrefused : (channel.accept e (channel.after g before)).1 = some fault) :
    scanStream kind channel reply g =
      (.error (.ofRefusal before.length fault),
        (channel.accept e (channel.after g before)).2) := by
  obtain ⟨tokens, hsplit, hcollect⟩ := scanPage_eq_ok_iff.1 h
  rw [helements] at hcollect
  simp only [scanStream, hsplit, deliver_refused hcollect htakes hrefused]

/-- A reply that is no page fails in the same way into every channel that takes the elements in
front of the failure. -/
theorem exists_scanStream_of_error {f : Failure} (h : scanPage kind reply = .error f) :
    ∃ part : List ε, ∀ {γ : Type} (channel : Channel ε γ) (g : γ), channel.Takes g part →
      scanStream kind channel reply g = (.error f, channel.after g part) := by
  rcases scanPage_eq_error h with hsplit | ⟨cursor, tokens, hsplit, hcollect⟩
  · exact ⟨[], fun channel g _ => by simp only [scanStream, hsplit, Channel.after_nil]⟩
  · obtain ⟨part, hpart⟩ := exists_deliver_of_collect_error hcollect
    refine ⟨part, fun channel g htakes => ?_⟩
    simp only [scanStream, hsplit, hpart channel g htakes]

/-- Only a page that the channel takes completes a step. -/
theorem exists_page_of_scanStream {streamed : StreamedPage} {g' : γ}
    (h : scanStream kind channel reply g = (.ok streamed, g')) :
    ∃ page, scanPage kind reply = .ok page ∧ channel.Takes g page.elements := by
  rw [scanStream] at h
  cases hsplit : splitScanReply kind.command.name reply with
  | error f => simp [hsplit] at h
  | ok parts =>
    obtain ⟨cursor, tokens⟩ := parts
    cases hdeliver : deliver kind.reader kind.command.name channel tokens g with
    | mk result g₁ =>
      cases result with
      | error f => simp [hsplit, hdeliver] at h
      | ok n =>
        obtain ⟨es, hcollect, htakes, -⟩ := deliver_eq_ok_iff.1 hdeliver
        exact ⟨⟨cursor, es⟩, scanPage_eq_ok_iff.2 ⟨tokens, hsplit, hcollect⟩, htakes⟩

end OneReply

/-! ### Legs -/

/-- A completed step of a walk. -/
structure Leg (ε : Type) where
  command : Command
  reply : Reply
  page : ScanPage ε

namespace Leg

variable {l₁ l₂ legs : List (Leg ε)} {leg : Leg ε}

/-- The elements of each page. -/
def pages (legs : List (Leg ε)) : List (List ε) := legs.map (·.page.elements)

/-- The elements of all pages. -/
def elements (legs : List (Leg ε)) : List ε := legs.flatMap (·.page.elements)

/-- The tokens that the store handed back. -/
def tokens (legs : List (Leg ε)) : List Bytes := legs.map (·.page.cursor.position)

@[simp] theorem elements_nil : elements ([] : List (Leg ε)) = [] := rfl

@[simp] theorem elements_cons : elements (leg :: legs) = leg.page.elements ++ elements legs :=
  List.flatMap_cons

@[simp] theorem elements_append : elements (l₁ ++ l₂) = elements l₁ ++ elements l₂ :=
  List.flatMap_append

theorem flatten_pages (legs : List (Leg ε)) :
    (pages legs).flatten = elements legs := List.flatMap_def.symm

theorem length_pages (legs : List (Leg ε)) : (pages legs).length = legs.length :=
  List.length_map _

theorem take_pages (legs : List (Leg ε)) (n : Nat) :
    (pages legs).take n = pages (legs.take n) := List.map_take.symm

/-- Each element is on the page of some leg. -/
theorem exists_leg_of_elements {before rest : List ε} {e : ε}
    (h : elements legs = before ++ e :: rest) :
    ∃ l₁ leg l₂ a b, legs = l₁ ++ leg :: l₂ ∧ leg.page.elements = a ++ e :: b ∧
      before = elements l₁ ++ a := by
  induction legs generalizing before with
  | nil => simp at h
  | cons leg legs ih =>
    rw [elements_cons] at h
    -- the element is on the first page, or the first page is all in front of it
    by_cases hlt : before.length < leg.page.elements.length
    · obtain ⟨more, hmore⟩ : before <+: leg.page.elements :=
        List.prefix_of_prefix_length_le (h ▸ List.prefix_append before _)
          (List.prefix_append _ _) (Nat.le_of_lt hlt)
      cases more with
      | nil => simp [← hmore] at hlt
      | cons e' b =>
        rw [← hmore, List.append_assoc] at h
        cases List.append_cancel_left h
        exact ⟨[], leg, legs, before, b, rfl, hmore.symm, rfl⟩
    · obtain ⟨before', rfl⟩ : leg.page.elements <+: before :=
        List.prefix_of_prefix_length_le (h ▸ List.prefix_append _ _)
          (List.prefix_append before _) (Nat.le_of_not_lt hlt)
      rw [List.append_assoc] at h
      obtain ⟨l₁, leg', l₂, a, b, rfl, hleg', rfl⟩ := ih (List.append_cancel_left h)
      exact ⟨leg :: l₁, leg', l₂, a, b, rfl, hleg', by rw [elements_cons, List.append_assoc]⟩

end Leg

/-- How a walk ends: it is over, it failed, or it was cut short. -/
inductive Ending where
  | finished
  | failed (f : Failure)
  | cut

namespace Ending

/-- The result of a walk, `a` if it is over. -/
def result {α : Type} (a : α) : Ending → Option (Outcome α)
  | finished => some (.ok a)
  | failed f => some (.error f)
  | cut => none

/-- The failure that a walk ended with. -/
def failures : Ending → List Failure
  | failed f => [f]
  | _ => []

end Ending

namespace Client

variable {c : Client σ} {w w' : Walk ε} {s s' s'' : σ} {l₁ l₂ legs : List (Leg ε)} {leg : Leg ε}
  {ending : Ending} {channel : Channel ε γ} {g : γ} {n : Nat}

/-- Completed steps of a walk, one after the other. -/
inductive Travels (c : Client σ) : Walk ε → σ → List (Leg ε) → Walk ε → σ → Prop where
  | stay (w : Walk ε) (s : σ) : Travels c w s [] w s
  | step {w w' : Walk ε} {s s₁ s' : σ} {leg : Leg ε} {legs : List (Leg ε)}
      (hcommand : w.nextCommand? = .ok (some leg.command))
      (hsend : c.sendStep leg.command s = (.ok leg.reply, s₁))
      (hpage : scanPage w.kind leg.reply = .ok leg.page)
      (hrest : Travels c (w.record leg.page.cursor) s₁ legs w' s') :
      Travels c w s (leg :: legs) w' s'

/-- The walk makes no further step when it may still make `n`. -/
inductive Halts (c : Client σ) : Nat → Walk ε → σ → Ending → σ → Prop where
  | finished {n : Nat} {w : Walk ε} {s : σ} (h : w.nextCommand? = .ok none) :
      Halts c n w s .finished s
  | cut {w : Walk ε} {s : σ} {command : Command}
      (hcommand : w.nextCommand? = .ok (some command)) : Halts c 0 w s .cut s
  | refused {n : Nat} {w : Walk ε} {s : σ} {f : Failure} (h : w.nextCommand? = .error f) :
      Halts c n w s (.failed f) s
  | unsent {n : Nat} {w : Walk ε} {s s₁ : σ} {command : Command} {f : Failure}
      (hcommand : w.nextCommand? = .ok (some command))
      (hsend : c.sendStep command s = (.error f, s₁)) : Halts c (n + 1) w s (.failed f) s₁
  | unread {n : Nat} {w : Walk ε} {s s₁ : σ} {command : Command} {reply : Reply} {f : Failure}
      (hcommand : w.nextCommand? = .ok (some command))
      (hsend : c.sendStep command s = (.ok reply, s₁))
      (hpage : scanPage w.kind reply = .error f) : Halts c (n + 1) w s (.failed f) s₁

/-- **Every walk has a course**, of legs and an ending. -/
theorem exists_course (c : Client σ) (limit : Nat) (w : Walk ε) (s : σ) :
    ∃ legs n w' s' ending s'', limit = n + legs.length ∧ c.Travels w s legs w' s' ∧
      c.Halts n w' s' ending s'' := by
  -- a step that completes takes one off the limit, and anything else is an ending
  induction limit generalizing w s with
  | zero =>
    rcases hcommand : w.nextCommand? with f | _ | command
    · exact ⟨[], 0, w, s, _, s, rfl, .stay w s, .refused hcommand⟩
    · exact ⟨[], 0, w, s, _, s, rfl, .stay w s, .finished hcommand⟩
    · exact ⟨[], 0, w, s, _, s, rfl, .stay w s, .cut hcommand⟩
  | succ limit ih =>
    rcases hcommand : w.nextCommand? with f | _ | command
    · exact ⟨[], _, w, s, _, s, rfl, .stay w s, .refused hcommand⟩
    · exact ⟨[], _, w, s, _, s, rfl, .stay w s, .finished hcommand⟩
    · rcases hsend : c.sendStep command s with ⟨f | reply, s₁⟩
      · exact ⟨[], _, w, s, _, s₁, rfl, .stay w s, .unsent hcommand hsend⟩
      · rcases hpage : scanPage w.kind reply with f | page
        · exact ⟨[], _, w, s, _, s₁, rfl, .stay w s, .unread hcommand hsend hpage⟩
        · obtain ⟨legs, n, w', s', ending, s'', rfl, htravels, hhalts⟩ :=
            ih (w.record page.cursor) s₁
          exact ⟨⟨command, reply, page⟩ :: legs, n, w', s', ending, s'', rfl,
            .step hcommand hsend hpage htravels, hhalts⟩

namespace Travels

theorem kind_eq (h : c.Travels w s legs w' s') : w'.kind = w.kind := by
  induction h with
  | stay => rfl
  | step _ _ _ _ ih => exact ih

/-- Each leg read its page from its reply. -/
theorem scanPage_of_mem (h : c.Travels w s legs w' s') (hleg : leg ∈ legs) :
    scanPage w.kind leg.reply = .ok leg.page := by
  induction h with
  | stay => nomatch hleg
  | step _ _ hpage _ ih =>
    rcases List.mem_cons.1 hleg with rfl | hleg
    · exact hpage
    · exact ih hleg

/-- Some legs and then the others. -/
theorem split (h : c.Travels w s (l₁ ++ l₂) w' s') :
    ∃ w₁ s₁, c.Travels w s l₁ w₁ s₁ ∧ c.Travels w₁ s₁ l₂ w' s' := by
  induction l₁ generalizing w s with
  | nil => exact ⟨w, s, .stay w s, h⟩
  | cons leg r ih =>
    cases h with
    | step hcommand hsend hpage hrest =>
      obtain ⟨w₁, s₁, hfirst, hsecond⟩ := ih hrest
      exact ⟨w₁, s₁, .step hcommand hsend hpage hfirst, hsecond⟩

/-- The commands of the legs are what is sent. -/
theorem log {t : Transport σ} {options : ClientOptions} {s s' : σ × List Command}
    (h : (blocking t.recording options).Travels w s legs w' s') :
    s'.2 = s.2 ++ legs.map (·.command) := by
  induction h with
  | stay => simp
  | @step _ _ s s₁ _ leg _ _ hsend _ _ ih =>
    have hlog : s₁.2 = s.2 ++ [leg.command] := congrArg (fun r => r.2.2) hsend.symm
    rw [ih, hlog, List.append_assoc]
    rfl

end Travels

/-! ### Gathering -/

/-- The pages of the legs are put behind each other. -/
theorem gather_travels (h : c.Travels w s legs w' s') (n : Nat) (taken : List ε) :
    c.gather (n + legs.length) w taken s = c.gather n w' (taken ++ Leg.elements legs) s' := by
  induction h generalizing taken with
  | stay => simp
  | step hcommand hsend hpage _ ih =>
    rw [List.length_cons, ← Nat.add_assoc, gather]
    simp only [hcommand, hsend, Walk.advance, hpage]
    rw [ih, Leg.elements_cons, List.append_assoc]

theorem gather_halts (h : c.Halts n w s ending s') (taken : List ε) :
    c.gather n w taken s = (ending.result taken, s') := by
  cases h with
  | finished h => rw [gather]; simp only [h, Ending.result]
  | cut hcommand => rw [gather]; simp only [hcommand, Ending.result]
  | refused h => rw [gather]; simp only [h, Ending.result]
  | unsent hcommand hsend => rw [gather]; simp only [hcommand, hsend, Ending.result]
  | unread hcommand hsend hpage =>
    rw [gather]
    simp only [hcommand, hsend, Walk.advance, hpage, Ending.result]

theorem gather_of_course (h : c.Travels w s legs w' s') (hend : c.Halts n w' s' ending s'') :
    c.gather (n + legs.length) w [] s = (ending.result (Leg.elements legs), s'') := by
  rw [gather_travels h, gather_halts hend, List.nil_append]

/-- A walk whose pages could all be gathered is finished after its legs. -/
theorem exists_course_of_gather {limit : Nat} {v : List ε}
    (h : (c.gather limit w [] s).1 = some (.ok v)) :
    ∃ legs n w' s', limit = n + legs.length ∧ v = Leg.elements legs ∧
      c.Travels w s legs w' s' ∧ c.Halts n w' s' .finished s' ∧
      (c.gather limit w [] s).2 = s' := by
  obtain ⟨legs, n, w', s', ending, s'', rfl, htravels, hhalts⟩ := c.exists_course limit w s
  rw [gather_of_course htravels hhalts] at h ⊢
  cases ending with
  | failed f => nomatch h
  | cut => nomatch h
  | finished =>
    cases h
    cases hhalts with
    | finished hfinished => exact ⟨legs, n, w', _, rfl, rfl, htravels, .finished hfinished, rfl⟩

/-! ### Into a channel -/

/-- The channel takes the pages of the legs. -/
theorem pour_travels (h : c.Travels w s legs w' s') (htakes : channel.Takes g (Leg.elements legs))
    (n total : Nat) :
    c.pour channel (n + legs.length) w total s g =
      c.pour channel n w' (total + (Leg.elements legs).length) s'
        (channel.after g (Leg.elements legs)) := by
  induction h generalizing g total with
  | stay => rfl
  | step hcommand hsend hpage _ ih =>
    rw [Leg.elements_cons, Channel.takes_append] at htakes
    rw [List.length_cons, ← Nat.add_assoc, pour]
    simp only [hcommand, hsend, Walk.advanceStreaming, scanStream_takes hpage htakes.1]
    rw [ih htakes.2, Leg.elements_cons, Channel.after_append, List.length_append, Nat.add_assoc]

/-- Only a reply that is no page can make a halting walk touch the channel. -/
theorem pour_halts (h : c.Halts n w s ending s') (channel : Channel ε γ) (total : Nat) (g : γ) :
    c.pour channel n w total s g = (ending.result total, s', g) ∨
      ∃ f reply, ending = .failed f ∧ scanPage w.kind reply = .error f ∧
        ∀ f' g', KeyWalk.scanStream w.kind channel reply g = (.error f', g') →
          c.pour channel n w total s g = (some (.error f'), s', g') := by
  cases h with
  | finished h => exact .inl (by rw [pour]; simp only [h, Ending.result])
  | cut hcommand => exact .inl (by rw [pour]; simp only [hcommand, Ending.result])
  | refused h => exact .inl (by rw [pour]; simp only [h, Ending.result])
  | unsent hcommand hsend => exact .inl (by rw [pour]; simp only [hcommand, hsend, Ending.result])
  | unread hcommand hsend hpage =>
    refine .inr ⟨_, _, rfl, hpage, fun f' g' hstream => ?_⟩
    rw [pour]
    simp only [hcommand, hsend, Walk.advanceStreaming, hstream]

/-- A channel that takes everything gets, when the walk fails, the elements in front of the
failure. -/
theorem exists_pour_of_accepts (h : c.Halts n w s ending s')
    (haccepts : ∀ e g, (channel.accept e g).1 = none) (total : Nat) (g : γ) :
    ∃ part, (ending.failures = [] → part = []) ∧
      c.pour channel n w total s g = (ending.result total, s', channel.after g part) := by
  rcases pour_halts h channel total g with hpour | ⟨f, reply, rfl, hpage, hpour⟩
  · exact ⟨[], fun _ => rfl, hpour⟩
  · obtain ⟨part, hpart⟩ := exists_scanStream_of_error hpage
    exact ⟨part, nofun, hpour _ _ (hpart channel g (Channel.takes_of_accepts haccepts))⟩

/-- Into any channel, the walk fails where it would fail when gathered, though the channel may
refuse an element in front of the failure. -/
theorem exists_pour_of_halts (h : c.Halts n w s ending s') (channel : Channel ε γ) (total : Nat)
    (g : γ) :
    ∃ ending' g', c.pour channel n w total s g = (ending'.result total, s', g') ∧
      (ending' = ending ∨ ∃ f f', ending = .failed f ∧ ending' = .failed f') := by
  rcases pour_halts h channel total g with hpour | ⟨f, reply, rfl, hpage, hpour⟩
  · exact ⟨ending, g, hpour, .inl rfl⟩
  · rcases hstream : KeyWalk.scanStream w.kind channel reply g with ⟨f' | streamed, g'⟩
    · exact ⟨.failed f', g', hpour f' g' hstream, .inr ⟨f, f', rfl, rfl⟩⟩
    · obtain ⟨page, hpage', -⟩ := exists_page_of_scanStream hstream
      nomatch hpage.symm.trans hpage'

/-- If the channel refuses an element of the legs then the walk ends with the leg that has it on
its page. -/
theorem pour_refused (h : c.Travels w s legs w' s') {before rest : List ε} {e : ε}
    {fault : Failure} (helements : Leg.elements legs = before ++ e :: rest)
    (htakes : channel.Takes g before)
    (hrefused : (channel.accept e (channel.after g before)).1 = some fault) (n total : Nat) :
    ∃ l₁ leg l₂ a b w₁ s₁, legs = l₁ ++ leg :: l₂ ∧ leg.page.elements = a ++ e :: b ∧
      before = Leg.elements l₁ ++ a ∧ c.Travels w s (l₁ ++ [leg]) w₁ s₁ ∧
      c.pour channel (n + legs.length) w total s g =
        (some (.error (.ofRefusal a.length fault)), s₁,
          (channel.accept e (channel.after g before)).2) := by
  obtain ⟨l₁, leg, l₂, a, b, rfl, hpage, rfl⟩ := Leg.exists_leg_of_elements helements
  rw [Channel.takes_append] at htakes
  rw [Channel.after_append] at hrefused
  have hstream := scanStream_refused (h.scanPage_of_mem (by simp)) hpage htakes.2 hrefused
  -- the legs in front are poured as a whole, then one round is left
  rw [List.append_cons] at h
  obtain ⟨w₁, s₁, hfirst, -⟩ := h.split
  obtain ⟨w₀, s₀, hbefore, hleg⟩ := hfirst.split
  refine ⟨l₁, leg, l₂, a, b, w₁, s₁, rfl, hpage, rfl, hfirst, ?_⟩
  have hlength : n + (l₁ ++ leg :: l₂).length = n + l₂.length + 1 + l₁.length := by
    rw [List.length_append, List.length_cons]
    omega
  rw [hlength, pour_travels hbefore htakes.1, pour, Channel.after_append]
  cases hleg with
  | step hcommand hsend _ hrest =>
    cases hrest
    simp only [hcommand, hsend, Walk.advanceStreaming, hbefore.kind_eq, hstream]

/-! ### Page by page -/

theorem take_of_next {p : Pages ε} (h : p.next c s = (none, p, s)) (n : Nat) :
    p.take c n s = ([], p, s) := by
  cases n with
  | zero => rfl
  | succ n => rw [Pages.take, h]

theorem next_of_failed (c : Client σ) (w : Walk ε) (s : σ) :
    (⟨w, true⟩ : Pages ε).next c s = (none, ⟨w, true⟩, s) := rfl

theorem next_of_finished (c : Client σ) (h : w.nextCommand? = .ok none) (s : σ) :
    (⟨w, false⟩ : Pages ε).next c s = (none, ⟨w, false⟩, s) := by
  simp only [Pages.next, h, Bool.false_eq_true, if_false]

/-- The next page of a walk that completes a step. -/
theorem next_of_leg (hcommand : w.nextCommand? = .ok (some leg.command))
    (hsend : c.sendStep leg.command s = (.ok leg.reply, s'))
    (hpage : scanPage w.kind leg.reply = .ok leg.page) :
    (⟨w, false⟩ : Pages ε).next c s =
      (some (.ok leg.page.elements), ⟨w.record leg.page.cursor, false⟩, s') := by
  simp only [Pages.next, hcommand, hsend, Walk.advance, hpage, Bool.false_eq_true, if_false]

/-- The next page of a walk that fails. -/
theorem next_of_halts {f : Failure} (h : c.Halts n w s (.failed f) s') :
    (⟨w, false⟩ : Pages ε).next c s = (some (.error f), ⟨w, true⟩, s') := by
  rw [Pages.next, if_neg Bool.false_ne_true]
  cases h with
  | refused h => simp only [h]
  | unsent hcommand hsend => simp only [hcommand, hsend]
  | unread hcommand hsend hpage => simp only [hcommand, hsend, Walk.advance, hpage]

/-- The next page of a walk: there is none, or the walk fails, or it completes a step. -/
theorem next_cases (c : Client σ) (w : Walk ε) (s : σ) :
    w.nextCommand? = .ok none ∨ (∃ f s', c.Halts 1 w s (.failed f) s') ∨
      ∃ (leg : Leg ε) (s' : σ), w.nextCommand? = .ok (some leg.command) ∧
        c.sendStep leg.command s = (.ok leg.reply, s') ∧
        scanPage w.kind leg.reply = .ok leg.page := by
  obtain ⟨legs, n, w', s₁, ending, s', hlimit, htravels, hhalts⟩ := c.exists_course 1 w s
  cases htravels with
  | stay =>
    obtain rfl : 1 = n := hlimit
    cases ending with
    | finished =>
      cases hhalts with
      | finished h => exact .inl h
    | failed f => exact .inr (.inl ⟨f, s', hhalts⟩)
    | cut => cases hhalts
  | step hcommand hsend hpage _ => exact .inr (.inr ⟨_, _, hcommand, hsend, hpage⟩)

/-- The pages of the legs come one after the other. -/
theorem take_travels (h : c.Travels w s legs w' s') (n : Nat) :
    ∃ items, items.map (·.1) = (Leg.pages legs).map .ok ∧
      Pages.take c (n + legs.length) ⟨w, false⟩ s =
        (items ++ (Pages.take c n ⟨w', false⟩ s').1, (Pages.take c n ⟨w', false⟩ s').2) := by
  induction h with
  | stay => exact ⟨[], rfl, rfl⟩
  | @step w _ s s₁ _ leg legs hcommand hsend hpage _ ih =>
    obtain ⟨items, hitems, htake⟩ := ih
    refine ⟨(.ok leg.page.elements, w.record leg.page.cursor) :: items, ?_, ?_⟩
    · rw [List.map_cons, hitems]
      rfl
    · rw [List.length_cons, ← Nat.add_assoc, Pages.take, next_of_leg hcommand hsend hpage]
      simp only [htake]
      rfl

/-- The failure comes last. -/
theorem take_failed {f : Failure} (h : c.Halts n w s (.failed f) s') (m : Nat) :
    Pages.take c (m + 1) ⟨w, false⟩ s = ([(.error f, w)], ⟨w, true⟩, s') := by
  rw [Pages.take, next_of_halts h]
  simp only [take_of_next (next_of_failed c w s') m]

/-- Where the walk halts, the iterator yields at most a failure, and nothing afterwards. -/
theorem exists_take_of_halts (h : c.Halts n w s ending s')
    (hrefused : ∀ f, w.nextCommand? ≠ .error f) :
    ∃ items p, items.map (·.1) = ending.failures.map .error ∧
      Pages.take c n ⟨w, false⟩ s = (items, p, s') ∧
      (ending ≠ .cut → ∀ s, p.next c s = (none, p, s)) := by
  cases h with
  | finished h =>
    exact ⟨[], _, rfl, take_of_next (next_of_finished c h s) n, fun _ => next_of_finished c h⟩
  | cut hcommand => exact ⟨[], ⟨w, false⟩, rfl, rfl, fun hcut => absurd rfl hcut⟩
  | refused h => exact absurd h (hrefused _)
  | unsent hcommand hsend =>
    exact ⟨_, _, rfl, take_failed (.unsent (n := 0) hcommand hsend) _,
      fun _ => next_of_failed c w⟩
  | unread hcommand hsend hpage =>
    exact ⟨_, _, rfl, take_failed (.unread (n := 0) hcommand hsend hpage) _,
      fun _ => next_of_failed c w⟩

/-- What the iterator yields in as many calls as steps may be made. -/
theorem exists_take_of_course (h : c.Travels w s legs w' s') (hend : c.Halts n w' s' ending s'')
    (hrefused : ∀ f, w'.nextCommand? ≠ .error f) :
    ∃ items p, items.map (·.1) =
        (Leg.pages legs).map .ok ++ ending.failures.map .error ∧
      Pages.take c (n + legs.length) ⟨w, false⟩ s = (items, p, s'') ∧
      (ending ≠ .cut → ∀ s, p.next c s = (none, p, s)) := by
  obtain ⟨first, hfirst, htake⟩ := take_travels h n
  obtain ⟨last, p, hlast, hlast', hforever⟩ := exists_take_of_halts hend hrefused
  refine ⟨first ++ last, p, ?_, ?_, hforever⟩
  · rw [List.map_append, hfirst, hlast]
  · rw [htake, hlast']

/-- All that the iterator of pages yields, if one more call is made than steps may be. -/
theorem outcomes_of_halts (h : c.Travels w s legs w' s') (hend : c.Halts n w' s' ending s'')
    (hcut : ending ≠ .cut) :
    (Pages.take c (n + legs.length + 1) ⟨w, false⟩ s).1.map (·.1) =
      (Leg.pages legs).map .ok ++ ending.failures.map .error := by
  obtain ⟨items, hitems, htake⟩ := take_travels h (n + 1)
  rw [Nat.add_right_comm, htake, List.map_append, hitems]
  congr 1
  cases ending with
  | cut => exact absurd rfl hcut
  | failed f => rw [take_failed hend n]; rfl
  | finished =>
    cases hend with
    | finished h => rw [take_of_next (next_of_finished c h s') (n + 1)]; rfl

end Client

end KeyWalk
