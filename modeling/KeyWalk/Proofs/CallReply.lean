import KeyWalk.Proofs.Course
import KeyWalk.Proofs.Objection
import KeyWalk.Proofs.RangeRead

/-!
The replies to the calls are read.

A call expects a reply of a certain shape, and the store gives one: whole numbers, truth values,
scores as text, lists that split into whole elements.

* `Prepared.Reads p refused reply`: the call makes a result of the reply, unless its channel refuses
  an element of it,
* `Prepared.Understood p refused s request`: the store takes the command of the call for the
  request, and the call reads whatever the store answers to it,
* `Call.understood_integer` and its neighbours: the calls of one shape, and `Call.lists_entries` and
  its neighbours: the lists that a store answers.

Design notes.  A channel may refuse what it likes, so `refused g f` says that the failure `f` is the
doing of the channel, which was in state `g` (`Channel.Refusal`).  Of a call without a channel no
failure is (`Channel.Never`).
-/

namespace KeyWalk

/-! ### Failures of channels -/

section Channels

variable {ε γ : Type}

/-- The failure tells that the channel, from the state `g` on, took some elements and refused the
next one. -/
def Channel.Refusal (channel : Channel ε γ) (g : γ) (f : Failure) : Prop :=
  ∃ before e fault, channel.Takes g before ∧
    (channel.accept e (channel.after g before)).1 = some fault ∧
    f = .ofRefusal before.length fault

/-- No channel takes part. -/
def Channel.Never (_ : γ) (_ : Failure) : Prop := False

theorem Channel.Refusal.status {channel : Channel ε γ} {g : γ} {f : Failure}
    (h : channel.Refusal g f) : f.status = .channelFault := by
  obtain ⟨before, e, fault, -, -, rfl⟩ := h
  rfl

/-- What can be collected goes into a channel, or the channel refuses some of it. -/
theorem deliver_cases {reader : Reader ε} {command : String} {tokens : List Reply} {es : List ε}
    (h : collect reader command tokens = .ok es) (channel : Channel ε γ) (g : γ) :
    deliver reader command channel tokens g = (.ok es.length, channel.after g es) ∨
      ∃ f g', deliver reader command channel tokens g = (.error f, g') ∧ channel.Refusal g f := by
  -- everything can be read, so nothing but the channel can stop the delivery
  by_cases htakes : channel.Takes g es
  · exact .inl (deliver_of_collect h htakes)
  · obtain ⟨before, e, rest, fault, rfl, hbefore, hrefused⟩ := Channel.exists_refused htakes
    exact .inr ⟨_, _, deliver_refused h hbefore hrefused, before, e, fault, hbefore, hrefused, rfl⟩

end Channels

/-! ### Replies that are read -/

namespace Prepared

variable {γ α β ε : Type} {c : Command} {reply : Reply} {refused : γ → Failure → Prop}

/-- The call makes a result of the reply, unless its channel refuses an element. -/
def Reads (p : Prepared γ α) (refused : γ → Failure → Prop) (reply : Reply) : Prop :=
  ∀ g, (∃ a g', p.decode reply g = (.ok a, g')) ∨
    ∃ f g', p.decode reply g = (.error f, g') ∧ refused g f

theorem reads_reading {read : Reply → Outcome α} {a : α} (h : read reply = .ok a) :
    (reading (γ := γ) c read).Reads refused reply := by
  intro g
  refine .inl ⟨a, g, ?_⟩
  show (read reply, g) = _
  rw [h]

theorem Reads.map {p : Prepared γ α} (h : p.Reads refused reply) (next : α → β) :
    (p.map next).Reads refused reply := by
  intro g
  rcases h g with ⟨a, g', hdecode⟩ | ⟨f, g', hdecode, hf⟩
  · refine .inl ⟨next a, g', ?_⟩
    simp only [Prepared.map, hdecode]
    rfl
  · refine .inr ⟨f, g', ?_, hf⟩
    simp only [Prepared.map, hdecode]
    rfl

variable {reader : Reader ε} {tokens : List Reply} {es : List ε}

theorem reads_collected (h : collect reader c.name tokens = .ok es) :
    (collected (γ := γ) reader c).Reads refused (.array tokens) :=
  reads_reading h

theorem reads_streamed (h : collect reader c.name tokens = .ok es) (channel : Channel ε γ) :
    (streamed reader channel c).Reads channel.Refusal (.array tokens) := by
  intro g
  rcases deliver_cases h channel g with hdeliver | ⟨f, g', hdeliver, hf⟩
  · exact .inl ⟨_, _, hdeliver⟩
  · exact .inr ⟨f, g', hdeliver, hf⟩

theorem reads_scanStream {kind : ScanKind ε} {page : ScanPage ε}
    (h : scanPage kind reply = .ok page) (channel : Channel ε γ) :
    (⟨c, scanStream kind channel⟩ : Prepared γ StreamedPage).Reads channel.Refusal reply := by
  intro g
  obtain ⟨tokens, hsplit, hcollect⟩ := scanPage_eq_ok_iff.1 h
  simp only [scanStream, hsplit]
  rcases deliver_cases hcollect channel g with hdeliver | ⟨f, g', hdeliver, hf⟩
  · exact .inl ⟨⟨page.cursor, page.elements.length⟩, _, by rw [hdeliver]⟩
  · exact .inr ⟨f, g', by rw [hdeliver], hf⟩

end Prepared

/-! ### The elements of replies -/

section Elements

variable {command : String}

theorem collect_values (l : List Bytes) :
    collect .bytes command (l.map .value) = .ok l := by
  refine collect_of_elements (Nat.mod_one _) ?_
  rw [Reader.bytes, Reader.elements, List.map_map]
  rfl

theorem collect_optional (l : List (Option Bytes)) :
    collect .optionalBytes command (l.map .bulk) = .ok l := by
  refine collect_of_elements (Nat.mod_one _) ?_
  rw [Reader.optionalBytes, Reader.elements, List.map_map]
  rfl

theorem collect_entries (l : List (Bytes × Bytes)) :
    collect .keyValue command (l.flatMap fun e => [.value e.1, .value e.2]) =
      .ok (l.map fun e => ⟨e.1, e.2⟩) :=
  collect_pairs fun _ _ => rfl

theorem RangeQuery.arity_of_expect {ε : Type} {q : RangeQuery} {reader : Reader ε}
    (h : q.expect reader = .ok ()) : reader.arity = if q.withScores then 2 else 1 := by
  rw [RangeQuery.expect] at h
  by_cases harity : reader.arity = if q.withScores then 2 else 1
  · exact harity
  · rw [if_neg harity] at h
    split at h <;> exact absurd h (by simp [RangeQuery.invalid, refuse, fail])

/-- Every reader of elements that there is. -/
inductive Reader.Provided : {ε : Type} → Reader ε → Prop
  | bytes : Provided .bytes
  | optionalBytes : Provided .optionalBytes
  | keyValue : Provided .keyValue
  | scoredValue : Provided .scoredValue

/-- Members, with their scores for a reader that takes pairs. -/
theorem Reader.Provided.collect_members {ε : Type} {reader : Reader ε} (h : reader.Provided)
    {withScores : Bool} (harity : reader.arity = if withScores then 2 else 1)
    {l : List (Bytes × Score)} (hnumeric : ∀ e ∈ l, e.2.isNaN = false) (command : String) :
    ∃ es, collect reader command (l.flatMap fun e =>
      if withScores then [.value e.1, .value (Score.token e.2)] else [.value e.1]) = .ok es := by
  -- a reader of one token does not go with scores, and a reader of two does not go without
  cases withScores with
  | false =>
    simp only [Bool.false_eq_true, if_false] at harity ⊢
    cases h with
    | bytes => exact ⟨_, Client.collect_members command l⟩
    | optionalBytes =>
      have hbulks : (l.flatMap fun e => [Reply.value e.1]) =
          (l.map fun e => some e.1).map .bulk := by
        rw [List.map_map, List.map_eq_flatMap]
        rfl
      exact ⟨_, hbulks ▸ collect_optional _⟩
    | keyValue | scoredValue => exact absurd harity (by decide)
  | true =>
    simp only [if_true] at harity ⊢
    cases h with
    | keyValue => exact ⟨_, collect_pairs fun _ _ => rfl⟩
    | scoredValue => exact ⟨_, Client.collect_scored command hnumeric⟩
    | bytes | optionalBytes => exact absurd harity (by decide)

end Elements

theorem Selection.mem_of_mem_pick {selection : Selection} {l : List (Bytes × Score)}
    {e : Bytes × Score} (h : e ∈ selection.pick l) : e ∈ l := by
  cases selection with
  | rank start stop =>
    rw [pick] at h
    split at h
    · exact absurd h List.not_mem_nil
    · exact List.mem_of_mem_drop (List.mem_of_mem_take h)
  | score range | lex range => exact (List.mem_filter.1 h).1

/-- What is selected is a member with its score. -/
theorem SortedSet.Indexed.score?_of_mem_pick {z : SortedSet} (h : z.Indexed) {reverse : Bool}
    {selection : Selection} {portion : Portion} {e : Bytes × Score}
    (he : e ∈ portion.of (selection.pick (z.ordered reverse))) : z.score? e.1 = some e.2 := by
  -- the ranking has the same scores as the member map, in whichever order it is read
  have hordered : e ∈ z.ordered reverse :=
    Selection.mem_of_mem_pick (Portion.mem_of_mem_of he)
  have hmem : e ∈ z.ascending := by
    rw [ordered] at hordered
    split at hordered
    · exact List.mem_reverse.1 hordered
    · exact hordered
  exact (h.mem_iff e.1 e.2).1 hmem

theorem SortedSet.isNaN_of_mem_pick {z : SortedSet} (hindexed : z.Indexed) (hnumeric : z.Numeric)
    {reverse : Bool} {selection : Selection} {portion : Portion} {e : Bytes × Score}
    (h : e ∈ portion.of (selection.pick (z.ordered reverse))) : e.2.isNaN = false :=
  hnumeric e.1 e.2 (hindexed.score?_of_mem_pick h)

/-! ### Calls that are understood -/

/-- Every answer to the request is a list of elements. -/
def Store.Lists {ε : Type} (s : Store) (request : Request) (reader : Reader ε) (command : String) :
    Prop :=
  ∀ reply, s.Answers request reply →
    ∃ tokens es, reply = .array tokens ∧ collect reader command tokens = .ok es

namespace Prepared

variable [GlobEngine] {γ α β ε : Type} {c : Command} {s : Store} {request : Request}
  {refused : γ → Failure → Prop}

/-- The store takes the command for the request; the call reads every answer to the request, and
hands every objection on. -/
structure Understood (p : Prepared γ α) (refused : γ → Failure → Prop) (s : Store)
    (request : Request) : Prop where
  asks : Request.ofCommand p.command = .ok request
  relays : ∀ fault : Fault, fault.OfData → p.Relays fault
  reads : ∀ reply, s.Answers request reply → p.Reads refused reply

theorem understood_reading {read : Reply → Outcome α} (asks : Request.ofCommand c = .ok request)
    (hchecked : Reply.Checked read)
    (hreads : ∀ reply, s.Answers request reply → ∃ a, read reply = .ok a) :
    (reading (γ := γ) c read).Understood refused s request where
  asks := asks
  relays := fun _ hfault => relays_reading hchecked hfault
  reads := fun reply h => by
    obtain ⟨a, ha⟩ := hreads reply h
    exact reads_reading ha

theorem Understood.map {p : Prepared γ α} (h : p.Understood refused s request) (next : α → β) :
    (p.map next).Understood refused s request :=
  ⟨h.asks, fun fault hfault => (h.relays fault hfault).map next,
    fun reply hreply => (h.reads reply hreply).map next⟩

variable {reader : Reader ε}

theorem understood_collected (asks : Request.ofCommand c = .ok request)
    (h : s.Lists request reader c.name) :
    (collected (γ := γ) reader c).Understood refused s request where
  asks := asks
  relays := fun _ hfault => relays_collected reader hfault
  reads := fun reply hreply => by
    obtain ⟨tokens, es, rfl, hcollect⟩ := h reply hreply
    exact reads_collected hcollect

theorem understood_streamed (asks : Request.ofCommand c = .ok request)
    (h : s.Lists request reader c.name) (channel : Channel ε γ) :
    (streamed reader channel c).Understood channel.Refusal s request where
  asks := asks
  relays := fun _ hfault => relays_streamed reader channel hfault
  reads := fun reply hreply => by
    obtain ⟨tokens, es, rfl, hcollect⟩ := h reply hreply
    exact reads_streamed hcollect channel

end Prepared

/-! ### Answers to the calls -/

namespace Call

open Prepared Request

variable {γ α ε : Type} {kind : CommandKind} {args : List Bytes} {key : Bytes} {s : Store}
  {request : Request} {refused : γ → Failure → Prop}

theorem understood_integer [GlobEngine] (asks : ofCommand ⟨kind, args⟩ = .ok request)
    (h : ∀ reply, s.Answers request reply → ∃ n, reply = .integer n) :
    (integer (γ := γ) kind args).Understood refused s request := by
  refine understood_reading asks (Reply.checked_readInteger kind.name) fun reply hreply => ?_
  obtain ⟨n, rfl⟩ := h reply hreply
  exact ⟨n, rfl⟩

theorem understood_flag [GlobEngine] (asks : ofCommand ⟨kind, args⟩ = .ok request)
    (h : ∀ reply, s.Answers request reply → ∃ b, reply = .flag b) :
    (flag (γ := γ) kind args).Understood refused s request := by
  refine understood_reading asks (Reply.checked_readBool kind.name) fun reply hreply => ?_
  obtain ⟨b, rfl⟩ := h reply hreply
  cases b <;> exact ⟨_, rfl⟩

/-- A new score is sent as text. -/
theorem understood_score [GlobEngine] {command absent : String}
    (asks : ofCommand ⟨kind, args⟩ = .ok request) (h : ∀ reply, s.Answers request reply →
      ∃ v : Score, v.isNaN = false ∧ reply = .value (Score.token v)) :
    (reading (γ := γ) ⟨kind, args⟩ (Reply.readRequiredScore command absent)).Understood refused s
      request := by
  refine understood_reading asks (Reply.checked_readRequiredScore command absent)
    fun reply hreply => ?_
  obtain ⟨v, hv, rfl⟩ := h reply hreply
  exact ⟨v, Reply.readRequiredScore_token hv command absent⟩

theorem understood_rank [GlobEngine] {reverse : Bool} {member : Bytes}
    (asks : ofCommand ⟨kind, [key, member]⟩ = .ok (.askSet key (.rank member reverse))) :
    (rank (γ := γ) kind key member).Understood refused s (.askSet key (.rank member reverse)) := by
  refine understood_reading asks (Reply.checked_readOptionalInteger kind.name) ?_
  rintro reply ⟨z, -, rfl⟩
  rw [SetQuery.answer]
  cases z.orderedRank? reverse member <;> exact ⟨_, rfl⟩

theorem lists_entries (command : String) :
    s.Lists (.askHash key .allEntries) .keyValue command := by
  rintro reply ⟨h, -, rfl⟩
  exact ⟨_, _, rfl, collect_entries h.entries⟩

theorem lists_fields (command : String) : s.Lists (.askHash key .allFields) .bytes command := by
  rintro reply ⟨h, -, rfl⟩
  exact ⟨_, _, rfl, collect_values h.keys⟩

theorem lists_values (command : String) : s.Lists (.askHash key .allValues) .bytes command := by
  rintro reply ⟨h, -, rfl⟩
  exact ⟨_, _, rfl, collect_values h.values⟩

theorem lists_getMany (fields : List Bytes) (command : String) :
    s.Lists (.askHash key (.getMany fields)) .optionalBytes command := by
  rintro reply ⟨h, -, rfl⟩
  refine ⟨_, fields.map h.get?, rfl, ?_⟩
  rw [← collect_optional, List.map_map]
  rfl

theorem lists_range (hs : s.WellFormed) {reader : Reader ε} (hreader : reader.Provided)
    {selection : Selection} {reverse withScores : Bool} {portion : Portion}
    (harity : reader.arity = if withScores then 2 else 1) (command : String) :
    s.Lists (.askSet key (.range selection reverse withScores portion)) reader command := by
  rintro reply ⟨z, hread, rfl⟩
  obtain ⟨hindexed, hnumeric⟩ := hs.read hread
  obtain ⟨es, hcollect⟩ := hreader.collect_members harity
    (fun e he => SortedSet.isNaN_of_mem_pick hindexed hnumeric he) command
  exact ⟨_, es, rfl, hcollect⟩

/-- A score is sent as text, or there is none. -/
theorem readScore_score {z : SortedSet} (hnumeric : z.Numeric) (member : Bytes) :
    ((SetQuery.score member).answer z).readScore "ZSCORE" = .ok (z.score? member) := by
  rw [SetQuery.answer]
  cases hscore : z.score? member with
  | none => rfl
  | some v =>
    have hv : v.isNaN = false := hnumeric member v hscore
    show some <$> Score.ofToken "ZSCORE" (Score.token v) = .ok (some v)
    rw [Score.ofToken_token hv]
    rfl

theorem understood_zscore [GlobEngine] (hs : s.WellFormed) (key member : Bytes) :
    (zscore (γ := γ) key member).Understood refused s (.askSet key (.score member)) := by
  refine understood_reading rfl (Reply.checked_readScore "ZSCORE") ?_
  rintro reply ⟨z, hread, rfl⟩
  exact ⟨z.score? member, readScore_score (hs.read hread).2 member⟩

end Call

end KeyWalk
