import KeyWalk.Glob
import KeyWalk.Proofs.CallReply
import KeyWalk.Proofs.CallRequest

/-!
What can come of a call.

`Call.Offered` lists the calls that a client has, with the arguments that they accept.  Every one of
them is understood on both sides.  The store reads its command completely, but for a cursor or a
pattern that is none, and refuses it only for what it holds (`Store.Refuses`); and the call reads
whatever reply it then gets (`Call.Offered.answered_or_refused`).  So:

* `Client.settles_of_offered`: a call over a store that can come about has a result, or the failure
  of a fault that the store was right to find, or that of an element that its channel refused.

In particular no call fails for the form of its command or of its reply.

Design notes.  `zadd` is `zaddMulti` with one entry, `zrange` and `zrangeWithScores` are `range`
with a reader, and the two store commands are `combine` with a mode.  Whole numbers of a call are
any of 64 bits, and score bounds are any but `nan`.  Patterns are compiled by any engine whose
complaints are about patterns; `Glob.ofPatterns_engine` is about the one here.
-/

namespace KeyWalk

/-! ### The surface -/

namespace Call

variable {γ : Type}

/-- A call on a hash, with the failures that its channel may bring about. -/
inductive OnHash : {α : Type} → (γ → Failure → Prop) → Prepared γ α → Prop
  | hdel {key fields p} (accepted : hdel key fields = .ok p) : OnHash Channel.Never p
  | hexists {key field} : OnHash Channel.Never (hexists key field)
  | hget {key field} : OnHash Channel.Never (hget key field)
  | hincrby {key field amount} (fits : Integral.fits amount = true) :
    OnHash Channel.Never (hincrby key field amount)
  | hincrbyfloat {key field amount p} (accepted : hincrbyfloat key field amount = .ok p) :
    OnHash Channel.Never p
  | hgetall {key} : OnHash Channel.Never (hgetall key)
  | hgetallStream {channel key} : OnHash channel.Refusal (hgetallStream channel key)
  | hkeys {key} : OnHash Channel.Never (hkeys key)
  | hkeysStream {channel key} : OnHash channel.Refusal (hkeysStream channel key)
  | hlen {key} : OnHash Channel.Never (hlen key)
  | hmget {key fields p} (accepted : hmget key fields = .ok p) : OnHash Channel.Never p
  | hmgetStream {channel key fields p} (accepted : hmgetStream channel key fields = .ok p) :
    OnHash channel.Refusal p
  | hmset {key entries p} (accepted : hmset key entries = .ok p) : OnHash Channel.Never p
  | hset {key field value} : OnHash Channel.Never (hset key field value)
  | hsetnx {key field value} : OnHash Channel.Never (hsetnx key field value)
  | hvals {key} : OnHash Channel.Never (hvals key)
  | hvalsStream {channel key} : OnHash channel.Refusal (hvalsStream channel key)

/-- A call on sorted sets, with the failures that its channel may bring about. -/
inductive OnSortedSet : {α : Type} → (γ → Failure → Prop) → Prepared γ α → Prop
  | zaddMulti {key entries p} (accepted : zaddMulti key entries = .ok p) :
    OnSortedSet Channel.Never p
  | zcard {key} : OnSortedSet Channel.Never (zcard key)
  | zcount {key range} (min : range.min.Numeric) (max : range.max.Numeric) :
    OnSortedSet Channel.Never (zcount key range)
  | zincrby {key amount member p} (accepted : zincrby key amount member = .ok p) :
    OnSortedSet Channel.Never p
  | combine {mode destination keys args p} (accepted : combine mode destination keys args = .ok p) :
    OnSortedSet Channel.Never p
  | zlexcount {key range} : OnSortedSet Channel.Never (zlexcount key range)
  | range {ε : Type} {reader : Reader ε} {key query p} (provided : reader.Provided)
    (sendable : query.Sendable) (accepted : range reader key query = .ok p) :
    OnSortedSet Channel.Never p
  | rangeStream {ε : Type} {reader : Reader ε} {channel key query p} (provided : reader.Provided)
    (sendable : query.Sendable) (accepted : rangeStream reader channel key query = .ok p) :
    OnSortedSet channel.Refusal p
  | zrank {key member} : OnSortedSet Channel.Never (zrank key member)
  | zrevrank {key member} : OnSortedSet Channel.Never (zrevrank key member)
  | zrem {key members p} (accepted : zrem key members = .ok p) : OnSortedSet Channel.Never p
  | zremrangebylex {key range} : OnSortedSet Channel.Never (zremrangebylex key range)
  | zremrangebyrank {key start stop} (start_fits : Integral.fits start = true)
    (stop_fits : Integral.fits stop = true) :
    OnSortedSet Channel.Never (zremrangebyrank key start stop)
  | zremrangebyscore {key range} (min : range.min.Numeric) (max : range.max.Numeric) :
    OnSortedSet Channel.Never (zremrangebyscore key range)
  | zscore {key member} : OnSortedSet Channel.Never (zscore key member)

/-- A scan step, with the failures that its channel may bring about. -/
inductive OnWalk : {α : Type} → (γ → Failure → Prop) → Prepared γ α → Prop
  | scan {t : CollectionType} {key cursor args p} (accepted : scan t.scan key cursor args = .ok p) :
    OnWalk Channel.Never p
  | scanStream {t : CollectionType} {channel key cursor args p}
    (accepted : scanStream t.scan channel key cursor args = .ok p) : OnWalk channel.Refusal p

/-- A call that a client offers, with arguments that it accepts. -/
inductive Offered {α : Type} (refused : γ → Failure → Prop) (p : Prepared γ α) : Prop
  | hash (h : OnHash refused p)
  | sortedSet (h : OnSortedSet refused p)
  | walk (h : OnWalk refused p)

variable {α : Type} {refused : γ → Failure → Prop} {p : Prepared γ α} {s : Store}

open Prepared

/-- Every call on a hash is understood. -/
theorem OnHash.understood [GlobEngine] (h : OnHash refused p) (s : Store) :
    ∃ request, p.Understood refused s request := by
  -- a call that may be refused names the request with what its acceptance says of the arguments;
  -- the shape of the answer does not depend on what is stored
  cases h with
  | hdel accepted =>
    obtain ⟨⟨⟩, hfields, hp⟩ := Except.bind_eq_ok_iff.1 accepted
    obtain rfl := Except.ok.inj hp
    exact ⟨_, understood_integer (Request.ofCommand_hdel (needsFields_eq_ok hfields)) fun _ => id⟩
  | hexists =>
    refine ⟨.askHash _ (.holds _), understood_flag rfl ?_⟩
    rintro reply ⟨h, -, rfl⟩
    exact ⟨_, rfl⟩
  | hget =>
    refine ⟨.askHash _ (.get _), understood_reading rfl (Reply.checked_readBulk _) ?_⟩
    rintro reply ⟨h, -, rfl⟩
    exact ⟨_, rfl⟩
  | hincrby fits => exact ⟨_, understood_integer (Request.ofCommand_hincrby fits) fun _ => id⟩
  | @hincrbyfloat key field amount p accepted =>
    rw [Call.hincrbyfloat] at accepted
    by_cases hfinite : amount.isFinite = true
    · rw [if_pos hfinite] at accepted
      obtain rfl := Except.ok.inj accepted
      exact ⟨_, understood_score
        (Request.ofCommand_hincrbyfloat (Binary64.isNaN_of_isFinite hfinite)) fun _ => id⟩
    · exact absurd accepted (by simp [hfinite, refuse, fail])
  | hgetall => exact ⟨_, (understood_collected rfl (lists_entries _)).map _⟩
  | hgetallStream => exact ⟨_, understood_streamed rfl (lists_entries _) _⟩
  | hkeys => exact ⟨_, understood_collected rfl (lists_fields _)⟩
  | hkeysStream => exact ⟨_, understood_streamed rfl (lists_fields _) _⟩
  | hlen =>
    refine ⟨.askHash _ .length, understood_integer rfl ?_⟩
    rintro reply ⟨h, -, rfl⟩
    exact ⟨_, rfl⟩
  | hmget accepted =>
    obtain ⟨⟨⟩, hfields, hp⟩ := Except.bind_eq_ok_iff.1 accepted
    obtain rfl := Except.ok.inj hp
    exact ⟨_, understood_collected (Request.ofCommand_hmget (needsFields_eq_ok hfields))
      (lists_getMany _ _)⟩
  | hmgetStream accepted =>
    obtain ⟨⟨⟩, hfields, hp⟩ := Except.bind_eq_ok_iff.1 accepted
    obtain rfl := Except.ok.inj hp
    exact ⟨_, understood_streamed (Request.ofCommand_hmget (needsFields_eq_ok hfields))
      (lists_getMany _ _) _⟩
  | hmset accepted =>
    obtain ⟨⟨⟩, hfields, hp⟩ := Except.bind_eq_ok_iff.1 accepted
    obtain rfl := Except.ok.inj hp
    refine ⟨_, understood_reading (Request.ofCommand_hmset (needsFields_eq_ok hfields))
      (Reply.checked_readStatus _) ?_⟩
    rintro reply ⟨text, rfl⟩
    exact ⟨text, rfl⟩
  | @hset key field value =>
    exact ⟨.changeHash key (.set field value), understood_flag rfl fun _ => id⟩
  | @hsetnx key field value =>
    exact ⟨.changeHash key (.setIfAbsent field value), understood_flag rfl fun _ => id⟩
  | hvals => exact ⟨_, understood_collected rfl (lists_values _)⟩
  | hvalsStream => exact ⟨_, understood_streamed rfl (lists_values _) _⟩

/-- Every call on sorted sets is understood. -/
theorem OnSortedSet.understood [GlobEngine] (h : OnSortedSet refused p) (hs : s.WellFormed) :
    ∃ request, p.Understood refused s request := by
  -- scores come back as text, so here it matters that none that is stored is `nan`
  cases h with
  | @zaddMulti key entries p accepted =>
    obtain ⟨hempty, hrest⟩ := Except.ite_error_eq_ok_iff.1 accepted
    obtain ⟨tokens, htokens, hp⟩ := Except.bind_eq_ok_iff.1 hrest
    obtain rfl := Except.ok.inj hp
    obtain ⟨rfl, hnumeric⟩ := scoredTokens_eq_ok htokens
    have hne : entries ≠ [] := fun hnil => hempty (List.isEmpty_iff.2 hnil)
    exact ⟨_, understood_integer (Request.ofCommand_zadd hne hnumeric) fun _ => id⟩
  | @zcard key =>
    refine ⟨.askSet key .cardinality, understood_integer rfl ?_⟩
    rintro reply ⟨z, -, rfl⟩
    exact ⟨_, rfl⟩
  | zcount min max =>
    refine ⟨_, understood_integer (Request.ofCommand_zcount min max) ?_⟩
    rintro reply ⟨z, -, rfl⟩
    exact ⟨_, rfl⟩
  | zincrby accepted =>
    obtain ⟨⟨⟩, hscore, hp⟩ := Except.bind_eq_ok_iff.1 accepted
    obtain rfl := Except.ok.inj hp
    exact ⟨_, understood_score (Request.ofCommand_zincrby (checkScore_eq_ok hscore)) fun _ => id⟩
  | combine accepted =>
    obtain ⟨c, hc, hp⟩ := Except.bind_eq_ok_iff.1 accepted
    obtain rfl := Except.ok.inj hp
    exact ⟨_, understood_integer (Request.ofCommand_storeCommand hc).2 fun _ => id⟩
  | zlexcount =>
    refine ⟨_, understood_integer (Request.ofCommand_zlexcount _) ?_⟩
    rintro reply ⟨z, -, rfl⟩
    exact ⟨_, rfl⟩
  | range provided sendable accepted =>
    obtain ⟨⟨⟩, hexpect, hrest⟩ := Except.bind_eq_ok_iff.1 accepted
    obtain ⟨c, hc, hp⟩ := Except.bind_eq_ok_iff.1 hrest
    obtain rfl := Except.ok.inj hp
    exact ⟨_, understood_collected (Request.ofCommand_range sendable hc)
      (lists_range hs provided (RangeQuery.arity_of_expect hexpect) _)⟩
  | rangeStream provided sendable accepted =>
    obtain ⟨⟨⟩, hexpect, hrest⟩ := Except.bind_eq_ok_iff.1 accepted
    obtain ⟨c, hc, hp⟩ := Except.bind_eq_ok_iff.1 hrest
    obtain rfl := Except.ok.inj hp
    exact ⟨_, understood_streamed (Request.ofCommand_range sendable hc)
      (lists_range hs provided (RangeQuery.arity_of_expect hexpect) _) _⟩
  | zrank => exact ⟨_, understood_rank rfl⟩
  | zrevrank => exact ⟨_, understood_rank rfl⟩
  | @zrem key members p accepted =>
    obtain ⟨hempty, hp⟩ := Except.ite_error_eq_ok_iff.1 accepted
    obtain rfl := Except.ok.inj hp
    have hne : members ≠ [] := fun hnil => hempty (List.isEmpty_iff.2 hnil)
    exact ⟨_, understood_integer (Request.ofCommand_zrem hne) fun _ => id⟩
  | zremrangebylex =>
    exact ⟨_, understood_integer (Request.ofCommand_zremrangebylex _) fun _ => id⟩
  | zremrangebyrank start_fits stop_fits =>
    exact ⟨_, understood_integer (Request.ofCommand_zremrangebyrank start_fits stop_fits)
      fun _ => id⟩
  | zremrangebyscore min max =>
    exact ⟨_, understood_integer (Request.ofCommand_zremrangebyscore min max) fun _ => id⟩
  | zscore => exact ⟨_, understood_zscore hs _ _⟩

end Call

/-! ### Refusals -/

namespace Store

variable {s : Store} {c : Command} {fault : Fault}

/-- The store is right to refuse the command for the fault: it objects to the request, or a scan
step has a cursor that spells no offset or a pattern that is none. -/
inductive Refuses [GlobEngine] (s : Store) (c : Command) : Fault → Prop
  | stored {request fault} (asks : Request.ofCommand c = .ok request)
    (objects : s.Objects request fault) : Refuses s c fault
  | cursor {t : CollectionType} {key token clauses}
    (step : c = ⟨t.scan.command, key :: token :: clauses⟩)
    (unreadable : ∀ o, ¬Cursor.Spells token o) : Refuses s c .invalidCursor
  | pattern {t : CollectionType} {key token pattern rest reason}
    (step : c = ⟨t.scan.command, key :: token :: Bytes.ofString "MATCH" :: pattern :: rest⟩)
    (bad : GlobEngine.compile (Utf8.lossy pattern) = .error reason) : Refuses s c (.pattern reason)

theorem Objects.fault_cases {request : Request} (h : s.Objects request fault) :
    fault = .wrongType ∨
      fault ∈ [Fault.hashNotInteger, .hashNotFloat, .overflow, .notFinite] := by
  cases h with
  | wrongType => exact .inl rfl
  | hashNotInteger | overflow | hashNotFloat | infinite | notANumber => exact .inr (by decide)

theorem Refuses.status_cases [GlobEngine] (h : s.Refuses c fault) :
    fault.status = .wrongType ∧ fault = .wrongType ∨
      fault.status = .invalidCursor ∧ fault = .invalidCursor ∨
      fault.status = .serverError ∧
        (fault ∈ [Fault.hashNotInteger, .hashNotFloat, .overflow, .notFinite] ∨
          ∃ reason, fault = .pattern reason) := by
  cases h with
  | stored asks objects =>
    rcases objects.fault_cases with rfl | hmem
    · exact .inl ⟨rfl, rfl⟩
    · refine .inr (.inr ⟨?_, .inl hmem⟩)
      simp only [List.mem_cons, List.not_mem_nil, or_false] at hmem
      rcases hmem with rfl | rfl | rfl | rfl <;> rfl
  | cursor => exact .inr (.inl ⟨rfl, rfl⟩)
  | pattern => exact .inr (.inr ⟨rfl, .inr ⟨_, rfl⟩⟩)

end Store

/-- The wording of a pattern error does not speak of a cursor. -/
theorem PatternError.isCursorRejection_message (e : PatternError) :
    isCursorRejection e.message = false := by
  rw [isCursorRejection, String.toList_ofList]
  delta message
  cases e with
  | unclosedClass | unopenedAlternates | unclosedAlternates | danglingEscape =>
    dsimp only
    rw [String.toList_ofList]
    decide
  | invalidRange first last =>
    -- two characters of the text are the caller's, which is not enough for a word
    simp only [String.toList_append, String.toList_singleton]
    rw [String.toList_ofList, String.toList_ofList, String.toList_ofList]
    simp [Text.lower, occursIn, List.isPrefixOf]

/-- The complaints of the engine for globs are about patterns. -/
theorem Glob.ofPatterns_engine : @GlobEngine.OfPatterns engine := by
  intro pattern reason h
  change compile pattern = .error reason at h
  rw [compile] at h
  split at h
  · exact Except.error.inj h ▸ PatternError.isCursorRejection_message _
  · cases h

/-! ### Scan steps -/

namespace Call

variable {γ : Type} {t : CollectionType} {key : Bytes} {cursor : Option Cursor}
  {args : Option ScanArgs} {c : Command} {s : Store} {reply : Reply} {w : ScanWindow}

/-- The store reads a step as a window, or is right not to. -/
theorem scan_cases [GlobEngine] (h : scanCommand t.scan key cursor args = .ok c) (s : Store) :
    (∃ w, Request.ofCommand c = .ok (.ofWindow key w t)) ∨
      ∃ fault, Request.ofCommand c = .error fault ∧ s.Refuses c fault ∧
        (GlobEngine.OfPatterns → fault.OfData ∨ fault = .invalidCursor) := by
  obtain ⟨token, clauses, rfl, hencodes⟩ := scanCommand_eq_ok h
  -- the cursor is read first, so a bad pattern behind a bad cursor goes unnoticed
  by_cases hspells : ∃ o, Cursor.Spells token o
  · obtain ⟨o, ho⟩ := hspells
    rcases ScanArgs.readOptions_of_encodes hencodes o with
      ⟨w, hread⟩ | ⟨pattern, rest, reason, rfl, hbad, hread⟩
    · exact .inl ⟨w, Request.ofCommand_scan t ho hread⟩
    · refine .inr ⟨.pattern reason, ?_, .pattern rfl hbad, fun hengine =>
        .inl (hengine _ _ hbad)⟩
      refine Request.ofCommand_scan_error t ?_
      rw [Request.scanWindow_token ho, hread]
      rfl
  · have hnone : (Utf8.decode? token >>= Integral.unsigned?) = none := by
      cases hoffset : Utf8.decode? token >>= Integral.unsigned? with
      | none => rfl
      | some o => exact absurd ⟨o, hoffset⟩ hspells
    refine .inr ⟨.invalidCursor, ?_, .cursor rfl fun o ho => hspells ⟨o, ho⟩, fun _ => .inr rfl⟩
    refine Request.ofCommand_scan_error t ?_
    rw [Arguments.scanWindow, Arguments.bind_of_ok (Arguments.next_cons _ _), hnone]
    rfl

/-- The answer to a window is a page. -/
theorem scanPage_of_answers (hs : s.WellFormed) (h : s.Answers (.ofWindow key w t) reply) :
    ∃ page, scanPage t.scan reply = .ok page := by
  cases t with
  | hash =>
    obtain ⟨h, -, rfl⟩ := h
    exact ⟨_, w.scanPage_entries h⟩
  | sortedSet =>
    obtain ⟨z, hread, rfl⟩ := h
    exact ⟨_, w.scanPage_members (hs.read hread).2⟩

end Call

/-! ### What can come of a call -/

namespace Call

variable {γ α : Type} {refused : γ → Failure → Prop} {p : Prepared γ α} {s : Store}

open Prepared

theorem OnWalk.understood_or_refused [GlobEngine] (h : OnWalk refused p) (hs : s.WellFormed) :
    (∃ request, p.Understood refused s request) ∨
      ∃ fault, Request.ofCommand p.command = .error fault ∧ s.Refuses p.command fault ∧
        (GlobEngine.OfPatterns → p.Relays fault) := by
  cases h with
  | scan accepted =>
    obtain ⟨c, hc, hp⟩ := Except.bind_eq_ok_iff.1 accepted
    obtain rfl := Except.ok.inj hp
    rcases scan_cases hc s with ⟨w, hrequest⟩ | ⟨fault, hrequest, hrefuses, hfault⟩
    · refine .inl ⟨_, hrequest, fun _ hdata => relays_scan (.inl hdata), fun reply hreply => ?_⟩
      obtain ⟨page, hpage⟩ := scanPage_of_answers hs hreply
      exact reads_reading hpage
    · exact .inr ⟨fault, hrequest, hrefuses, fun hengine => relays_scan (hfault hengine)⟩
  | scanStream accepted =>
    obtain ⟨c, hc, hp⟩ := Except.bind_eq_ok_iff.1 accepted
    obtain rfl := Except.ok.inj hp
    rcases scan_cases hc s with ⟨w, hrequest⟩ | ⟨fault, hrequest, hrefuses, hfault⟩
    · refine .inl ⟨_, hrequest, fun _ hdata => relays_scanStream _ (.inl hdata),
        fun reply hreply => ?_⟩
      obtain ⟨page, hpage⟩ := scanPage_of_answers hs hreply
      exact reads_scanStream hpage _
    · exact .inr ⟨fault, hrequest, hrefuses, fun hengine =>
        relays_scanStream _ (hfault hengine)⟩

/-- A call is understood, or its cursor or its pattern is not. -/
theorem Offered.understood_or_refused [GlobEngine] (h : Offered refused p) (hs : s.WellFormed) :
    (∃ request, p.Understood refused s request) ∨
      ∃ fault, Request.ofCommand p.command = .error fault ∧ s.Refuses p.command fault ∧
        (GlobEngine.OfPatterns → p.Relays fault) := by
  cases h with
  | hash h => exact .inl (h.understood s)
  | sortedSet h => exact .inl (h.understood hs)
  | walk h => exact h.understood_or_refused hs

/-- The store answers a call so that it can be read, or is right to refuse it. -/
theorem Offered.answered_or_refused [GlobEngine] (hengine : GlobEngine.OfPatterns)
    (h : Offered refused p) (hs : s.WellFormed) :
    (∃ reply s', s.apply p.command = (reply, s') ∧ ¬reply.IsError ∧ p.Reads refused reply) ∨
      ∃ fault, s.apply p.command = (.error (fault.message p.command.kind), s) ∧
        s.Refuses p.command fault ∧ p.Relays fault := by
  rcases h.understood_or_refused hs with
    ⟨request, hunderstood⟩ | ⟨fault, hrequest, hrefuses, hrelays⟩
  · -- the request is known, so an error is an objection to it and a reply is an answer to it
    have happly := Store.apply_of_ofCommand (s := s) hunderstood.asks
    rcases s.answer_cases request with ⟨fault, hanswer⟩ | ⟨reply, s', hanswer, hne, -⟩
    · have hobjects : s.Objects request fault := Store.objects_of_answer (by rw [hanswer])
      rw [hanswer] at happly
      exact .inr ⟨fault, happly, .stored hunderstood.asks hobjects,
        hunderstood.relays fault hobjects.ofData⟩
    · have hreads : p.Reads refused reply :=
        hunderstood.reads reply (Store.answers_of_answer (by rw [hanswer]))
      rw [hanswer] at happly
      exact .inl ⟨reply, s', happly, hne, hreads⟩
  · exact .inr ⟨fault, by simp only [Store.apply, hrequest], hrefuses, hrelays hengine⟩

theorem Offered.status_of_refused (h : Offered refused p) {g : γ} {f : Failure}
    (hf : refused g f) : f.status = .channelFault := by
  rcases h with h | h | h
  all_goals
    cases h <;> first | exact Channel.Refusal.status hf | exact hf.elim

end Call

namespace Client

variable {γ α : Type} {client : Client Store} {refused : γ → Failure → Prop} {p : Prepared γ α}
  {s : Store}

/-- **What can come of a call** over a store that can come about.  The store has an answer, which
the call reads, unless its channel refuses an element; or the store refuses the command for what it
holds, for a cursor or for a pattern.  The reasons for which patterns are refused do not speak of a
cursor. -/
theorem settles_of_offered [GlobEngine] (hengine : GlobEngine.OfPatterns)
    (hclient : client.OverStore) (hs : s.Reachable) (hp : Call.Offered refused p) (g : γ) :
    (∃ reply s', s.apply p.command = (reply, s') ∧ ¬reply.IsError ∧
      ((∃ a g', client.attempt (.ok p) s g = (.ok a, s', g')) ∨
        ∃ f g', client.attempt (.ok p) s g = (.error f, s', g') ∧
          refused g f ∧ f.status = .channelFault)) ∨
    ∃ fault f, s.Refuses p.command fault ∧
      s.apply p.command = (.error (fault.message p.command.kind), s) ∧
      client.attempt (.ok p) s g = (.error f, s, g) ∧
      (f.status = .wrongType ∧ fault = .wrongType ∨
        f.status = .invalidCursor ∧ fault = .invalidCursor ∨
        f.status = .serverError ∧
          (fault ∈ [Fault.hashNotInteger, .hashNotFloat, .overflow, .notFinite] ∨
            ∃ reason, fault = .pattern reason)) := by
  rcases hp.answered_or_refused hengine hs.wellFormed with
    ⟨reply, s', happly, hne, hreads⟩ | ⟨fault, happly, hrefuses, hrelays⟩
  · refine .inl ⟨reply, s', happly, hne, ?_⟩
    rw [hclient.attempt_ok, happly]
    rcases hreads g with ⟨a, g', hdecode⟩ | ⟨f, g', hdecode, hf⟩
    · exact .inl ⟨a, g', by rw [hdecode]⟩
    · exact .inr ⟨f, g', by rw [hdecode], hf, hp.status_of_refused hf⟩
  · obtain ⟨f, hattempt, hstatus⟩ := hclient.attempt_fault hrelays happly g
    exact .inr ⟨fault, f, hrefuses, happly, hattempt, hstatus ▸ hrefuses.status_cases⟩

attribute [local instance] Glob.engine

/-- One is added to a value that is no number. -/
theorem settles_hincrby_of_text :
    let s := Store.empty.run [.apply ⟨.hset, [[0x68], [0x66], [0x76]]⟩]
    let p : Prepared Unit Int := Call.hincrby [0x68] [0x66] 1
    ∃ fault f, s.Refuses p.command fault ∧
      (blocking Transport.store {}).attempt (.ok p) s () = (.error f, s, ()) ∧
      f.status = .serverError := by
  intro s p
  have hp : Call.Offered Channel.Never p := .hash (.hincrby (by decide))
  have hreply : s.apply p.command = (.error (Fault.hashNotInteger.message .hincrby), s) := rfl
  rcases settles_of_offered Glob.ofPatterns_engine (overStore_blocking {}) ⟨_, rfl⟩ hp () with
    ⟨reply, s', happly, hne, -⟩ | ⟨fault, f, hrefuses, happly, hattempt, hstatus⟩
  · rw [hreply] at happly
    exact absurd ⟨_, (Prod.mk.inj happly).1.symm⟩ hne
  · have hmessage : Fault.hashNotInteger.message .hincrby = fault.message .hincrby :=
      Reply.error.inj (Prod.mk.inj (hreply.symm.trans happly)).1
    rcases hstatus with ⟨-, rfl⟩ | ⟨-, rfl⟩ | ⟨hserver, -⟩
    · exact absurd hmessage (by decide)
    · exact absurd hmessage (by decide)
    · exact ⟨fault, f, hrefuses, hattempt, hserver⟩

/-- A channel refuses the one field of a hash, which is neither a result nor an objection of the
store. -/
theorem not_settles_without_refusal :
    ¬ ∀ {γ α : Type} {client : Client Store} {refused : γ → Failure → Prop} {p : Prepared γ α}
      {s : Store}, client.OverStore → s.Reachable → Call.Offered refused p → ∀ g : γ,
      (∃ a, (client.attempt (.ok p) s g).1 = .ok a) ∨
        ∃ f, (client.attempt (.ok p) s g).1 = .error f ∧
          f.status ∈ [StatusCode.wrongType, .invalidCursor, .serverError] := by
  intro h
  let s := Store.empty.run [.apply ⟨.hset, [[0x68], [0x66], [0x76]]⟩]
  let channel : Channel Bytes (List Bytes) := .refusingAfter 0 (.ofCause (.server "no"))
  have hp : Call.Offered channel.Refusal (Call.hkeysStream channel [0x68]) := .hash .hkeysStream
  have hresult : ((blocking Transport.store {}).attempt (.ok (Call.hkeysStream channel [0x68])) s
      []).1 = .error (.ofRefusal 0 (.ofCause (.server "no"))) := rfl
  rcases h (overStore_blocking {}) ⟨_, rfl⟩ hp [] with ⟨a, ha⟩ | ⟨f, hf, hstatus⟩
  · rw [hresult] at ha
    nomatch ha
  · rw [hresult] at hf
    obtain rfl := Except.error.inj hf
    exact absurd hstatus (by decide)

end Client

end KeyWalk
