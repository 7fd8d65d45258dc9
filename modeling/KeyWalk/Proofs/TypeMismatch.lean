import KeyWalk.Proofs.ChangeRequest
import KeyWalk.Proofs.ClientSurface
import KeyWalk.Proofs.Course

/-!
Commands on a key that holds a collection of the other type.

All commands but the combinations are about one key and take one type of collection there.  If the
key holds the other type, the command is refused, whatever it asks, and the refusal reaches the
caller as what it is, whichever way the reply would have been read:

* `CommandKind.takes?`, `Request.On`: the type that a command takes, and its requests,
* `Store.Mistypes`, `Store.apply_of_mistypes`: such commands, and the reply to them,
* `Client.attempt_of_mistypes`, `Client.halts_of_mistypes`: calls, and steps of walks,
* `Store.Replaces`, `Store.typeAt_step`, `Store.exists_retyping`: how a key can come to hold the
  other type, over one event and over a run of them,
* `Client.wrongType_of_reachable`: all of it together.

Design notes.  A walk meets the other type at its first step, or at any later one if the key was
given away between two steps; a walk is looked at wherever it stands.
-/

namespace KeyWalk

/-! ### The type that a command takes -/

/-- The type of collection that a command takes under its key, `none` for the combinations, which
replace whatever is there. -/
def CommandKind.takes? : CommandKind → Option CollectionType
  | hdel | hexists | hget | hincrby | hincrbyfloat | hgetall | hkeys | hlen | hmget | hmset | hset
  | hsetnx | hvals | hscan => some .hash
  | zadd | zcard | zcount | zincrby | zlexcount | zrange | zrangebylex | zrangebyscore | zrank
  | zrem | zremrangebylex | zremrangebyrank | zremrangebyscore | zrevrange | zrevrangebylex
  | zrevrangebyscore | zrevrank | zscore | zscan => some .sortedSet
  | zunionstore | zinterstore => none

/-- The request takes the type of collection under the key. -/
inductive Request.On (key : Bytes) : CollectionType → Request → Prop
  | askHash {query : HashQuery} : On key .hash (.askHash key query)
  | changeHash {update : HashUpdate} : On key .hash (.changeHash key update)
  | askSet {query : SetQuery} : On key .sortedSet (.askSet key query)
  | changeSet {update : SetUpdate} : On key .sortedSet (.changeSet key update)

/-- **A command that is understood takes the type of its kind** under its first argument. -/
theorem Request.on_of_ofCommand [GlobEngine] {c : Command} {request : Request} {t : CollectionType}
    (h : ofCommand c = .ok request) (ht : c.kind.takes? = some t) :
    ∃ key listed, c.args = key :: listed ∧ request.On key t := by
  obtain ⟨left, hr⟩ := reader_of_ofCommand h
  obtain ⟨kind, args⟩ := c
  cases kind with
  | hexists | hget | hgetall | hkeys | hlen | hmget | hvals | hscan =>
    obtain rfl := Option.some.inj ht
    obtain ⟨key, listed, query, hargs, -, rfl, -⟩ := (about_eq_ok_iff .askHash).1 hr
    exact ⟨key, listed, hargs, .askHash⟩
  | hdel | hincrby | hincrbyfloat | hmset | hset | hsetnx =>
    obtain rfl := Option.some.inj ht
    obtain ⟨key, listed, update, hargs, -, rfl, -⟩ := (about_eq_ok_iff .changeHash).1 hr
    exact ⟨key, listed, hargs, .changeHash⟩
  | zcard | zcount | zlexcount | zrange | zrangebylex | zrangebyscore | zrank | zrevrange
  | zrevrangebylex | zrevrangebyscore | zrevrank | zscore | zscan =>
    obtain rfl := Option.some.inj ht
    obtain ⟨key, listed, query, hargs, -, rfl, -⟩ := (about_eq_ok_iff .askSet).1 hr
    exact ⟨key, listed, hargs, .askSet⟩
  | zadd | zincrby | zrem | zremrangebylex | zremrangebyrank | zremrangebyscore =>
    obtain rfl := Option.some.inj ht
    obtain ⟨key, listed, update, hargs, -, rfl, -⟩ := (about_eq_ok_iff .changeSet).1 hr
    exact ⟨key, listed, hargs, .changeSet⟩
  | zunionstore | zinterstore => cases ht

/-- Only the combinations replace what is under their key. -/
theorem Request.kind_of_combine [GlobEngine] {c : Command} {mode : StoreMode} {destination : Bytes}
    {sources : List (Score × Bytes)} {op : Aggregate}
    (h : ofCommand c = .ok (.combine mode destination sources op)) : c.kind.takes? = none := by
  cases ht : c.kind.takes? with
  | none => rfl
  | some t =>
    obtain ⟨key, -, -, hon⟩ := on_of_ofCommand h ht
    cases hon

/-! ### Refusals -/

namespace Store

variable {α : Type} {s s' : Store} {key : Bytes} {t t' : CollectionType} {c : Command}

/-- The type of the collection under a key, `none` if there is none. -/
def typeAt (s : Store) (key : Bytes) : Option CollectionType := (s.get? key).map Collection.type

theorem typeAt_congr (h : s'.get? key = s.get? key) : s'.typeAt key = s.typeAt key :=
  congrArg (Option.map Collection.type) h

/-- The command is well-formed, but its key holds a collection of the type that it does not take. -/
structure Mistypes [GlobEngine] (s : Store) (c : Command) : Prop where
  understood : ∃ request, Request.ofCommand c = .ok request
  mistyped : ∃ key listed t held, c.args = key :: listed ∧ c.kind.takes? = some t ∧
    s.typeAt key = some held ∧ held ≠ t

/-- What was read from a key that holds something has the type of that. -/
theorem type_of_read {shape : Shape α} {a : α} (hread : s.read shape key = .ok a)
    (ht : s.typeAt key = some t) : (shape.pack a).type = t := by
  rcases read_eq_ok_iff.1 hread with ⟨hnone, -⟩ | hget
  · rw [typeAt, hnone] at ht
    cases ht
  · rw [typeAt, hget] at ht
    exact Option.some.inj ht

/-- What is not of the type is not read. -/
theorem read_of_typeAt {shape : Shape α} (ht : s.typeAt key = some t)
    (hne : ∀ a, (shape.pack a).type ≠ t) : s.read shape key = .error .wrongType := by
  cases hread : s.read shape key with
  | ok a => exact absurd (type_of_read hread ht) (hne a)
  | error fault => rw [(read_eq_error hread).1]

/-- No request is answered where the key holds the other type. -/
theorem answer_of_typeAt {request : Request} (hon : request.On key t)
    (hheld : s.typeAt key = some t') (hne : t' ≠ t) :
    s.answer request = (.error .wrongType, s) := by
  -- whatever is asked, the collection has to be read first
  have hhash : t = .hash → s.read .hash key = .error .wrongType :=
    fun ht => read_of_typeAt hheld fun _ => (ht ▸ hne).symm
  have hset : t = .sortedSet → s.read .sortedSet key = .error .wrongType :=
    fun ht => read_of_typeAt hheld fun _ => (ht ▸ hne).symm
  cases hon with
  | askHash =>
    rw [answer, hhash rfl]
    rfl
  | askSet =>
    rw [answer, hset rfl]
    rfl
  | @changeHash update => rw [answer, write_eq _ _ _ update.run_clean, hhash rfl]
  | @changeSet update => rw [answer, write_eq _ _ _ update.run_clean, hset rfl]

/-- **The store refuses a command on the other type**, whatever it asks, and stays as it is. -/
theorem apply_of_mistypes [GlobEngine] (h : s.Mistypes c) :
    s.apply c = (.error (Fault.wrongType.message c.kind), s) := by
  obtain ⟨request, hrequest⟩ := h.understood
  obtain ⟨key, listed, t, held, hargs, htakes, hheld, hne⟩ := h.mistyped
  obtain ⟨key', listed', hargs', hon⟩ := Request.on_of_ofCommand hrequest htakes
  obtain rfl : key' = key := (List.cons.inj (hargs'.symm.trans hargs)).1
  rw [apply_of_ofCommand hrequest, answer_of_typeAt hon hheld hne]
  rfl

end Store

/-! ### Through a client -/

namespace Client

variable {client : Client Store} {s : Store} {γ α ε : Type}

/-- **A call hands the refusal on**, and its channel gets nothing. -/
theorem attempt_of_mistypes [GlobEngine] (hclient : client.OverStore) (hs : s.WellFormed)
    {refused : γ → Failure → Prop} {p : Prepared γ α} (hp : Call.Offered refused p)
    (h : s.Mistypes p.command) (g : γ) :
    ∃ f, client.attempt (.ok p) s g = (.error f, s, g) ∧ f.status = .wrongType := by
  obtain ⟨request, hrequest⟩ := h.understood
  rcases hp.understood_or_refused hs with ⟨_, hunderstood⟩ | ⟨fault, hfault, -⟩
  · exact hclient.attempt_fault (hunderstood.relays .wrongType trivial)
      (Store.apply_of_mistypes h) g
  · cases hrequest.symm.trans hfault

/-- A step reads the refusal, as a page or into a channel. -/
theorem scan_of_wrongType (kind : ScanKind ε) (command : CommandKind) :
    ∃ f : Failure, f.status = .wrongType ∧
      scanPage kind (.error (Fault.wrongType.message command)) = .error f ∧
      ∀ {γ : Type} (channel : Channel ε γ) (g : γ),
        KeyWalk.scanStream kind channel (.error (Fault.wrongType.message command)) g =
          (.error f, g) := by
  have hfault : Fault.wrongType.OfData ∨ Fault.wrongType = .invalidCursor := .inl trivial
  obtain ⟨f, hsplit, hstatus⟩ :=
    Prepared.splitScanReply_message hfault command kind.command.name
  refine ⟨f, hstatus, ?_, fun channel g => ?_⟩
  · rw [scanPage, hsplit]
    rfl
  · simp only [KeyWalk.scanStream, hsplit]

/-- **A walk ends with the refusal of its next step**, wherever it stands. -/
theorem halts_of_mistypes [GlobEngine] (hclient : client.OverStore) {w : Walk ε} {c : Command}
    (hcommand : w.nextCommand? = .ok (some c)) (h : s.Mistypes c) (n : Nat) :
    ∃ f, f.status = .wrongType ∧ client.Halts (n + 1) w s (.failed f) s ∧
      ∀ {γ : Type} (channel : Channel ε γ) (total : Nat) (g : γ),
        client.pour channel (n + 1) w total s g = (some (.error f), s, g) := by
  obtain ⟨f, hstatus, hpage, hstream⟩ := scan_of_wrongType w.kind c.kind
  have hsend : client.sendStep c s = (.ok (.error (Fault.wrongType.message c.kind)), s) := by
    rw [sendStep, hclient]
    show (withContext _ (Except.ok (s.apply c).1), (s.apply c).2) = _
    rw [Store.apply_of_mistypes h]
    rfl
  refine ⟨f, hstatus, .unread hcommand hsend hpage, fun channel total g => ?_⟩
  rw [pour]
  simp only [hcommand, hsend, Walk.advanceStreaming, hstream]

end Client

/-! ### Runs -/

namespace Store

variable {α : Type} {s s' : Store} {key : Bytes} {t t' : CollectionType} {e : Event}
  {events : List Event}

/-- The event is a combination that is stored under the key. -/
def Replaces [GlobEngine] (s : Store) (key : Bytes) (e : Event) : Prop :=
  ∃ c, e = .apply c ∧ c.kind ∈ [CommandKind.zunionstore, .zinterstore] ∧
    c.args.head? = some key ∧ ¬(s.apply c).1.IsError

theorem mem_of_takes_eq_none {kind : CommandKind} (h : kind.takes? = none) :
    kind ∈ [CommandKind.zunionstore, .zinterstore] := by
  cases kind with
  | zunionstore | zinterstore => decide
  | _ => cases h

/-- What is put back has the type of its shape, if it is not empty. -/
theorem typeAt_putBack (s : Store) (shape : Shape α) (key : Bytes) (a : α) :
    (s.putBack shape key a).typeAt key = none ∨
      (s.putBack shape key a).typeAt key = some (shape.pack a).type := by
  rw [typeAt, get?_putBack_self]
  by_cases hempty : shape.isEmpty a = true
  · rw [if_pos hempty]
    exact .inl rfl
  · rw [if_neg hempty]
    exact .inr rfl

/-- A request keeps the type under a key, or leaves nothing there, unless it is a combination. -/
theorem Effect.typeAt {request : Request} (he : s.Effect request s')
    (ht : s.typeAt key = some t) :
    s'.typeAt key = none ∨ s'.typeAt key = some t ∨
      s'.typeAt key = some .sortedSet ∧
        ∃ mode sources op, request = .combine mode key sources op := by
  cases he with
  | askHash => exact .inr (.inl ht)
  | askSet => exact .inr (.inl ht)
  | @changeHash key' update m reply m' hread hrun =>
    by_cases hkey : key' = key
    · -- the hash was read under this key, so there was one, and a hash is put back
      subst hkey
      obtain rfl : CollectionType.hash = t := type_of_read hread ht
      exact (s.typeAt_putBack .hash key' m').imp_right .inl
    · exact .inr (.inl ((typeAt_congr (get?_putBack_of_ne s _ _ hkey)).trans ht))
  | @changeSet key' update z reply z' hread hrun =>
    by_cases hkey : key' = key
    · subst hkey
      obtain rfl : CollectionType.sortedSet = t := type_of_read hread ht
      exact (s.typeAt_putBack .sortedSet key' z').imp_right .inl
    · exact .inr (.inl ((typeAt_congr (get?_putBack_of_ne s _ _ hkey)).trans ht))
  | @combine mode destination sources op weighted hread =>
    by_cases hkey : destination = key
    · subst hkey
      exact (s.typeAt_putBack .sortedSet destination _).imp_right fun hset =>
        .inr ⟨hset, mode, sources, op, rfl⟩
    · exact .inr (.inl ((typeAt_congr (get?_putBack_of_ne s .sortedSet _ hkey)).trans ht))

/-- **One event**: the key keeps its type, or there is nothing left under it, or a combination was
stored there. -/
theorem typeAt_step [GlobEngine] (ht : s.typeAt key = some t) (e : Event) :
    (s.step e).typeAt key = none ∨ (s.step e).typeAt key = some t ∨
      (s.step e).typeAt key = some .sortedSet ∧ s.Replaces key e := by
  cases e with
  | flush => exact .inl rfl
  | delete key' =>
    by_cases hkey : key' = key
    · exact .inl (by rw [step, typeAt, get?_delete, if_pos hkey]; rfl)
    · have hkept : (s.delete key').get? key = s.get? key := by rw [get?_delete, if_neg hkey]
      exact .inr (.inl ((typeAt_congr hkept).trans ht))
  | apply c =>
    rw [step]
    rcases s.apply_cases c with ⟨text, hrefused⟩ | ⟨request, reply, s', hq, happly, hne, heffect⟩
    · rw [hrefused]
      exact .inr (.inl ht)
    · have hdone : ¬(s.apply c).1.IsError := by rwa [happly]
      rw [happly]
      refine (heffect.typeAt ht).imp_right (.imp_right ?_)
      rintro ⟨hset, mode, sources, op, rfl⟩
      exact ⟨hset, c, rfl, mem_of_takes_eq_none (Request.kind_of_combine hq),
        (Request.keys_of_ofCommand hq).1, hdone⟩

/-- **A run that ends with the other type** has an event that takes the key away from the type that
it has had so far: nothing is left under the key, or a combination was stored there. -/
theorem exists_retyping [GlobEngine] (ht : s.typeAt key = some t)
    (ht' : (s.run events).typeAt key = some t') (hne : t' ≠ t) :
    ∃ before e after, events = before ++ e :: after ∧ (s.run before).typeAt key = some t ∧
      ((s.run (before ++ [e])).get? key = none ∨
        (s.run (before ++ [e])).typeAt key = some .sortedSet ∧ (s.run before).Replaces key e) := by
  induction events generalizing s with
  | nil =>
    rw [run_nil, ht] at ht'
    exact absurd (Option.some.inj ht').symm hne
  | cons e events ih =>
    rcases typeAt_step ht e with hnone | hsame | hreplaced
    · exact ⟨[], e, events, rfl, ht, .inl (Option.map_eq_none_iff.1 hnone)⟩
    · -- the event kept the type, so the one that is looked for is further back
      obtain ⟨before, e', after, rfl, hbefore, hevent⟩ := ih hsame ht'
      exact ⟨e :: before, e', after, rfl, hbefore, hevent⟩
    · exact ⟨[], e, events, rfl, ht, .inr hreplaced⟩

end Store

/-! ### All of it -/

namespace Client

variable {client : Client Store} {s : Store}

/-- **Commands on the other type**, over every store that can come about.  A command about one key
that is well-formed is refused with one and the same text if the key holds the type that the command
does not take, and the store stays as it is.  The call fails as such, whatever it would have read,
and so does the step of a walk that sends the command, be the pages gathered, poured into a channel
or taken one by one; a channel gets nothing.  And a key changes its type only through an event that
leaves nothing under it, or that stores a combination there. -/
theorem wrongType_of_reachable [GlobEngine] (hclient : client.OverStore) (hs : s.Reachable) :
    (∀ c, s.Mistypes c → s.apply c =
      (.error "WRONGTYPE Operation against a key holding the wrong kind of value", s)) ∧
    (∀ {γ α : Type} {refused : γ → Failure → Prop} {p : Prepared γ α}, Call.Offered refused p →
      s.Mistypes p.command → ∀ g, ∃ f, client.attempt (.ok p) s g = (.error f, s, g) ∧
        f.status = .wrongType) ∧
    (∀ {ε : Type} {w : Walk ε} {c : Command}, w.nextCommand? = .ok (some c) → s.Mistypes c →
      ∀ n, ∃ f, f.status = .wrongType ∧
        (∀ taken, client.gather (n + 1) w taken s = (some (.error f), s)) ∧
        (∀ {γ : Type} (channel : Channel ε γ) (total : Nat) (g : γ),
          client.pour channel (n + 1) w total s g = (some (.error f), s, g)) ∧
        (⟨w, false⟩ : Pages ε).next client s = (some (.error f), ⟨w, true⟩, s)) ∧
    ∀ key t t' events, s.typeAt key = some t → (s.run events).typeAt key = some t' → t' ≠ t →
      ∃ before e after, events = before ++ e :: after ∧ (s.run before).typeAt key = some t ∧
        ((s.run (before ++ [e])).get? key = none ∨
          (s.run (before ++ [e])).typeAt key = some .sortedSet ∧
            (s.run before).Replaces key e) := by
  refine ⟨fun c h => Store.apply_of_mistypes h, fun hp h g =>
    attempt_of_mistypes hclient hs.wellFormed hp h g, fun hcommand h n => ?_,
    fun key t t' events ht ht' hne => Store.exists_retyping ht ht' hne⟩
  obtain ⟨f, hstatus, hhalts, hpour⟩ := halts_of_mistypes hclient hcommand h n
  exact ⟨f, hstatus, gather_halts hhalts, hpour, next_of_halts hhalts⟩

attribute [local instance] Glob.engine

/-- A member is added to a hash, a sorted set is listed and walked as a hash, and a union gives the
hash away. -/
theorem wrongType_of_reachable_both :
    let s := Store.empty.run [.apply ⟨.hset, ["h", "f", "v"].map Bytes.ofString⟩,
      .apply ⟨.zadd, ["z", "1", "m"].map Bytes.ofString⟩]
    let client := blocking Transport.store {}
    let w : Walk KeyValue := .start hashScan (Bytes.ofString "z") none
    let listing : Prepared (List KeyValue) Nat :=
      Call.hgetallStream .collector (Bytes.ofString "z")
    let union : Store.Event := .apply ⟨.zunionstore, ["h", "1", "z"].map Bytes.ofString⟩
    s.apply ⟨.zadd, ["h", "1", "m"].map Bytes.ofString⟩ =
        (.error "WRONGTYPE Operation against a key holding the wrong kind of value", s) ∧
      (∃ f, client.attempt (.ok listing) s [] = (.error f, s, []) ∧ f.status = .wrongType) ∧
      (∃ f, f.status = .wrongType ∧
        client.pour .collector 1 w 0 s [] = (some (.error f), s, ([] : List KeyValue))) ∧
      ∃ before e after, [union] = before ++ e :: after ∧
        ((s.run (before ++ [e])).get? (Bytes.ofString "h") = none ∨
          (s.run before).Replaces (Bytes.ofString "h") e) := by
  intro s client w listing union
  obtain ⟨happly, hcall, hwalk, hrun⟩ := wrongType_of_reachable (overStore_blocking {}) ⟨_, rfl⟩
  have hadd : s.Mistypes ⟨.zadd, ["h", "1", "m"].map Bytes.ofString⟩ :=
    ⟨⟨_, rfl⟩, _, _, .sortedSet, .hash, rfl, rfl, rfl, by simp⟩
  have hlist : s.Mistypes listing.command :=
    ⟨⟨_, rfl⟩, _, _, .hash, .sortedSet, rfl, rfl, rfl, by simp⟩
  have hstep : s.Mistypes ⟨.hscan, [Bytes.ofString "z", Cursor.startToken]⟩ :=
    ⟨⟨_, rfl⟩, _, _, .hash, .sortedSet, rfl, rfl, rfl, by simp⟩
  obtain ⟨f, hstatus, -, hpour, -⟩ := hwalk (w := w) rfl hstep 0
  obtain ⟨before, e, after, hevents, -, hevent⟩ :=
    hrun (Bytes.ofString "h") .hash .sortedSet [union] rfl rfl (by simp)
  exact ⟨happly _ hadd, hcall (.hash .hgetallStream) hlist [], ⟨f, hstatus, hpour _ 0 []⟩,
    before, e, after, hevents, hevent.imp_right And.right⟩

end Client

end KeyWalk
