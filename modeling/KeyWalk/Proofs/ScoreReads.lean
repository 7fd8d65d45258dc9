import KeyWalk.Proofs.CallReply
import KeyWalk.Proofs.FullWalk
import KeyWalk.Proofs.KeptScore

/-!
All reads tell the score that was written.

A score goes out as text and comes back as text, past the two indexes of the set and over three ways
to read it.  `Client.Tells options s key z` says that all reads of a key, as a list or into a
channel, tell of one and the same set `z`.

* `Channel.fed`: elements into any channel, until it refuses one,
* `Client.pour_of_gather`: a walk into a channel beside the walk that gathers its pages,
* `Client.tells`: every read of a key tells of the set under it,
* `Client.tells_of_zadd`: so a score that was added is told until something writes it.

Design notes.  Scores are compared by their values in the ranking and for equality in `Score`, where
the two zeros are different.  So all that is said of a score here is said bit for bit.
-/

namespace KeyWalk

variable {σ ε γ : Type}

/-! ### Elements into a channel -/

/-- The elements go into the channel one after the other, until it refuses one. -/
def Channel.fed (channel : Channel ε γ) (g : γ) (es : List ε) : Outcome Nat × γ :=
  feed channel 0 (es.map .ok) g

theorem deliver_eq_fed {reader : Reader ε} {command : String} {tokens : List Reply} {es : List ε}
    (h : collect reader command tokens = .ok es) (channel : Channel ε γ) (g : γ) :
    deliver reader command channel tokens g = channel.fed g es := by
  rw [deliver_eq_feed, collect_eq_ok_iff.1 h, Channel.fed]

theorem scanStream_eq_fed {kind : ScanKind ε} {reply : Reply} {page : ScanPage ε}
    (h : scanPage kind reply = .ok page) (channel : Channel ε γ) (g : γ) :
    scanStream kind channel reply g =
      ((channel.fed g page.elements).1.map fun n => ⟨page.cursor, n⟩,
        (channel.fed g page.elements).2) := by
  obtain ⟨tokens, hsplit, hcollect⟩ := scanPage_eq_ok_iff.1 h
  simp only [scanStream, hsplit, deliver_eq_fed hcollect]
  rcases channel.fed g page.elements with ⟨f | n, g'⟩ <;> rfl

namespace Client

variable {c : Client σ} {channel : Channel ε γ}

/-- Where the pages of a walk can be gathered, their elements go into the channel until it refuses
one, which is then the failure of the walk into it. -/
theorem pour_of_gather {limit : Nat} {w : Walk ε} {s s' : σ} {es : List ε}
    (h : c.gather limit w [] s = (some (.ok es), s')) (channel : Channel ε γ) (g : γ) :
    ∃ r s₁, c.pour channel limit w 0 s g = (some r, s₁, (channel.fed g es).2) ∧
      (∀ n, (channel.fed g es).1 = .ok n → r = .ok n ∧ s₁ = s') ∧
      ∀ f, (channel.fed g es).1 = .error f → ∃ f', r = .error f' ∧ f'.status = .channelFault := by
  obtain ⟨legs, n, w', s₁, rfl, rfl, htravels, hhalts, hstate⟩ :=
    exists_course_of_gather (congrArg (·.1) h)
  rw [h] at hstate
  -- the legs are the same ones, up to the element that the channel refuses
  by_cases htakes : channel.Takes g (Leg.elements legs)
  · have hfed : channel.fed g (Leg.elements legs) =
        (.ok (Leg.elements legs).length, channel.after g (Leg.elements legs)) :=
      feed_takes_all htakes
    refine ⟨.ok (Leg.elements legs).length, s₁, ?_, ?_, ?_⟩
    · cases hhalts with
      | finished hover =>
        rw [pour_travels htravels htakes, pour, hfed, Nat.zero_add]
        simp only [hover]
    · intro n hn
      rw [hfed] at hn
      exact ⟨hn, hstate.symm⟩
    · intro f hf
      rw [hfed] at hf
      cases hf
  · obtain ⟨before, e, rest, fault, helements, hbefore, hrefused⟩ := Channel.exists_refused htakes
    have hfed : channel.fed g (Leg.elements legs) = (.error (.ofRefusal before.length fault),
        (channel.accept e (channel.after g before)).2) := by
      rw [Channel.fed, helements, List.map_append, List.map_cons, feed_refused hbefore hrefused]
    obtain ⟨-, -, -, a, -, -, s₂, -, -, -, -, hpour⟩ :=
      pour_refused htravels helements hbefore hrefused n 0
    refine ⟨.error (.ofRefusal a.length fault), s₂, ?_, ?_, ?_⟩
    · rw [hpour, hfed]
    · intro n hn
      rw [hfed] at hn
      cases hn
    · intro f hf
      exact ⟨_, rfl, rfl⟩

end Client

/-! ### Range reads -/

/-- An entry as the client reports it. -/
def ScoredValue.ofEntry (e : Bytes × Score) : ScoredValue := ⟨e.2, e.1⟩

namespace RangeQuery

variable {q : RangeQuery} {key : Bytes} {c : Command} {z : SortedSet}

/-- Whatever is found is an entry of the set. -/
theorem mem_members_of_mem_found (h : z.Indexed) {e : Bytes × Score} (he : e ∈ q.found z) :
    e ∈ z.members := ByteMap.get?_eq_some_iff.1 (h.score?_of_mem_pick he)

/-- A query that may ask for scores need not. -/
theorem exists_command_plain (h : command { q with withScores := true } key = .ok c) :
    ∃ c', command { q with withScores := false } key = .ok c' := by
  obtain ⟨bounds, hbounds, -⟩ := command_eq_ok_iff.1 h
  have hsame : RangeQuery.bounds { q with withScores := false } = .ok bounds := by
    rw [← hbounds]
    obtain ⟨selection, reverse, limit, withScores⟩ := q
    cases selection with
    | rank start stop => rfl
    | score range => rfl
    | lex range => exact absurd (bounds_of_lex rfl hbounds).1 (by simp)
  exact ⟨_, command_eq_ok_iff.2 ⟨bounds, hsame, rfl⟩⟩

end RangeQuery

namespace Client

variable {s : Store} {key : Bytes} {z : SortedSet} {options : ClientOptions}

/-! ### What the reads tell -/

/-- **Every read of the key tells of the set**: a member has the score that it has in the set, and
what a range or a walk reports are entries of the set, as a list or into any channel. -/
structure Tells [GlobEngine] (options : ClientOptions) (s : Store) (key : Bytes) (z : SortedSet) :
    Prop where
  zscore : ∀ {γ : Type} (m : Bytes) (g : γ),
    (blocking Transport.store options).run (Call.zscore key m) s g = (.ok (z.score? m), s, g)
  /-- A range with scores reports the members that the same range without scores reports. -/
  range : ∀ {γ : Type} {q : RangeQuery} {c : Command} (channel : Channel ScoredValue γ) (g : γ),
    q.Sendable → RangeQuery.command { q with withScores := true } key = .ok c →
    ∃ found : List (Bytes × Score), (∀ e ∈ found, e ∈ z.members) ∧
      (q.WellFormed → found = q.select z) ∧
      (blocking Transport.store options).attempt (Call.zrangeWithScores key q) s g =
        (.ok (found.map .ofEntry), s, g) ∧
      (blocking Transport.store options).attempt
          (Call.zrange key { q with withScores := false }) s g = (.ok (found.map (·.1)), s, g) ∧
      (blocking Transport.store options).attempt
          (Call.rangeStream .scoredValue channel key { q with withScores := true }) s g =
        ((channel.fed g (found.map .ofEntry)).1, s, (channel.fed g (found.map .ofEntry)).2)
  /-- One page of a walk, from the start or from any offset. -/
  page : ∀ {γ : Type} {cursor : Option Cursor} {o count : Nat} {glob : Option Matcher}
    {args : Option ScanArgs} (channel : Channel ScoredValue γ) (g : γ),
    (cursor = none ∧ o = 0 ∨ ∃ token, cursor = some ⟨token, false⟩ ∧ Cursor.Spells token o) →
    ScanArgs.Accepted (options.scanArgs args) count glob →
    ∃ page : ScanPage ScoredValue,
      page.elements = ((⟨o, count, glob⟩ : ScanWindow).page z.members).map .ofEntry ∧
      (blocking Transport.store options).scan sortedSetScan key cursor args s g =
        (.ok page, s, g) ∧
      (blocking Transport.store options).scanStream sortedSetScan channel key cursor args s g =
        ((channel.fed g page.elements).1.map fun n => ⟨page.cursor, n⟩, s,
          (channel.fed g page.elements).2)
  /-- A whole walk.  One into a channel ends where the channel refuses an element. -/
  walk : ∀ {γ : Type} {count : Nat} {glob : Option Matcher} {args : Option ScanArgs} {limit : Nat}
    (channel : Channel ScoredValue γ) (g : γ) (log : List Command),
    z.members.length < Integral.unsignedBound →
    ScanArgs.Accepted (options.scanArgs args) count glob →
    stepsFor z.members.length count ≤ limit →
    ∃ (es : List ScoredValue) (sent : List Command) (r : Outcome Nat) (s₁ : Store × List Command),
      es = (ScanWindow.admitted glob z.members).map .ofEntry ∧
      (blocking Transport.store.recording options).scanAll limit sortedSetScan key args (s, log) =
        (some (.ok es), s, log ++ sent) ∧
      (blocking Transport.store.recording options).scanAllStream limit sortedSetScan channel key
          args (s, log) g = (some r, s₁, (channel.fed g es).2) ∧
      (∀ n, (channel.fed g es).1 = .ok n → r = .ok n) ∧
      ∀ f, (channel.fed g es).1 = .error f → ∃ f', r = .error f' ∧ f'.status = .channelFault

theorem run_zscore [GlobEngine] {γ : Type} (hs : s.WellFormed) (hz : s.read .sortedSet key = .ok z)
    (m : Bytes) (g : γ) :
    (blocking Transport.store options).run (Call.zscore key m) s g = (.ok (z.score? m), s, g) := by
  have happly : s.apply ⟨.zscore, [key, m]⟩ = ((SetQuery.score m).answer z, s) :=
    Store.apply_askSet rfl hz
  exact ((overStore_blocking options).attempt_reading happly _ g).trans
    (congrArg (·, s, g) (Call.readScore_score (hs.read hz).2 m))

section Ranges

variable {γ ε : Type} {q : RangeQuery} {c : Command} {reader : Reader ε} {es : List ε}

/-- A range read into a channel, where its elements can be read. -/
theorem attempt_rangeStream_of_collect [GlobEngine] (hz : s.read .sortedSet key = .ok z)
    (hq : q.Sendable) (hc : q.command key = .ok c) (hexpect : q.expect reader = .ok ())
    (hcollect : collect reader c.name ((q.found z).flatMap fun e =>
      if q.withScores then [.value e.1, .value (Score.token e.2)] else [.value e.1]) = .ok es)
    (channel : Channel ε γ) (g : γ) :
    (blocking Transport.store options).attempt (Call.rangeStream reader channel key q) s g =
      ((channel.fed g es).1, s, (channel.fed g es).2) := by
  have hcall : Call.rangeStream reader channel key q = .ok (.streamed reader channel c) := by
    rw [Call.rangeStream, hexpect, hc]
    rfl
  have hfed : deliver reader c.name channel ((q.found z).flatMap fun e =>
      if q.withScores then [.value e.1, .value (Score.token e.2)] else [.value e.1]) g =
      channel.fed g es := deliver_eq_fed hcollect channel g
  rw [hcall, (overStore_blocking options).attempt_ok, Prepared.streamed,
    Store.apply_range hz hq hc]
  exact congrArg (fun r : Outcome Nat × γ => (r.1, s, r.2)) hfed

end Ranges

section Walks

variable {cursor : Option Cursor} {args : Option ScanArgs} {o count : Nat} {glob : Option Matcher}

/-- The entries of a listing are those of the set. -/
theorem listing_of_read (hz : s.read .sortedSet key = .ok z) :
    s.listing key .sortedSet = .ok (z.members.map fun e => (e.1, .ofEntry e)) :=
  Store.listing_sortedSet_eq_ok_iff.2 ⟨z, hz, rfl⟩

/-- A page that starts a walk or goes on at an offset: the window there. -/
theorem exists_scanPage [GlobEngine] (hs : s.WellFormed) (hz : s.read .sortedSet key = .ok z)
    (hcursor : cursor = none ∧ o = 0 ∨
      ∃ token, cursor = some ⟨token, false⟩ ∧ Cursor.Spells token o)
    (hargs : ScanArgs.Accepted args count glob) :
    ∃ (c : Command) (reply : Reply) (page : ScanPage ScoredValue),
      scanCommand sortedSetScan key cursor args = .ok c ∧ s.apply c = (reply, s) ∧
        scanPage sortedSetScan reply = .ok page ∧
        page.elements = ((⟨o, count, glob⟩ : ScanWindow).page z.members).map .ofEntry := by
  obtain ⟨clauses, hencodes, hread⟩ := hargs.encodes
  -- a walk starts with the token of offset zero
  obtain ⟨token, hspells, htoken⟩ : ∃ token, Cursor.Spells token o ∧
      (cursor = none ∧ token = Cursor.startToken ∨ cursor = some ⟨token, false⟩) := by
    rcases hcursor with ⟨rfl, rfl⟩ | ⟨token, rfl, hspells⟩
    · exact ⟨Cursor.startToken, Cursor.spells_token (o := 0) (by decide), .inl ⟨rfl, rfl⟩⟩
    · exact ⟨token, hspells, .inr rfl⟩
  obtain ⟨hstore, hpage⟩ := Store.apply_scan hs (listing_of_read hz) hspells (hread o)
  refine ⟨_, _, _, scanCommand_of_encodes hencodes htoken, Prod.ext rfl hstore, hpage, ?_⟩
  rw [ScanWindow.page_map, List.map_map]
  rfl

theorem admitted_listing :
    (ScanWindow.admitted glob (z.members.map fun e => (e.1, ScoredValue.ofEntry e))).map (·.2) =
      (ScanWindow.admitted glob z.members).map .ofEntry := by
  rw [ScanWindow.admitted, List.filter_map, List.map_map]
  rfl

end Walks

/-- **Every read of a key tells of the set under it.** -/
theorem tells [GlobEngine] (options : ClientOptions) (hs : s.WellFormed)
    (hz : s.read .sortedSet key = .ok z) : Tells options s key z where
  zscore := run_zscore hs hz
  range := by
    intro γ q c channel g hq hc
    obtain ⟨hindexed, hnumeric⟩ := hs.read hz
    have hfound : ∀ e ∈ q.found z, e ∈ z.members := fun e he =>
      RangeQuery.mem_members_of_mem_found hindexed he
    have hscores : ∀ e ∈ q.found z, e.2.isNaN = false := fun e he =>
      SortedSet.isNaN_of_mem_pick hindexed hnumeric he
    obtain ⟨c', hc'⟩ := RangeQuery.exists_command_plain hc
    have hplain : RangeQuery.Sendable { q with withScores := false } :=
      ⟨hq.rank, hq.score, hq.limit⟩
    refine ⟨q.found z, hfound, fun hwf => ?_, ?_, ?_, ?_⟩
    · have hselect : RangeQuery.found { q with withScores := true } z =
          RangeQuery.select { q with withScores := true } z :=
        hindexed.found_eq_select hwf.scored hc
      exact hselect
    · exact (attempt_range_found hz hq.scored hc rfl g).trans
        (congrArg (·, s, g) (collect_scored _ hscores))
    · exact (attempt_range_found hz hplain hc' rfl g).trans
        (congrArg (·, s, g) (collect_members _ _))
    · exact attempt_rangeStream_of_collect hz hq.scored hc rfl (collect_scored _ hscores) channel g
  page := by
    intro γ cursor o count glob args channel g hcursor hargs
    obtain ⟨c, reply, page, hc, happly, hpage, helements⟩ := exists_scanPage hs hz hcursor hargs
    replace hc : scanCommand sortedSetScan key cursor
      ((blocking Transport.store options).options.scanArgs args) = .ok c := hc
    refine ⟨page, helements, ?_, ?_⟩
    · rw [scan, Call.scan, hc]
      exact ((overStore_blocking options).attempt_reading happly _ g).trans
        (congrArg (·, s, g) hpage)
    · rw [scanStream, Call.scanStream, hc]
      refine ((overStore_blocking options).attempt_ok _ s g).trans ?_
      rw [happly]
      exact congrArg (fun r : Outcome StreamedPage × γ => (r.1, s, r.2))
        (scanStream_eq_fed hpage channel g)
  walk := by
    intro γ count glob args limit channel g log hsize hargs hlimit
    have hlength : (z.members.map fun e => (e.1, ScoredValue.ofEntry e)).length =
        z.members.length := List.length_map _
    obtain ⟨sent, -, hgather⟩ := gather_standsAt hs (listing_of_read hz) (hlength ▸ hsize)
      (Walk.standsAt_start sortedSetScan key (options.scanArgs args)) hargs (by decide)
      (hlength ▸ hlimit) [] log
    rw [List.nil_append, List.drop_zero, admitted_listing] at hgather
    obtain ⟨r, s₁, hpour, hok, herror⟩ := pour_of_gather hgather channel g
    exact ⟨_, sent, r, s₁, rfl, hgather, hpour, fun n hn => (hok n hn).1, herror⟩

/-! ### The score that was written -/

/-- What is held is told: of the entries, exactly one is that of the member. -/
theorem exists_tells_of_hasScore [GlobEngine] (options : ClientOptions) (hs : s.WellFormed)
    {m : Bytes} {v : Score} (h : s.HasScore key m v) :
    ∃ z, Tells options s key z ∧ z.score? m = some v ∧ (m, v) ∈ z.members ∧
      ∀ e ∈ z.members, e.1 = m → e.2 = v := by
  obtain ⟨z, hget, hscore⟩ := h
  refine ⟨z, tells options hs (Store.read_eq_ok_iff.2 (.inr hget)), hscore,
    ByteMap.get?_eq_some_iff.1 hscore, ?_⟩
  rintro e he rfl
  have hentry : z.score? e.1 = some e.2 := ByteMap.get?_eq_some_iff.2 he
  exact Option.some.inj (hentry.symm.trans hscore)

/-- **A score that was added is the score that is told**, bit for bit, by every read and until
something writes the member or its key: whatever the member had before, an equal score or the other
zero included. -/
theorem tells_of_zadd [GlobEngine] (options : ClientOptions) (hs : s.Reachable)
    (hz : s.read .sortedSet key = .ok z) {v : Score} (hv : v.isNaN = false) (m : Bytes) :
    ∃ n s₁, (∀ {γ : Type} (g : γ),
        (blocking Transport.store options).attempt (Call.zadd key v m) s g = (.ok n, s₁, g)) ∧
      ∀ events, Store.Spares key m s₁ events →
        ∃ z₁, Tells options (s₁.run events) key z₁ ∧ z₁.score? m = some v ∧
          (m, v) ∈ z₁.members ∧ ∀ e ∈ z₁.members, e.1 = m → e.2 = v := by
  obtain ⟨hscore, n, hadded⟩ := attempt_zadd options hz hv m
  -- the score is held from here on, and the store stays in order
  refine ⟨n, _, hadded, fun events hspares => ?_⟩
  exact exists_tells_of_hasScore options ((hs.wellFormed.apply _).run events)
    (hscore.run hspares)

attribute [local instance] Glob.engine

/-- The other zero over a zero, and then another member. -/
theorem tells_of_zadd_other_zero :
    let s := Store.empty.run [.apply ⟨.zadd, ["z", "0", "a"].map Bytes.ofString⟩]
    let other : Store.Event := .apply ⟨.zadd, ["z", "inf", "b"].map Bytes.ofString⟩
    ∃ n s₁, (blocking Transport.store {}).attempt
        (Call.zadd (Bytes.ofString "z") (.zero true) (Bytes.ofString "a")) s () = (.ok n, s₁, ()) ∧
      (blocking Transport.store {}).run (Call.zscore (Bytes.ofString "z") (Bytes.ofString "a"))
          (s₁.run [other]) () =
        (.ok (some (.zero true)), s₁.run [other], ()) := by
  intro s other
  obtain ⟨z, hz⟩ : ∃ z, s.read .sortedSet (Bytes.ofString "z") = .ok z := ⟨_, rfl⟩
  obtain ⟨n, s₁, hadded, htold⟩ :=
    tells_of_zadd {} ⟨_, rfl⟩ hz (v := .zero true) rfl (Bytes.ofString "a")
  have hother : Request.ofCommand ⟨.zadd, ["z", "inf", "b"].map Bytes.ofString⟩ =
      .ok (.changeSet (Bytes.ofString "z") (.add [(.inf false, Bytes.ofString "b")])) := rfl
  have hname : Bytes.ofString "a" ∉ [Bytes.ofString "b"] := by decide
  have hspares : Store.Spares (Bytes.ofString "z") (Bytes.ofString "a") s₁ [other] :=
    ⟨Store.not_writes_of_changeSet hother fun _ => hname, trivial⟩
  obtain ⟨z₁, htells, hscore, -⟩ := htold [other] hspares
  exact ⟨n, s₁, hadded (), hscore ▸ htells.zscore (Bytes.ofString "a") ()⟩

end Client

end KeyWalk
