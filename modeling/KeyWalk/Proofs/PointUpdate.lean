import KeyWalk.Proofs.LastChange
import KeyWalk.Proofs.Ranks
import KeyWalk.Proofs.Removal

/-!
Commands that change single entries.

Such a command names fields or members, any of them as often as it likes.  What it does is a list of
changes, which follows from its arguments and, if it replies with a new value, from the reply.  The
rest of the collection is as before:

* `Updates changes found left`: the named entries are as their last changes say, and the others are
  the same ones in the same order,
* `FieldChanges`, `MemberChanges`: the changes of each command on a hash and on a sorted set,
* `Store.updates_of_reachable`: every such command that succeeds, in every store that can come
  about, as all reads of the key show it before and after.

Design notes.  A member whose score changes leaves its place in the ranking, so what is kept of the
order is told of the others.  There the ranking is determined by what is in it.
-/

namespace KeyWalk

/-! ### Changes of entries -/

section Updates

variable {β : Type} {changes : List (Bytes × Option β)} {found left : List (Bytes × β)}

/-- The entries that no change is about. -/
def untouched (changes : List (Bytes × Option β)) (entries : List (Bytes × β)) :
    List (Bytes × β) :=
  entries.filter fun e => e.1 ∉ changes.map (·.1)

/-- **The entries after the changes.**  What is named ends as its last change says, everything else
is kept, and what is kept is in the same order. -/
structure Updates (changes : List (Bytes × Option β)) (found left : List (Bytes × β)) : Prop where
  named : ∀ name ∈ changes.map (·.1), left.lookup name = lastChange changes none name
  unnamed : ∀ name, name ∉ changes.map (·.1) → left.lookup name = found.lookup name
  order : untouched changes left = untouched changes found

/-- Look-ups tell of changes, if lists that have the same entries are one list. -/
theorem Updates.of_lookup (hfound : (found.map (·.1)).Nodup) (hleft : (left.map (·.1)).Nodup)
    (hlookup : ∀ name, left.lookup name = lastChange changes (found.lookup name) name)
    (hunique : (∀ e, e ∈ untouched changes left ↔ e ∈ untouched changes found) →
      untouched changes left = untouched changes found) : Updates changes found left := by
  have hunnamed : ∀ name, name ∉ changes.map (·.1) → left.lookup name = found.lookup name := by
    intro name hname
    rw [hlookup, lastChange_of_not_mem hname]
  refine ⟨fun name hname => (hlookup name).trans (lastChange_of_mem hname), hunnamed,
    hunique fun e => ?_⟩
  -- no name is listed twice, so an entry that is not named is told by its look-up
  rw [untouched, untouched, List.mem_filter, List.mem_filter, decide_eq_true_iff]
  refine and_congr_left fun he => ?_
  have hlook := hunnamed e.1 he
  rw [← lookup_eq_some_iff_of_nodup hfound, ← lookup_eq_some_iff_of_nodup hleft, hlook]

theorem ByteMap.updates_of_get? {m m' : ByteMap β}
    (h : ∀ name, m'.get? name = lastChange changes (m.get? name) name) :
    Updates changes m.entries m'.entries := by
  refine .of_lookup m.nodup_names m'.nodup_names (fun name => ?_) fun hmem =>
    entries_eq_of_mem_iff (m'.ascending.filter _) (m.ascending.filter _) hmem
  rw [m.lookup_entries, m'.lookup_entries, h]

theorem SortedSet.Indexed.updates_of_score? {z z' : SortedSet}
    {changes : List (Bytes × Option Score)} (hz : z.Indexed) (hz' : z'.Indexed)
    (h : ∀ name, z'.score? name = lastChange changes (z.score? name) name) :
    Updates changes z.ranking z'.ranking := by
  refine .of_lookup hz.nodup_names hz'.nodup_names (fun name => ?_) fun hmem =>
    Ascending.eq_of_mem_iff (hz'.ascending.filter _) (hz.ascending.filter _) hmem
  rw [hz.lookup_ranking, hz'.lookup_ranking, h]

end Updates

/-! ### The changes of each command -/

/-- The commands that change fields of a hash. -/
def CommandKind.onFields : List CommandKind :=
  [.hset, .hsetnx, .hmset, .hdel, .hincrby, .hincrbyfloat]

/-- The commands that change members of a sorted set. -/
def CommandKind.onMembers : List CommandKind := [.zadd, .zincrby, .zrem]

/-- What a command on a hash does, by what is listed behind the key.  An increment replies with the
new value; `HSETNX` keeps what it finds. -/
inductive FieldChanges (found : List (Bytes × Bytes)) (reply : Reply) :
    CommandKind → List Bytes → List (Bytes × Option Bytes) → Prop
  | hset {field value : Bytes} :
      FieldChanges found reply .hset [field, value] [(field, some value)]
  | hsetnx {field value : Bytes} :
      FieldChanges found reply .hsetnx [field, value]
        [(field, some ((found.lookup field).getD value))]
  | hmset {listed : List Bytes} {pairs : List (Bytes × Bytes)} (h : pairs? listed = some pairs) :
      FieldChanges found reply .hmset listed (pairs.map fun p => (p.1, some p.2))
  | hdel {fields : List Bytes} :
      FieldChanges found reply .hdel fields (fields.map fun field => (field, none))
  | hincrby {field amount : Bytes} {n : Int} (h : reply = .integer n) :
      FieldChanges found reply .hincrby [field, amount] [(field, some (Integral.token n))]
  | hincrbyfloat {field amount value : Bytes} (h : reply = .value value) :
      FieldChanges found reply .hincrbyfloat [field, amount] [(field, some value)]

/-- What a command on a sorted set does, by what is listed behind the key. -/
inductive MemberChanges (reply : Reply) :
    CommandKind → List Bytes → List (Bytes × Option Score) → Prop
  | zadd {listed : List Bytes} {pairs : List (Bytes × Bytes)} {entries : List (Score × Bytes)}
      (h : pairs? listed = some pairs)
      (hscores : pairs.mapM (fun p => (Score.ofToken? p.1).map fun s => (s, p.2)) = some entries) :
      MemberChanges reply .zadd listed (entries.map fun e => (e.2, some e.1))
  | zincrby {amount member : Bytes} {s : Score} (h : reply = .value (Score.token s)) :
      MemberChanges reply .zincrby [amount, member] [(member, some s)]
  | zrem {members : List Bytes} :
      MemberChanges reply .zrem members (members.map fun m => (m, none))

theorem Hash.get?_setIfAbsent (h : Hash) (field value name : Bytes) :
    (if h.contains field then h else h.insert field value).get? name =
      if field = name then some ((h.get? field).getD value) else h.get? name := by
  rw [ByteMap.contains]
  cases hget : h.get? field with
  | none => exact ByteMap.get?_insert h field name value
  | some old =>
    by_cases hname : field = name
    · rw [if_pos hname, ← hname]
      exact hget
    · rw [if_neg hname]
      rfl

/-- A change of a hash that succeeds does what the command asks. -/
theorem HashUpdate.exists_changes {key : Bytes} {listed : List Bytes} {kind : CommandKind}
    {update : HashUpdate} {h h' : Hash} {reply : Reply} (hkind : kind ∈ CommandKind.onFields)
    (hasked : Request.AskedBy key listed kind (.changeHash key update))
    (hr : update.run h = (.ok reply, h')) :
    ∃ changes, FieldChanges h.entries reply kind listed changes ∧
      ∀ name, h'.get? name = lastChange changes (h.get? name) name := by
  obtain ⟨hreply, hleft⟩ := Prod.mk.inj hr
  cases kind with
  | hset =>
    obtain ⟨field, value, rfl, hupdate⟩ := hasked
    cases hupdate
    refine ⟨_, .hset, fun name => ?_⟩
    rw [← hleft, lastChange_singleton]
    exact ByteMap.get?_insert h field name value
  | hsetnx =>
    obtain ⟨field, value, rfl, hupdate⟩ := hasked
    cases hupdate
    refine ⟨_, .hsetnx, fun name => ?_⟩
    rw [← hleft, lastChange_singleton, h.lookup_entries]
    exact h.get?_setIfAbsent field value name
  | hmset =>
    obtain ⟨pairs, hpairs, hupdate⟩ := hasked
    cases hupdate
    refine ⟨_, .hmset hpairs, fun name => ?_⟩
    rw [← hleft]
    exact h.get?_setMany pairs name
  | hdel =>
    cases hasked
    refine ⟨_, .hdel, fun name => ?_⟩
    rw [← hleft]
    exact h.get?_deleteAll listed name
  | hincrby =>
    obtain ⟨field, amount, by_, rfl, -, hupdate⟩ := hasked
    cases hupdate
    change (h.increment field by_).1.map .integer = .ok reply at hreply
    obtain ⟨n, hn⟩ := Except.exists_of_map_eq_ok hreply
    rw [hn] at hreply
    refine ⟨_, .hincrby (Except.ok.inj hreply).symm, fun name => ?_⟩
    rw [Hash.increment_eq_ok (Prod.ext hn hleft), ByteMap.get?_insert, lastChange_singleton]
  | hincrbyfloat =>
    obtain ⟨field, amount, by_, rfl, -, hupdate⟩ := hasked
    cases hupdate
    change (h.incrementFloat field by_).1.map .value = .ok reply at hreply
    obtain ⟨value, hvalue⟩ := Except.exists_of_map_eq_ok hreply
    rw [hvalue] at hreply
    refine ⟨_, .hincrbyfloat (Except.ok.inj hreply).symm, fun name => ?_⟩
    rw [Hash.incrementFloat_eq_ok (Prod.ext hvalue hleft), ByteMap.get?_insert,
      lastChange_singleton]
  | _ => exact absurd hkind (by decide)

/-- A change of a sorted set that succeeds does what the command asks. -/
theorem SetUpdate.exists_changes {key : Bytes} {listed : List Bytes} {kind : CommandKind}
    {update : SetUpdate} {z z' : SortedSet} {reply : Reply} (hkind : kind ∈ CommandKind.onMembers)
    (hasked : Request.AskedBy key listed kind (.changeSet key update))
    (hr : update.run z = (.ok reply, z')) :
    ∃ changes, MemberChanges reply kind listed changes ∧
      ∀ name, z'.score? name = lastChange changes (z.score? name) name := by
  obtain ⟨hreply, hleft⟩ := Prod.mk.inj hr
  cases kind with
  | zadd =>
    obtain ⟨pairs, entries, hpairs, hentries, hupdate⟩ := hasked
    cases hupdate
    refine ⟨_, .zadd hpairs hentries, fun name => ?_⟩
    rw [← hleft]
    exact z.score?_insertAll entries name
  | zincrby =>
    obtain ⟨amount, by_, member, rfl, -, hupdate⟩ := hasked
    cases hupdate
    change (z.increment by_ member).1.map (fun s => .value (Score.token s)) = .ok reply at hreply
    obtain ⟨s, hs⟩ := Except.exists_of_map_eq_ok hreply
    rw [hs] at hreply
    refine ⟨_, .zincrby (Except.ok.inj hreply).symm, fun name => ?_⟩
    rw [SortedSet.increment_eq_ok (Prod.ext hs hleft), SortedSet.score?_insert,
      lastChange_singleton]
  | zrem =>
    cases hasked
    refine ⟨_, .zrem, fun name => ?_⟩
    rw [← hleft]
    exact z.score?_removeAll listed name
  | _ => exact absurd hkind (by decide)

/-! ### In a store -/

theorem Request.exists_changeHash {key : Bytes} {listed : List Bytes} {kind : CommandKind}
    {request : Request} (hkind : kind ∈ CommandKind.onFields)
    (hasked : request.AskedBy key listed kind) : ∃ update, request = .changeHash key update := by
  cases kind with
  | hset | hsetnx =>
    obtain ⟨field, value, -, rfl⟩ := hasked
    exact ⟨_, rfl⟩
  | hmset =>
    obtain ⟨pairs, -, rfl⟩ := hasked
    exact ⟨_, rfl⟩
  | hdel => exact ⟨_, hasked⟩
  | hincrby | hincrbyfloat =>
    obtain ⟨field, amount, by_, -, -, rfl⟩ := hasked
    exact ⟨_, rfl⟩
  | _ => exact absurd hkind (by decide)

theorem Request.exists_changeSet {key : Bytes} {listed : List Bytes} {kind : CommandKind}
    {request : Request} (hkind : kind ∈ CommandKind.onMembers)
    (hasked : request.AskedBy key listed kind) : ∃ update, request = .changeSet key update := by
  cases kind with
  | zadd =>
    obtain ⟨pairs, entries, -, -, rfl⟩ := hasked
    exact ⟨_, rfl⟩
  | zincrby =>
    obtain ⟨amount, by_, member, -, -, rfl⟩ := hasked
    exact ⟨_, rfl⟩
  | zrem => exact ⟨_, hasked⟩
  | _ => exact absurd hkind (by decide)

namespace Store

section Engine

variable [GlobEngine] {s : Store} {key : Bytes} {c : Command}

/-- A reply that is no error is the answer to the request. -/
theorem answer_eq_ok {request : Request} (hq : Request.ofCommand c = .ok request)
    (hreply : ¬(s.apply c).1.IsError) : s.answer request = (.ok (s.apply c).1, (s.apply c).2) := by
  rw [apply_of_ofCommand hq] at hreply ⊢
  cases hanswer : s.answer request with
  | mk answer left =>
    rw [hanswer] at hreply
    cases answer with
    | error f => exact absurd ⟨_, rfl⟩ hreply
    | ok reply => rfl

theorem reachable_apply (hs : s.Reachable) (c : Command) : (s.apply c).2.Reachable :=
  reachable_run hs [.apply c]

/-- What the key shows before and after a change of its hash. -/
theorem exists_change_hash (hs : s.Reachable) {update : HashUpdate}
    (hq : Request.ofCommand c = .ok (.changeHash key update)) (hreply : ¬(s.apply c).1.IsError) :
    ∃ h h', update.run h = (.ok (s.apply c).1, h') ∧ s.ShowsHash key h.entries ∧
      (s.apply c).2.ShowsHash key h'.entries := by
  have hanswer := answer_eq_ok hq hreply
  obtain ⟨h, h', hread, hrun, hleft⟩ := write_eq_ok update.run_clean (congrArg Prod.fst hanswer)
  refine ⟨h, h', hrun, showsHash_of_read hs hread, ?_⟩
  have hput : (s.apply c).2 = s.putBack .hash key h' := (congrArg Prod.snd hanswer).symm.trans hleft
  exact showsHash_of_read (reachable_apply hs c) (hput ▸ s.read_putBack_hash key h')

/-- All reads of a key show a sorted set, and its members are listed in the order of the entries. -/
structure ShowsRanking (s : Store) (key : Bytes) (entries : List (Bytes × Score)) : Prop where
  shown : s.ShowsSet key entries
  listed : s.apply ⟨.zrange, key :: ["0", "-1"].map Bytes.ofString⟩ =
    (.array (entries.map fun e => .value e.1), s)

theorem showsRanking_of_read (hs : s.Reachable) {z : SortedSet}
    (hread : s.read .sortedSet key = .ok z) : s.ShowsRanking key z.ranking where
  shown := showsSet_of_read hs hread
  listed := (ranks_of_read (hs.wellFormed.read hread).1 hread).zrange_all

/-- What the key shows before and after a change of its sorted set. -/
theorem exists_change_set (hs : s.Reachable) {update : SetUpdate}
    (hq : Request.ofCommand c = .ok (.changeSet key update)) (hreply : ¬(s.apply c).1.IsError) :
    ∃ z z', update.run z = (.ok (s.apply c).1, z') ∧ z.Indexed ∧ z'.Indexed ∧
      s.ShowsRanking key z.ranking ∧ (s.apply c).2.ShowsRanking key z'.ranking := by
  have hanswer := answer_eq_ok hq hreply
  obtain ⟨z, z', hread, hrun, hleft⟩ := write_eq_ok update.run_clean (congrArg Prod.fst hanswer)
  have hindexed : z.Indexed := (hs.wellFormed.read hread).1
  have hindexed' : z'.Indexed := SetUpdate.indexed_run hindexed hrun
  refine ⟨z, z', hrun, hindexed, hindexed', showsRanking_of_read hs hread, ?_⟩
  have hput : (s.apply c).2 = s.putBack .sortedSet key z' :=
    (congrArg Prod.snd hanswer).symm.trans hleft
  obtain ⟨z'', hread', hranking⟩ := s.exists_read_putBack key hindexed'
  rw [← hput] at hread'
  exact hranking ▸ showsRanking_of_read (reachable_apply hs c) hread'

/-- **A command that changes single entries changes no others**, in every store that can come about.
Under its key all reads show the entries `found` before and the entries `left` afterwards, and these
differ by the changes that the command asks for and replies, the last one for each name. -/
theorem updates_of_reachable (hs : s.Reachable) {c : Command} (hreply : ¬(s.apply c).1.IsError) :
    ∃ key listed, c.args = key :: listed ∧
      (c.kind ∈ CommandKind.onFields → ∃ found left changes,
        s.ShowsHash key found ∧ (s.apply c).2.ShowsHash key left ∧
        FieldChanges found (s.apply c).1 c.kind listed changes ∧ Updates changes found left) ∧
      (c.kind ∈ CommandKind.onMembers → ∃ found left changes,
        s.ShowsRanking key found ∧ (s.apply c).2.ShowsRanking key left ∧
        MemberChanges (s.apply c).1 c.kind listed changes ∧ Updates changes found left) := by
  cases hq : Request.ofCommand c with
  | error f => exact absurd ⟨f.message c.kind, by rw [apply, hq]⟩ hreply
  | ok request =>
    obtain ⟨key, listed, hargs, hasked⟩ := Request.askedBy_of_ofCommand hq
    refine ⟨key, listed, hargs, fun hkind => ?_, fun hkind => ?_⟩
    · obtain ⟨update, rfl⟩ := Request.exists_changeHash hkind hasked
      obtain ⟨h, h', hrun, hfound, hleft⟩ := exists_change_hash hs hq hreply
      obtain ⟨changes, hchanges, hget⟩ := HashUpdate.exists_changes hkind hasked hrun
      exact ⟨_, _, changes, hfound, hleft, hchanges, ByteMap.updates_of_get? hget⟩
    · obtain ⟨update, rfl⟩ := Request.exists_changeSet hkind hasked
      obtain ⟨z, z', hrun, hz, hz', hfound, hleft⟩ := exists_change_set hs hq hreply
      obtain ⟨changes, hchanges, hscore⟩ := SetUpdate.exists_changes hkind hasked hrun
      exact ⟨_, _, changes, hfound, hleft, hchanges, hz.updates_of_score? hz' hscore⟩

end Engine

attribute [local instance] Glob.engine

/-- A member that is listed twice goes to the place of its last score, past one of the others. -/
theorem updates_of_reachable_repeated :
    let s := empty.run
      [.apply ⟨.zadd, ["z", "1", "a", "2", "b", "3", "c"].map Bytes.ofString⟩]
    let c : Command := ⟨.zadd, ["z", "9", "a", "2", "d", "2.5", "a"].map Bytes.ofString⟩
    (s.apply c).1 = .count 1 ∧ ∃ found left changes,
      s.ShowsRanking (Bytes.ofString "z") found ∧
      (s.apply c).2.ShowsRanking (Bytes.ofString "z") left ∧
      MemberChanges (s.apply c).1 c.kind (c.args.drop 1) changes ∧ Updates changes found left := by
  intro s c
  have hreply : (s.apply c).1 = .count 1 := rfl
  have hsuccess : ¬(s.apply c).1.IsError := by
    rw [hreply]
    rintro ⟨text, h⟩
    cases h
  have hreachable : s.Reachable := ⟨_, rfl⟩
  obtain ⟨key, listed, hargs, -, hmembers⟩ := updates_of_reachable hreachable hsuccess
  obtain ⟨rfl, rfl⟩ := List.cons.inj hargs
  exact ⟨hreply, hmembers (by decide)⟩

end Store

end KeyWalk
