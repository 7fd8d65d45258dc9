import KeyWalk.Proofs.Cardinality
import KeyWalk.Proofs.FullWalk
import KeyWalk.Proofs.ScoreReads

/-!
All reads of a key show one collection.

A hash is served from one map.  A sorted set is served from two indexes, by member and by rank, and
which of them answers depends on the command.  There is one list of entries, though, that every
reply is made from:

* `Store.ShowsHash s key entries`: the replies of a key that holds a hash, or nothing,
* `Store.ShowsSet s key entries`: those of a key that holds a sorted set, or nothing,
* `Store.shows_of_reachable`: in every store that can come about there are such entries.

Design notes.  A look-up is the look-up in the list of entries.  Scores ascend in the order in which
`-0` and `0` are one, so members with either of them are in the order of their names.
-/

namespace KeyWalk

/-! ### Look-ups in a list of entries -/

section Lookup

variable {β : Type} {l : List (Bytes × β)} {k : Bytes} {v : β}

/-- If no name is listed twice then what is found under a name is what is listed with it. -/
theorem lookup_eq_some_iff_of_nodup (h : (l.map (·.1)).Nodup) :
    l.lookup k = some v ↔ (k, v) ∈ l := by
  induction l with
  | nil => simp
  | cons e r ih =>
    obtain ⟨he, hr⟩ := List.nodup_cons.1 h
    rw [List.lookup_cons, List.mem_cons]
    by_cases hk : k = e.1
    · have hnot : (k, v) ∉ r := fun hmem => he (List.mem_map.2 ⟨(k, v), hmem, hk⟩)
      rw [beq_iff_eq.2 hk, or_iff_left hnot, Prod.ext_iff]
      exact ⟨fun hv => ⟨hk, (Option.some.inj hv).symm⟩, fun hv => congrArg some hv.2.symm⟩
    · have hne : (k, v) ≠ e := fun heq => hk (congrArg Prod.fst heq)
      rw [beq_eq_false_iff_ne.2 hk]
      simp [ih hr, hne]

theorem ByteMap.nodup_names (m : ByteMap β) : (m.entries.map (·.1)).Nodup := by
  refine List.pairwise_map.2 (m.ascending.imp fun {a b} hlt heq => ?_)
  exact List.lt_irrefl b.1 (heq ▸ hlt)

theorem ByteMap.lookup_entries (m : ByteMap β) (k : Bytes) : m.entries.lookup k = m.get? k := by
  refine Option.ext fun v => ?_
  rw [lookup_eq_some_iff_of_nodup m.nodup_names, get?_eq_some_iff]

/-- The ranking has the scores of the members. -/
theorem SortedSet.Indexed.lookup_ranking {z : SortedSet} (h : z.Indexed) (m : Bytes) :
    z.ranking.lookup m = z.score? m := by
  refine Option.ext fun s => ?_
  rw [lookup_eq_some_iff_of_nodup h.nodup_names, h.mem_iff]
  rfl

end Lookup

/-- Every rank is in the range of all ranks. -/
theorem Selection.pick_all_ranks (l : List (Bytes × Score)) : (rank 0 (-1)).pick l = l := by
  have hstart : rankPlace l.length 0 = 0 := rfl
  have hstop : (rankPlace l.length (-1) + 1).toNat = l.length := by
    rw [rankPlace, if_neg (by decide)]
    omega
  rw [pick]
  rcases rankWindow_cases l.length 0 (-1) with ⟨hnone, hle⟩ | ⟨last, hsome, -, hlast⟩
  · rw [hstop, hstart, Nat.min_self] at hle
    have hnil : l = [] := List.length_eq_zero_iff.1 (Nat.le_zero.1 hle)
    rw [hnone, hnil]
  · rw [hstop, Nat.min_self] at hlast
    rw [hsome, hstart]
    show (l.drop 0).take (last - 0 + 1) = l
    rw [List.drop_zero, Nat.sub_zero, ← hlast, List.take_length]

namespace Store

variable {s : Store} {key : Bytes}

/-- The key holds a sorted set. -/
def HoldsSet (s : Store) (key : Bytes) : Prop := ∃ z, s.get? key = some (.sortedSet z)

theorem read_hash (h : ¬s.HoldsSet key) : ∃ m, s.read .hash key = .ok m := by
  cases hget : s.get? key with
  | none => exact ⟨ByteMap.empty, read_eq_ok_iff.2 (.inl ⟨hget, rfl⟩)⟩
  | some c =>
    cases c with
    | hash m => exact ⟨m, read_eq_ok_iff.2 (.inr hget)⟩
    | sortedSet z => exact absurd ⟨z, hget⟩ h

/-! ### What is shown -/

section Engine

variable [GlobEngine]

/-- Every full walk without a pattern yields the elements, whatever its pages, and changes
nothing. -/
def Walks {ε : Type} (s : Store) (kind : ScanKind ε) (key : Bytes) (elements : List ε) : Prop :=
  ∀ (options : ClientOptions) (args : Option ScanArgs) (count limit : Nat) (log : List Command),
    ScanArgs.Accepted (options.scanArgs args) count none → stepsFor elements.length count ≤ limit →
    elements.length < Integral.unsignedBound →
    ∃ sent,
      (Client.blocking Transport.store.recording options).scanAll limit kind key args (s, log) =
        (some (.ok elements), s, log ++ sent)

/-- **All reads of a key show one hash**, with these entries. -/
structure ShowsHash (s : Store) (key : Bytes) (entries : List (Bytes × Bytes)) : Prop where
  ascending : entries.Pairwise fun a b => a.1 < b.1
  hgetall : s.apply ⟨.hgetall, [key]⟩ =
    (.array (entries.flatMap fun e => [.value e.1, .value e.2]), s)
  hkeys : s.apply ⟨.hkeys, [key]⟩ = (.array (entries.map fun e => .value e.1), s)
  hvals : s.apply ⟨.hvals, [key]⟩ = (.array (entries.map fun e => .value e.2), s)
  hlen : s.apply ⟨.hlen, [key]⟩ = (.count entries.length, s)
  hexists : ∀ field, s.apply ⟨.hexists, [key, field]⟩ = (.flag (entries.lookup field).isSome, s)
  hget : ∀ field, s.apply ⟨.hget, [key, field]⟩ = (.bulk (entries.lookup field), s)
  hmget : ∀ fields, fields ≠ [] → s.apply ⟨.hmget, key :: fields⟩ =
    (.array (fields.map fun field => .bulk (entries.lookup field)), s)
  hscan : s.Walks hashScan key (entries.map fun e => ⟨e.1, e.2⟩)

/-- **All reads of a key show one sorted set**, with these entries in the order of their ranks. -/
structure ShowsSet (s : Store) (key : Bytes) (entries : List (Bytes × Score)) : Prop where
  numeric : ∀ e ∈ entries, e.2.isNaN = false
  ascending : entries.Pairwise fun a b => a.2.key < b.2.key ∨ a.2.key = b.2.key ∧ a.1 < b.1
  once : (entries.map (·.1)).Nodup
  zrange : s.apply ⟨.zrange, key :: ["0", "-1", "WITHSCORES"].map Bytes.ofString⟩ =
    (.array (entries.flatMap fun e => [.value e.1, .value (Score.token e.2)]), s)
  zcard : s.apply ⟨.zcard, [key]⟩ = (.count entries.length, s)
  zscore : ∀ m, s.apply ⟨.zscore, [key, m]⟩ = (.bulk ((entries.lookup m).map Score.token), s)
  /-- A walk yields the same entries in the order of their names. -/
  zscan : ∃ named : List (Bytes × Score), named.Perm entries ∧
    (named.Pairwise fun a b => a.1 < b.1) ∧ s.Walks sortedSetScan key (named.map .ofEntry)

/-- What is shown of a sorted set are its entries and no others. -/
theorem ShowsSet.unique {entries entries' : List (Bytes × Score)} (h : s.ShowsSet key entries)
    (h' : s.ShowsSet key entries') : entries = entries' := by
  have hreply := congrArg Prod.fst (h.zrange.symm.trans h'.zrange)
  -- the reply is read back as the entries that it was made from
  have hread := Client.collect_scored "" h.numeric
  rw [Reply.array.inj hreply, Client.collect_scored "" h'.numeric] at hread
  refine (List.map_inj_right fun a b hab => ?_).1 (Except.ok.inj hread).symm
  exact Prod.ext (congrArg ScoredValue.value hab) (congrArg ScoredValue.score hab)

/-! ### The entries of a collection -/

/-- The walks of a client yield the elements of the listing. -/
theorem walks_of_listing (hs : s.Reachable) {t : CollectionType} {es : List (Bytes × t.Element)}
    (hl : s.listing key t = .ok es) : s.Walks t.scan key (es.map (·.2)) := by
  intro options args count limit log hargs hlimit hsize
  rw [List.length_map] at hlimit hsize
  obtain ⟨sent, -, hwalk⟩ := Client.gather_standsAt hs.wellFormed hl hsize
    (Walk.standsAt_start t.scan key _) hargs (by decide) hlimit [] log
  -- without a pattern every entry is admitted
  have hall : ScanWindow.admitted none (es.drop 0) = es := List.filter_eq_self.2 fun _ _ => rfl
  rw [hall, List.nil_append] at hwalk
  exact ⟨sent, hwalk⟩

theorem showsHash_of_read (hs : s.Reachable) {h : Hash} (hread : s.read .hash key = .ok h) :
    s.ShowsHash key h.entries where
  ascending := h.ascending
  hgetall := apply_askHash .allEntries rfl hread
  hkeys := by
    rw [apply_askHash .allFields rfl hread, HashQuery.answer, ByteMap.keys, List.map_map]
    rfl
  hvals := by
    rw [apply_askHash .allValues rfl hread, HashQuery.answer, ByteMap.values, List.map_map]
    rfl
  hlen := counts_hlen hread
  hexists field := by
    rw [h.lookup_entries]
    exact apply_askHash (.holds field) rfl hread
  hget field := by
    rw [h.lookup_entries]
    exact apply_askHash (.get field) rfl hread
  hmget fields hfields := by
    simp only [h.lookup_entries]
    exact apply_askHash (.getMany fields) (Request.ofCommand_hmget hfields) hread
  hscan := by
    have hwalks := walks_of_listing hs (t := .hash) (listing_hash_eq_ok_iff.2 ⟨h, hread, rfl⟩)
    rwa [List.map_map] at hwalks

theorem showsSet_of_read (hs : s.Reachable) {z : SortedSet}
    (hread : s.read .sortedSet key = .ok z) : s.ShowsSet key z.ranking := by
  obtain ⟨hindexed, hnumeric⟩ := hs.wellFormed.read hread
  -- the two indexes have the same entries, in different orders
  have hperm : z.members.Perm z.ranking := by
    have hranked : z.ranking = z.byRank := hindexed.ascending_eq_byRank
    rw [hranked]
    exact (List.mergeSort_perm z.members _).symm
  refine ⟨fun e he => hnumeric e.1 e.2 ((hindexed.mem_iff e.1 e.2).1 he), ?_, hindexed.nodup_names,
    ?_, ?_, fun m => ?_, z.members, hperm, z.scores.ascending, ?_⟩
  · exact hindexed.ascending.imp fun h => SortedSet.precedes_iff.1 h
  · have hanswer : (SetQuery.range (.rank 0 (-1)) false true {}).answer z =
        .array (z.ranking.flatMap fun e => [.value e.1, .value (Score.token e.2)]) := by
      show Reply.members true ((Selection.rank 0 (-1)).pick z.ranking) = _
      rw [Selection.pick_all_ranks]
      rfl
    rw [← hanswer]
    exact apply_askSet rfl hread
  · rw [← hperm.length_eq]
    exact counts_zcard hread
  · have hrequest : Request.ofCommand ⟨.zscore, [key, m]⟩ = .ok (.askSet key (.score m)) := rfl
    rw [hindexed.lookup_ranking]
    exact apply_askSet hrequest hread
  · have hwalks := walks_of_listing hs (t := .sortedSet) (Client.listing_of_read hread)
    rwa [List.map_map] at hwalks

/-- **All reads of a key show one and the same collection**, in every store that can come about: of
a hash, or of a sorted set.  An absent key shows an empty one of either type. -/
theorem shows_of_reachable (hs : s.Reachable) (key : Bytes) :
    (¬s.HoldsSet key → ∃ entries, s.ShowsHash key entries) ∧
      (¬s.HoldsHash key → ∃ entries, s.ShowsSet key entries) := by
  constructor
  · intro hkey
    obtain ⟨h, hread⟩ := read_hash hkey
    exact ⟨h.entries, showsHash_of_read hs hread⟩
  · intro hkey
    obtain ⟨z, hread, -⟩ := read_sortedSet hkey
    exact ⟨z.ranking, showsSet_of_read hs hread⟩

end Engine

attribute [local instance] Glob.engine

/-- A hash, and a sorted set with both zeros and an infinity. -/
theorem shows_of_reachable_both_zeros :
    let s := empty.run
      [.apply ⟨.hset, ["h", "f", "v"].map Bytes.ofString⟩,
        .apply ⟨.zadd, ["z", "-0", "b", "0", "a", "inf", "c"].map Bytes.ofString⟩]
    (∃ entries, s.ShowsHash (Bytes.ofString "h") entries) ∧
      ∃ entries, s.ShowsSet (Bytes.ofString "z") entries := by
  intro s
  have hreachable : s.Reachable := ⟨_, rfl⟩
  have hhash : ¬s.HoldsSet (Bytes.ofString "h") := by
    rintro ⟨z, hz⟩
    have hget : (s.get? (Bytes.ofString "h")).map Collection.type = some .hash := rfl
    rw [hz] at hget
    cases hget
  have hset : ¬s.HoldsHash (Bytes.ofString "z") := by
    rintro ⟨h, hh⟩
    have hget : (s.get? (Bytes.ofString "z")).map Collection.type = some .sortedSet := rfl
    rw [hh] at hget
    cases hget
  exact ⟨(shows_of_reachable hreachable _).1 hhash, (shows_of_reachable hreachable _).2 hset⟩

end Store

end KeyWalk
