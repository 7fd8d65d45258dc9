import KeyWalk.Proofs.ChangeRequest
import KeyWalk.Proofs.EntryCount
import KeyWalk.Proofs.Locality
import KeyWalk.Proofs.RangeRead

/-!
Replies account for the number of entries.

The store counts the entries under a key itself: `HLEN` for a hash, `ZCARD` for a sorted set
(`Store.Counts`).  What a command replies fits to what they tell before and after:

* `Store.Grows`, `Store.Shrinks`: the reply is the increase, or the decrease,
* `Store.GainsOne`: there is one more entry just if the name was absent,
* `Store.Accounts`: which of them holds of a command, told by its kind,
* `Store.contains_iff_counts`: a key is there just if it has entries,
* `Store.apply_accounts`: every command.

Design notes.  Names that are listed more than once count once, in either direction.
-/

namespace KeyWalk.Store

variable {α β : Type} {s s' : Store} {key : Bytes} {reply : Reply}

/-! ### What is put back -/

/-- What is put back is read again. -/
theorem read_putBack (s : Store) (shape : Shape α) (key : Bytes) (a : α) :
    (s.putBack shape key a).read shape key =
      .ok (if shape.isEmpty a then shape.empty else a) := by
  rw [read_eq_ok_iff, get?_putBack_self]
  by_cases h : shape.isEmpty a = true
  · rw [if_pos h, if_pos h]
    exact .inl ⟨rfl, rfl⟩
  · rw [if_neg h, if_neg h]
    exact .inr rfl

/-- A hash that was put back is read as it was: an empty one is the hash of an absent key. -/
theorem read_putBack_hash (s : Store) (key : Bytes) (h : Hash) :
    (s.putBack .hash key h).read .hash key = .ok h := by
  rw [read_putBack]
  by_cases hempty : Shape.hash.isEmpty h = true
  · rw [if_pos hempty]
    exact congrArg Except.ok (ByteMap.ext (List.isEmpty_iff.1 hempty).symm)
  · rw [if_neg hempty]

/-- A change under a key that succeeds starts from what was there, and what it leaves is put
back. -/
theorem write_eq_ok {shape : Shape α} {change : α → Except Fault β × α} {r : β}
    (hclean : Clean change) (h : (s.write shape key change).1 = .ok r) :
    ∃ a a', s.read shape key = .ok a ∧ change a = (.ok r, a') ∧
      (s.write shape key change).2 = s.putBack shape key a' := by
  rcases write_cases s shape key hclean with ⟨f, hw⟩ | ⟨a, r', a', hread, hrun, hw⟩
  · rw [hw] at h
    cases h
  · rw [hw] at h ⊢
    cases h
    exact ⟨a, a', hread, hrun, rfl⟩

section Engine

variable [GlobEngine]

/-! ### Counting -/

/-- The command, asked about the key, counts `n` entries and changes nothing. -/
def Counts (s : Store) (count : CommandKind) (key : Bytes) (n : Nat) : Prop :=
  s.apply ⟨count, [key]⟩ = (.count n, s)

theorem apply_askHash (query : HashQuery) {h : Hash} {c : Command}
    (hc : Request.ofCommand c = .ok (.askHash key query)) (hread : s.read .hash key = .ok h) :
    s.apply c = (query.answer h, s) := by
  simp only [apply, hc, answer, hread]
  rfl

theorem counts_hlen {h : Hash} (hread : s.read .hash key = .ok h) : s.Counts .hlen key h.size :=
  apply_askHash .length rfl hread

theorem counts_zcard {z : SortedSet} (hread : s.read .sortedSet key = .ok z) :
    s.Counts .zcard key z.size := by
  have hrequest : Request.ofCommand ⟨.zcard, [key]⟩ = .ok (.askSet key .cardinality) := rfl
  exact apply_askSet hrequest hread

/-- A count that tells the size of what is read tells the size of what was put back. -/
theorem counts_putBack {shape : Shape α} {size : α → Nat} {count : CommandKind}
    (hcounts : ∀ {s : Store} {a : α}, s.read shape key = .ok a → s.Counts count key (size a))
    (hempty : ∀ a, shape.isEmpty a = true → size a = size shape.empty) (s : Store) (a : α) :
    (s.putBack shape key a).Counts count key (size a) := by
  have hput := hcounts (s.read_putBack shape key a)
  by_cases h : shape.isEmpty a = true
  · rw [if_pos h] at hput
    exact hempty a h ▸ hput
  · rw [if_neg h] at hput
    exact hput

theorem counts_hlen_putBack (s : Store) (key : Bytes) (h : Hash) :
    (s.putBack .hash key h).Counts .hlen key h.size :=
  counts_putBack counts_hlen (fun _ h => List.length_eq_zero_iff.2 (List.isEmpty_iff.1 h)) s h

theorem counts_zcard_putBack (s : Store) (key : Bytes) (z : SortedSet) :
    (s.putBack .sortedSet key z).Counts .zcard key z.size :=
  counts_putBack counts_zcard (fun _ h => List.length_eq_zero_iff.2 (List.isEmpty_iff.1 h)) s z

theorem Counts.unique {count : CommandKind} {n m : Nat} (hn : s.Counts count key n)
    (hm : s.Counts count key m) : n = m := by
  have hreply : Reply.integer n = Reply.integer m := congrArg Prod.fst (hn.symm.trans hm)
  exact Int.ofNat.inj (Reply.integer.inj hreply)

/-- **A key is there just if it has entries.** -/
theorem contains_iff_counts (hs : s.WellFormed) :
    s.contains key = true ↔ ∃ n, 0 < n ∧ (s.Counts .hlen key n ∨ s.Counts .zcard key n) := by
  have hcontains : s.contains key = (s.get? key).isSome := rfl
  cases hget : s.get? key with
  | none =>
    -- an absent key counts as empty for either command
    have hhash : s.Counts .hlen key 0 := counts_hlen (read_eq_ok_iff.2 (.inl ⟨hget, rfl⟩))
    have hset : s.Counts .zcard key 0 := counts_zcard (read_eq_ok_iff.2 (.inl ⟨hget, rfl⟩))
    rw [hcontains, hget]
    refine iff_of_false Bool.false_ne_true ?_
    rintro ⟨n, hn, hcounts | hcounts⟩
    · exact Nat.lt_irrefl 0 (hcounts.unique hhash ▸ hn)
    · exact Nat.lt_irrefl 0 (hcounts.unique hset ▸ hn)
  | some c =>
    rw [hcontains, hget]
    refine iff_of_true rfl ?_
    have hwell := hs key c hget
    cases c with
    | hash h =>
      have hne : h.entries ≠ [] := List.isEmpty_eq_false_iff.1 hwell
      exact ⟨h.size, List.length_pos_iff.2 hne, .inl (counts_hlen (read_eq_ok_iff.2 (.inr hget)))⟩
    | sortedSet z =>
      have hne : z.scores.entries ≠ [] := List.isEmpty_eq_false_iff.1 hwell.1
      exact ⟨z.size, List.length_pos_iff.2 hne, .inr (counts_zcard (read_eq_ok_iff.2 (.inr hget)))⟩

/-! ### Accounts -/

/-- The reply is the number of entries that were added. -/
def Grows (s s' : Store) (count : CommandKind) (key : Bytes) (reply : Reply) : Prop :=
  ∃ n m, reply = .count m ∧ s.Counts count key n ∧ s'.Counts count key (n + m)

/-- The reply is the number of entries that were removed. -/
def Shrinks (s s' : Store) (count : CommandKind) (key : Bytes) (reply : Reply) : Prop :=
  ∃ n m, reply = .count m ∧ s.Counts count key (n + m) ∧ s'.Counts count key n

/-- There is one more entry if looking the name up found nothing, and else as many as before. -/
def GainsOne (s s' : Store) (count look : CommandKind) (key name : Bytes) : Prop :=
  ∃ n found, s.Counts count key n ∧ s.apply ⟨look, [key, name]⟩ = (.bulk found, s) ∧
    s'.Counts count key (n + found.isNone.toNat)

/-- How the reply to a command accounts for the entries under its key before and after. -/
def Accounts (s s' : Store) (key : Bytes) (listed : List Bytes) (reply : Reply) :
    CommandKind → Prop
  | .hset | .hsetnx => s.Grows s' .hlen key reply
  | .hdel => s.Shrinks s' .hlen key reply
  | .hmset => ∃ pairs n, ∃ fresh : List Bytes, pairs? listed = some pairs ∧ fresh.Nodup ∧
      (∀ f, f ∈ fresh ↔ f ∈ pairs.map (·.1) ∧ s.apply ⟨.hget, [key, f]⟩ = (.nil, s)) ∧
      s.Counts .hlen key n ∧ s'.Counts .hlen key (n + fresh.length)
  | .hincrby | .hincrbyfloat =>
    ∃ field amount, listed = [field, amount] ∧ s.GainsOne s' .hlen .hget key field
  | .zadd => s.Grows s' .zcard key reply
  | .zincrby =>
    ∃ amount member, listed = [amount, member] ∧ s.GainsOne s' .zcard .zscore key member
  | .zrem | .zremrangebylex | .zremrangebyrank | .zremrangebyscore => s.Shrinks s' .zcard key reply
  | .zunionstore | .zinterstore => ∃ n, reply = .count n ∧ s'.Counts .zcard key n
  | _ => s' = s

theorem adjusts_hash {update : HashUpdate}
    (h : (s.answer (.changeHash key update)).1 = .ok reply) :
    ∃ a a', s.read .hash key = .ok a ∧ update.Adjusts a a' reply ∧
      (s.answer (.changeHash key update)).2.Counts .hlen key a'.size := by
  obtain ⟨a, a', hread, hrun, hleft⟩ := write_eq_ok update.run_clean h
  refine ⟨a, a', hread, HashUpdate.adjusts_of_run hrun, ?_⟩
  show (s.write .hash key update.run).2.Counts .hlen key a'.size
  rw [hleft]
  exact s.counts_hlen_putBack key a'

theorem adjusts_set (hs : s.WellFormed) {update : SetUpdate}
    (h : (s.answer (.changeSet key update)).1 = .ok reply) :
    ∃ z z', s.read .sortedSet key = .ok z ∧ update.Adjusts z z' reply ∧
      (s.answer (.changeSet key update)).2.Counts .zcard key z'.size := by
  obtain ⟨z, z', hread, hrun, hleft⟩ := write_eq_ok update.run_clean h
  refine ⟨z, z', hread, SetUpdate.adjusts_of_run (hs.read hread).1 hrun, ?_⟩
  show (s.write .sortedSet key update.run).2.Counts .zcard key z'.size
  rw [hleft]
  exact s.counts_zcard_putBack key z'

/-- **A request that succeeds accounts for its reply.** -/
theorem accounts_of_answer (hs : s.WellFormed) {kind : CommandKind} {listed : List Bytes}
    {request : Request} (hasked : request.AskedBy key listed kind)
    (h : (s.answer request).1 = .ok reply) :
    s.Accounts (s.answer request).2 key listed reply kind := by
  -- the kinds stand together that ask for the same change of the number of entries
  cases kind with
  | hset | hsetnx =>
    obtain ⟨field, value, -, rfl⟩ := hasked
    obtain ⟨a, a', hread, ⟨m, hreply, hsize⟩, hcounts⟩ := adjusts_hash h
    exact ⟨a.size, m, hreply, counts_hlen hread, hsize ▸ hcounts⟩
  | hdel =>
    obtain rfl := hasked
    obtain ⟨a, a', hread, ⟨m, hreply, hsize⟩, hcounts⟩ := adjusts_hash h
    exact ⟨a'.size, m, hreply, hsize ▸ counts_hlen hread, hcounts⟩
  | hmset =>
    obtain ⟨pairs, hpairs, rfl⟩ := hasked
    obtain ⟨a, a', hread, ⟨fresh, hnodup, hmem, hsize⟩, hcounts⟩ := adjusts_hash h
    refine ⟨pairs, a.size, fresh, hpairs, hnodup, fun f => ?_, counts_hlen hread, hsize ▸ hcounts⟩
    have hget : s.apply ⟨.hget, [key, f]⟩ = (.bulk (a.get? f), s) :=
      apply_askHash (.get f) rfl hread
    rw [hmem, hget]
    simp [Reply.nil]
  | hincrby | hincrbyfloat =>
    obtain ⟨field, amount, n, rfl, -, rfl⟩ := hasked
    obtain ⟨a, a', hread, hsize, hcounts⟩ := adjusts_hash h
    exact ⟨field, amount, rfl, a.size, a.get? field, counts_hlen hread,
      apply_askHash (.get field) rfl hread, hsize ▸ hcounts⟩
  | zadd =>
    obtain ⟨pairs, entries, -, -, rfl⟩ := hasked
    obtain ⟨z, z', hread, ⟨m, hreply, hsize⟩, hcounts⟩ := adjusts_set hs h
    exact ⟨z.size, m, hreply, counts_zcard hread, hsize ▸ hcounts⟩
  | zincrby =>
    obtain ⟨amount, v, member, rfl, -, rfl⟩ := hasked
    obtain ⟨z, z', hread, hsize, hcounts⟩ := adjusts_set hs h
    have hrequest : Request.ofCommand ⟨.zscore, [key, member]⟩ =
        .ok (.askSet key (.score member)) := rfl
    refine ⟨amount, member, rfl, z.size, (z.score? member).map Score.token, counts_zcard hread,
      apply_askSet hrequest hread, ?_⟩
    rw [Option.isNone_map]
    exact hsize ▸ hcounts
  | zrem =>
    obtain rfl := hasked
    obtain ⟨z, z', hread, ⟨m, hreply, hsize⟩, hcounts⟩ := adjusts_set hs h
    exact ⟨z'.size, m, hreply, hsize ▸ counts_zcard hread, hcounts⟩
  | zremrangebylex | zremrangebyrank | zremrangebyscore =>
    obtain ⟨selection, rfl⟩ := hasked
    obtain ⟨z, z', hread, ⟨m, hreply, hsize⟩, hcounts⟩ := adjusts_set hs h
    exact ⟨z'.size, m, hreply, hsize ▸ counts_zcard hread, hcounts⟩
  | zunionstore | zinterstore =>
    -- the destination is replaced, so nothing is known of what was there
    obtain ⟨sources, op, rfl⟩ := hasked
    rw [answer] at h ⊢
    cases hsources : s.readSources sources with
    | error f =>
      rw [hsources] at h
      cases h
    | ok weighted =>
      rw [hsources] at h
      exact ⟨_, (Except.ok.inj h).symm, s.counts_zcard_putBack key _⟩
  | _ => rcases hasked with ⟨query, rfl⟩ | ⟨query, rfl⟩ <;> rfl

/-- **Every reply accounts for the entries under the key of its command.**  After any command the
key of its first argument is there just if it has entries, and the number of keys changes
accordingly.  If the command is not refused then its reply tells how many entries were added or
removed, as its kind says, names that are listed more than once counting once. -/
theorem apply_accounts (hs : s.Reachable) (c : Command) :
    (∀ key, c.args.head? = some key →
      ((s.apply c).2.contains key = true ↔
        ∃ n, 0 < n ∧ ((s.apply c).2.Counts .hlen key n ∨ (s.apply c).2.Counts .zcard key n)) ∧
      (s.apply c).2.size + (s.contains key).toNat =
        s.size + ((s.apply c).2.contains key).toNat) ∧
    (¬(s.apply c).1.IsError → ∃ key listed, c.args = key :: listed ∧
      s.Accounts (s.apply c).2 key listed (s.apply c).1 c.kind) := by
  refine ⟨fun key hkey => ⟨contains_iff_counts (hs.wellFormed.apply c), ?_⟩, fun hreply => ?_⟩
  · -- no other key is touched
    refine ByteMap.size_of_agree fun key' hne => apply_frame s c fun hkey' => hne ?_
    exact Option.some.inj (hkey'.symm.trans hkey)
  · cases hq : Request.ofCommand c with
    | error f => exact absurd ⟨f.message c.kind, by rw [apply, hq]⟩ hreply
    | ok request =>
      obtain ⟨key, listed, hargs, hasked⟩ := Request.askedBy_of_ofCommand hq
      rw [apply_of_ofCommand hq] at hreply ⊢
      refine ⟨key, listed, hargs, ?_⟩
      cases hanswer : (s.answer request).1 with
      | error f =>
        rw [hanswer] at hreply
        exact absurd ⟨_, rfl⟩ hreply
      | ok reply => exact accounts_of_answer hs.wellFormed hasked hanswer

end Engine

attribute [local instance] Glob.engine

/-- A member that is listed twice is new once. -/
theorem apply_accounts_repeated_member :
    let c : Command := ⟨.zadd, [[0x7a], [0x31], [0x61], [0x32], [0x61]]⟩
    (empty.apply c).1 = .count 1 ∧
      empty.Grows (empty.apply c).2 .zcard [0x7a] (empty.apply c).1 := by
  intro c
  have hreply : (empty.apply c).1 = .count 1 := rfl
  have hreachable : empty.Reachable := ⟨[], rfl⟩
  obtain ⟨key, listed, hargs, hgrows⟩ := (apply_accounts hreachable c).2 (by
    rw [hreply]
    rintro ⟨text, h⟩
    cases h)
  cases hargs
  exact ⟨hreply, hgrows⟩

end KeyWalk.Store
