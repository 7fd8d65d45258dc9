import KeyWalk.Proofs.Request

/-!
Which request a command asks, told by its kind.

A command that is understood has a key in front, and what is listed behind it decides the request.
`Request.AskedBy key listed kind request` says which request that is: for a command that changes a
collection, which change; for one that stores a combination, that it does; for any other, that it is
a question.

* `Request.about_eq_ok_iff`: the readers of all commands but the combinations,
* `Request.askedBy_of_ofCommand`: the request of any command that is understood.
-/

namespace KeyWalk

open Arguments

variable {α : Type} {tokens rest : List Bytes}

namespace Arguments

theorem pure_eq_ok_iff {a b : α} :
    (pure a : Arguments α) tokens = .ok (b, rest) ↔ a = b ∧ tokens = rest := by
  show Except.ok (a, tokens) = Except.ok (b, rest) ↔ _
  rw [Except.ok.injEq, Prod.mk.injEq]

theorem finish_eq_ok_iff {u : Unit} : finish tokens = .ok (u, rest) ↔ tokens = [] ∧ rest = [] := by
  cases tokens <;> simp [finish, eq_comm]

theorem rest_eq_ok_iff {taken : List Bytes} :
    Arguments.rest tokens = .ok (taken, rest) ↔ tokens ≠ [] ∧ taken = tokens ∧ rest = [] := by
  cases tokens <;> simp [Arguments.rest, eq_comm]

theorem score_eq_ok_iff {s : Score} :
    score tokens = .ok (s, rest) ↔
      ∃ token, Score.ofToken? token = some s ∧ tokens = token :: rest := by
  simp only [score, bind_eq_ok_iff, next_eq_ok_iff, require_eq_ok_iff]
  constructor
  · rintro ⟨token, between, rfl, hs, rfl⟩
    exact ⟨token, hs, rfl⟩
  · rintro ⟨token, hs, rfl⟩
    exact ⟨token, rest, rfl, hs, rfl⟩

end Arguments

namespace Request

variable {request : Request}

/-- A command about a key: the key, then what is read to the end. -/
theorem about_eq_ok_iff (make : Bytes → α → Request) {read : Arguments α} :
    (do
      let key ← next
      let a ← read
      finish
      return make key a : Arguments Request) tokens = .ok (request, rest) ↔
      ∃ key listed a, tokens = key :: listed ∧ read listed = .ok (a, []) ∧ request = make key a ∧
        rest = [] := by
  simp only [bind_eq_ok_iff, next_eq_ok_iff, finish_eq_ok_iff, pure_eq_ok_iff]
  constructor
  · rintro ⟨key, listed, rfl, a, left, hread, -, -, ⟨rfl, rfl⟩, rfl, rfl⟩
    exact ⟨key, listed, a, rfl, hread, rfl, rfl⟩
  · rintro ⟨key, listed, a, rfl, hread, rfl, rfl⟩
    exact ⟨key, listed, rfl, a, [], hread, (), [], ⟨rfl, rfl⟩, rfl, rfl⟩

/-- The request that a command of the kind asks about the key, with what is listed behind it. -/
def AskedBy (key : Bytes) (listed : List Bytes) : CommandKind → Request → Prop
  | .hdel, r => r = .changeHash key (.delete listed)
  | .hset, r => ∃ field value, listed = [field, value] ∧ r = .changeHash key (.set field value)
  | .hsetnx, r =>
    ∃ field value, listed = [field, value] ∧ r = .changeHash key (.setIfAbsent field value)
  | .hmset, r => ∃ pairs, pairs? listed = some pairs ∧ r = .changeHash key (.setMany pairs)
  | .hincrby, r => ∃ field token n, listed = [field, token] ∧ Integral.ofToken? token = some n ∧
      r = .changeHash key (.increment field n)
  | .hincrbyfloat, r => ∃ field token s, listed = [field, token] ∧ Score.ofToken? token = some s ∧
      r = .changeHash key (.incrementFloat field s)
  | .zadd, r => ∃ pairs entries, pairs? listed = some pairs ∧
      pairs.mapM (fun p => (Score.ofToken? p.1).map fun s => (s, p.2)) = some entries ∧
      r = .changeSet key (.add entries)
  | .zincrby, r => ∃ token s member, listed = [token, member] ∧ Score.ofToken? token = some s ∧
      r = .changeSet key (.increment s member)
  | .zrem, r => r = .changeSet key (.remove listed)
  | .zremrangebylex, r | .zremrangebyrank, r | .zremrangebyscore, r =>
    ∃ selection, r = .changeSet key (.removeSelected selection)
  | .zunionstore, r => ∃ sources op, r = .combine .union key sources op
  | .zinterstore, r => ∃ sources op, r = .combine .intersection key sources op
  | _, r => (∃ query, r = .askHash key query) ∨ ∃ query, r = .askSet key query

theorem hashQuestion_eq_ok {query : Arguments HashQuery}
    (h : hashQuestion query tokens = .ok (request, rest)) :
    ∃ key listed, tokens = key :: listed ∧
      ((∃ query, request = .askHash key query) ∨ ∃ query, request = .askSet key query) := by
  obtain ⟨key, listed, q, rfl, -, rfl, -⟩ := (about_eq_ok_iff .askHash).1 h
  exact ⟨key, listed, rfl, .inl ⟨q, rfl⟩⟩

theorem setQuestion_eq_ok {query : Arguments SetQuery}
    (h : setQuestion query tokens = .ok (request, rest)) :
    ∃ key listed, tokens = key :: listed ∧
      ((∃ query, request = .askHash key query) ∨ ∃ query, request = .askSet key query) := by
  obtain ⟨key, listed, q, rfl, -, rfl, -⟩ := (about_eq_ok_iff .askSet).1 h
  exact ⟨key, listed, rfl, .inr ⟨q, rfl⟩⟩

/-- **The request of a command that is understood**, told by the kind of the command. -/
theorem askedBy_of_ofCommand [GlobEngine] {c : Command} (h : ofCommand c = .ok request) :
    ∃ key listed, c.args = key :: listed ∧ request.AskedBy key listed c.kind := by
  obtain ⟨left, hr⟩ := reader_of_ofCommand h
  obtain ⟨kind, args⟩ := c
  cases kind with
  | hexists | hget | hgetall | hkeys | hlen | hmget | hvals | hscan => exact hashQuestion_eq_ok hr
  | zcard | zcount | zlexcount | zrange | zrangebylex | zrangebyscore | zrank | zrevrange
  | zrevrangebylex | zrevrangebyscore | zrevrank | zscore | zscan => exact setQuestion_eq_ok hr
  | zunionstore | zinterstore =>
    obtain ⟨key, token, n, keys, clauses, weights, op, rfl, -, -, -, -, rfl, -⟩ :=
      combination_eq_ok_iff.1 hr
    exact ⟨key, _, rfl, _, op, rfl⟩
  | hdel =>
    obtain ⟨key, listed, update, rfl, hupdate, rfl, -⟩ := (about_eq_ok_iff .changeHash).1 hr
    simp only [bind_eq_ok_iff, rest_eq_ok_iff, pure_eq_ok_iff] at hupdate
    obtain ⟨fields, left, ⟨-, rfl, rfl⟩, rfl, -⟩ := hupdate
    exact ⟨key, _, rfl, rfl⟩
  | hset | hsetnx =>
    obtain ⟨key, listed, update, rfl, hupdate, rfl, -⟩ := (about_eq_ok_iff .changeHash).1 hr
    simp only [bind_eq_ok_iff, next_eq_ok_iff, pure_eq_ok_iff] at hupdate
    obtain ⟨field, _, rfl, value, left, rfl, rfl, rfl⟩ := hupdate
    exact ⟨key, _, rfl, field, value, rfl, rfl⟩
  | hmset =>
    obtain ⟨key, listed, update, rfl, hupdate, rfl, -⟩ := (about_eq_ok_iff .changeHash).1 hr
    simp only [bind_eq_ok_iff, rest_eq_ok_iff, require_eq_ok_iff, pure_eq_ok_iff] at hupdate
    obtain ⟨fields, left, ⟨-, rfl, rfl⟩, pairs, _, ⟨hpairs, rfl⟩, rfl, -⟩ := hupdate
    exact ⟨key, _, rfl, pairs, hpairs, rfl⟩
  | hincrby =>
    obtain ⟨key, listed, update, rfl, hupdate, rfl, -⟩ := (about_eq_ok_iff .changeHash).1 hr
    simp only [bind_eq_ok_iff, next_eq_ok_iff, integer_eq_ok_iff, pure_eq_ok_iff] at hupdate
    obtain ⟨field, _, rfl, n, left, ⟨token, hn, rfl⟩, rfl, rfl⟩ := hupdate
    exact ⟨key, _, rfl, field, token, n, rfl, hn, rfl⟩
  | hincrbyfloat =>
    obtain ⟨key, listed, update, rfl, hupdate, rfl, -⟩ := (about_eq_ok_iff .changeHash).1 hr
    simp only [bind_eq_ok_iff, next_eq_ok_iff, score_eq_ok_iff, pure_eq_ok_iff] at hupdate
    obtain ⟨field, _, rfl, s, left, ⟨token, hs, rfl⟩, rfl, rfl⟩ := hupdate
    exact ⟨key, _, rfl, field, token, s, rfl, hs, rfl⟩
  | zadd =>
    obtain ⟨key, listed, update, rfl, hupdate, rfl, -⟩ := (about_eq_ok_iff .changeSet).1 hr
    simp only [bind_eq_ok_iff, rest_eq_ok_iff, require_eq_ok_iff, pure_eq_ok_iff] at hupdate
    obtain ⟨tokens, left, ⟨-, rfl, rfl⟩, pairs, _, ⟨hpairs, rfl⟩, entries, _, ⟨hentries, rfl⟩,
      rfl, -⟩ := hupdate
    exact ⟨key, _, rfl, pairs, entries, hpairs, hentries, rfl⟩
  | zincrby =>
    obtain ⟨key, listed, update, rfl, hupdate, rfl, -⟩ := (about_eq_ok_iff .changeSet).1 hr
    simp only [bind_eq_ok_iff, next_eq_ok_iff, score_eq_ok_iff, pure_eq_ok_iff] at hupdate
    obtain ⟨s, _, ⟨token, hs, rfl⟩, member, left, rfl, rfl, rfl⟩ := hupdate
    exact ⟨key, _, rfl, token, s, member, rfl, hs, rfl⟩
  | zrem =>
    obtain ⟨key, listed, update, rfl, hupdate, rfl, -⟩ := (about_eq_ok_iff .changeSet).1 hr
    simp only [bind_eq_ok_iff, rest_eq_ok_iff, pure_eq_ok_iff] at hupdate
    obtain ⟨members, left, ⟨-, rfl, rfl⟩, rfl, -⟩ := hupdate
    exact ⟨key, _, rfl, rfl⟩
  | zremrangebylex | zremrangebyscore =>
    obtain ⟨key, listed, update, rfl, hupdate, rfl, -⟩ := (about_eq_ok_iff .changeSet).1 hr
    simp only [bind_eq_ok_iff, pure_eq_ok_iff] at hupdate
    obtain ⟨range, left, -, rfl, -⟩ := hupdate
    exact ⟨key, _, rfl, _, rfl⟩
  | zremrangebyrank =>
    obtain ⟨key, listed, update, rfl, hupdate, rfl, -⟩ := (about_eq_ok_iff .changeSet).1 hr
    simp only [bind_eq_ok_iff, pure_eq_ok_iff] at hupdate
    obtain ⟨start, _, -, stop, _, -, rfl, -⟩ := hupdate
    exact ⟨key, _, rfl, _, rfl⟩

end Request

end KeyWalk
