import KeyWalk.Proofs.ScoreText
import KeyWalk.Store.Request

/-!
What the readers of arguments can yield.

A reader succeeds on the tokens that it describes, and on no others: `bind_eq_ok_iff` and its
neighbours say so for the readers that the others are made of, `Request.combination_eq_ok_iff` for
the arguments of a combination.

`Yields r P` says that every value that the reader `r` yields satisfies `P`.  It is put together
like the readers themselves (`Yields.bind`, `yields_require`), and the last statement is about the
requests that commands can ask: no score that a command adds to a sorted set is `nan`
(`Request.numeric_of_ofCommand`).
-/

namespace KeyWalk

theorem Except.bind_eq_ok_iff {ε α β : Type} {x : Except ε α} {f : α → Except ε β} {b : β} :
    x >>= f = .ok b ↔ ∃ a, x = .ok a ∧ f a = .ok b := by
  cases x <;> simp [Bind.bind, Except.bind]

/-- What is behind a check. -/
theorem Except.ite_error_eq_ok_iff {ε α : Type} {p : Prop} [Decidable p] {e : ε}
    {x : Except ε α} {a : α} : (if p then .error e else x) = .ok a ↔ ¬p ∧ x = .ok a := by
  by_cases hp : p <;> simp [hp]

namespace Arguments

variable {α β : Type} {P : α → Prop} {Q : β → Prop} {tokens rest : List Bytes}

/-! ### What is read -/

/-- What is read after a reader that succeeded. -/
theorem bind_of_ok {r : Arguments α} {f : α → Arguments β} {tokens rest : List Bytes} {a : α}
    (h : r tokens = .ok (a, rest)) : (r >>= f) tokens = f a rest := by
  show (r tokens >>= fun p => f p.1 p.2) = f a rest
  rw [h]
  rfl

theorem bind_of_error {r : Arguments α} {f : α → Arguments β} {tokens : List Bytes} {fault : Fault}
    (h : r tokens = .error fault) : (r >>= f) tokens = .error fault := by
  show (r tokens >>= fun p => f p.1 p.2) = .error fault
  rw [h]
  rfl

theorem next_cons (a : Bytes) (r : List Bytes) : next (a :: r) = .ok (a, r) := rfl

theorem require_some (f : Fault) (a : α) (tokens : List Bytes) :
    require f (some a) tokens = .ok (a, tokens) := rfl

/-- A reader with another one behind it succeeds if both do, one after the other. -/
theorem bind_eq_ok_iff {r : Arguments α} {f : α → Arguments β} {b : β} :
    (r >>= f) tokens = .ok (b, rest) ↔
      ∃ a between, r tokens = .ok (a, between) ∧ f a between = .ok (b, rest) := by
  constructor
  · intro h
    obtain ⟨p, hr, hf⟩ := Except.bind_eq_ok_iff.1 h
    exact ⟨p.1, p.2, hr, hf⟩
  · rintro ⟨a, between, hr, hf⟩
    rw [bind_of_ok hr, hf]

theorem next_eq_ok_iff {a : Bytes} : next tokens = .ok (a, rest) ↔ tokens = a :: rest := by
  cases tokens <;> simp [next]

theorem require_eq_ok_iff {f : Fault} {o : Option α} {a : α} :
    require f o tokens = .ok (a, rest) ↔ o = some a ∧ tokens = rest := by
  cases o with
  | none => simp [require, reject]
  | some b =>
    rw [require_some]
    simp

theorem integer_eq_ok_iff {n : Int} :
    integer tokens = .ok (n, rest) ↔
      ∃ token, Integral.ofToken? token = some n ∧ tokens = token :: rest := by
  simp only [integer, bind_eq_ok_iff, next_eq_ok_iff, require_eq_ok_iff]
  constructor
  · rintro ⟨token, between, rfl, hn, rfl⟩
    exact ⟨token, hn, rfl⟩
  · rintro ⟨token, hn, rfl⟩
    exact ⟨token, rest, rfl, hn, rfl⟩

theorem take_eq_ok_iff {n : Nat} {taken : List Bytes} :
    take n tokens = .ok (taken, rest) ↔ taken.length = n ∧ tokens = taken ++ rest := by
  rw [take]
  constructor
  · intro h
    by_cases hlt : tokens.length < n
    · rw [if_pos hlt] at h
      exact absurd h (by simp)
    · rw [if_neg hlt] at h
      obtain ⟨rfl, rfl⟩ := Prod.mk.inj (Except.ok.inj h)
      exact ⟨List.length_take_of_le (Nat.le_of_not_lt hlt), (List.take_append_drop n tokens).symm⟩
  · rintro ⟨rfl, rfl⟩
    rw [if_neg (by simp), List.take_left, List.drop_left]

/-! ### What is yielded -/

/-- Every value that the reader yields satisfies `P`. -/
def Yields (r : Arguments α) (P : α → Prop) : Prop :=
  ∀ tokens a rest, r tokens = .ok (a, rest) → P a

theorem Yields.trivial (r : Arguments α) : Yields r fun _ => True := fun _ _ _ _ => True.intro

theorem Yields.pure {a : α} (h : P a) : Yields (Pure.pure a) P := by
  intro tokens b rest hb
  have hab : (a, tokens) = (b, rest) := Except.ok.inj hb
  exact (Prod.mk.inj hab).1 ▸ h

theorem Yields.bind {r : Arguments α} {f : α → Arguments β} (hr : Yields r P)
    (hf : ∀ a, P a → Yields (f a) Q) : Yields (r >>= f) Q := by
  intro tokens b rest hb
  obtain ⟨a, between, ha, hb⟩ := bind_eq_ok_iff.1 hb
  exact hf a (hr tokens a between ha) between b rest hb

/-- Where it does not matter what the first reader yields. -/
theorem Yields.bind_any {r : Arguments α} {f : α → Arguments β} (hf : ∀ a, Yields (f a) Q) :
    Yields (r >>= f) Q :=
  (Yields.trivial r).bind fun a _ => hf a

/-- A reader that takes all the tokens that are left. -/
theorem yields_map {run : List Bytes → Except Fault β} {f : β → α × List Bytes}
    (h : ∀ b, P (f b).1) : Yields (fun tokens => (run tokens).map f) P := by
  intro tokens a rest ha
  change (run tokens).map f = .ok (a, rest) at ha
  cases hr : run tokens with
  | error e => exact absurd ha (by simp [hr, Except.map])
  | ok b =>
    rw [hr] at ha
    have hab : (f b).1 = a := congrArg Prod.fst (Except.ok.inj ha)
    exact hab ▸ h b

theorem yields_require {f : Fault} {o : Option α} (h : ∀ a, o = some a → P a) :
    Yields (require f o) P := by
  cases o with
  | none => exact fun tokens a rest ha => absurd ha (by simp [require, reject])
  | some a => exact Yields.pure (h a rfl)

end Arguments

section About

open Arguments

variable [GlobEngine] {α : Type} {kind : CommandKind} {read : Arguments α} {key : Bytes}
  {tokens : List Bytes}

/-- A command about a key: the key, then what is read to the end. -/
theorem Request.ofCommand_about (make : Bytes → α → Request)
    (hkind : Request.reader kind = do
      let key ← next
      let a ← read
      finish
      return make key a)
    {a : α} (hread : read tokens = .ok (a, [])) :
    Request.ofCommand ⟨kind, key :: tokens⟩ = .ok (make key a) := by
  rw [ofCommand, hkind, bind_of_ok (next_cons _ _), bind_of_ok hread]
  rfl

/-- The first fault behind the key is that of the command. -/
theorem Request.ofCommand_about_error (make : Bytes → α → Request)
    (hkind : Request.reader kind = do
      let key ← next
      let a ← read
      finish
      return make key a)
    {fault : Fault} (hread : read tokens = .error fault) :
    Request.ofCommand ⟨kind, key :: tokens⟩ = .error fault := by
  rw [ofCommand, hkind, bind_of_ok (next_cons _ _), bind_of_error hread]
  rfl

theorem Request.ofCommand_setQuestion {query : Arguments SetQuery} {q : SetQuery}
    (hkind : Request.reader kind = Request.setQuestion query)
    (hquery : query tokens = .ok (q, [])) :
    Request.ofCommand ⟨kind, key :: tokens⟩ = .ok (.askSet key q) :=
  ofCommand_about .askSet hkind hquery

end About

theorem Request.reader_of_ofCommand [GlobEngine] {c : Command} {request : Request}
    (h : Request.ofCommand c = .ok request) :
    ∃ rest, Request.reader c.kind c.args = .ok (request, rest) := by
  rw [ofCommand] at h
  cases hr : reader c.kind c.args with
  | error f => exact absurd h (by simp [hr, Functor.map, Except.map])
  | ok p =>
    rw [hr] at h
    exact ⟨p.2, congrArg (fun r => Except.ok (r, p.2)) (Except.ok.inj h)⟩

open Arguments in
/-- **What a combination reads**: a destination, a number of keys, these keys, and clauses to the
end. -/
theorem Request.combination_eq_ok_iff {mode : StoreMode} {tokens rest : List Bytes}
    {request : Request} :
    combination mode tokens = .ok (request, rest) ↔
      ∃ destination token n keys clauses weights op,
        tokens = destination :: token :: (keys ++ clauses) ∧
        Integral.ofToken? token = some n ∧ 0 < n ∧ keys.length = n.toNat ∧
        readClauses keys.length 0 (List.replicate keys.length (Binary64.ofNat 1)) .default
          clauses = .ok (weights, op) ∧
        request = .combine mode destination (weights.zip keys) op ∧ rest = [] := by
  simp only [combination, bind_eq_ok_iff, next_eq_ok_iff, integer_eq_ok_iff]
  constructor
  · rintro ⟨destination, after, rfl, n, after₁, ⟨token, hn, rfl⟩, h⟩
    by_cases hpos : n ≤ 0
    · -- no number of keys is negative or zero
      simp only [if_pos hpos, bind_eq_ok_iff] at h
      obtain ⟨_, _, hreject, -⟩ := h
      exact absurd hreject (by simp [reject])
    · simp only [if_neg hpos, bind_eq_ok_iff, take_eq_ok_iff, List.reverse_replicate] at h
      obtain ⟨keys, clauses, ⟨hlength, rfl⟩, hclauses⟩ := h
      cases hr : readClauses keys.length 0 (List.replicate keys.length (Binary64.ofNat 1)) .default
        clauses with
      | error f => exact absurd hclauses (by simp [hr, Except.map])
      | ok p =>
        rw [hr] at hclauses
        obtain ⟨rfl, rfl⟩ := Prod.mk.inj (Except.ok.inj hclauses)
        exact ⟨destination, token, n, keys, clauses, p.1, p.2, rfl, hn, by omega, hlength, hr, rfl,
          rfl⟩
  · rintro ⟨destination, token, n, keys, clauses, weights, op, rfl, hn, hpos, hlength, hr, rfl,
      rfl⟩
    refine ⟨destination, _, rfl, n, keys ++ clauses, ⟨token, hn, rfl⟩, ?_⟩
    simp only [if_neg (Int.not_le.2 hpos), bind_eq_ok_iff, take_eq_ok_iff, List.reverse_replicate]
    refine ⟨keys, clauses, ⟨hlength, rfl⟩, ?_⟩
    rw [hr]
    rfl

/-! ### Requests without `nan` -/

/-- No score that the change adds is `nan`. -/
def SetUpdate.Numeric : SetUpdate → Prop
  | add entries => ∀ e ∈ entries, e.1.isNaN = false
  | _ => True

namespace Request

open Arguments

/-- No score that the request adds is `nan`. -/
def Numeric : Request → Prop
  | changeSet _ update => update.Numeric
  | _ => True

theorem yields_setChange {update : Arguments SetUpdate} (h : Yields update SetUpdate.Numeric) :
    Yields (setChange update) Numeric :=
  .bind_any fun _ => h.bind fun _ hu => .bind_any fun _ => .pure hu

theorem yields_setQuestion (query : Arguments SetQuery) : Yields (setQuestion query) Numeric :=
  .bind_any fun _ => .bind_any fun _ => .bind_any fun _ => .pure trivial

theorem yields_hashChange (update : Arguments HashUpdate) : Yields (hashChange update) Numeric :=
  .bind_any fun _ => .bind_any fun _ => .bind_any fun _ => .pure trivial

theorem yields_hashQuestion (query : Arguments HashQuery) : Yields (hashQuestion query) Numeric :=
  .bind_any fun _ => .bind_any fun _ => .bind_any fun _ => .pure trivial

theorem yields_combination (mode : StoreMode) : Yields (combination mode) Numeric := by
  refine .bind_any fun destination => .bind_any fun n => ?_
  by_cases hn : n ≤ 0
  · simp only [if_pos hn]
    exact .bind_any fun _ => .bind_any fun _ => yields_map fun _ => trivial
  · simp only [if_neg hn]
    exact .bind_any fun _ => yields_map fun _ => trivial

/-- The scores of `ZADD` are read from text, and no text spells `nan`. -/
theorem isNaN_of_mem_entries {pairs : List (Bytes × Bytes)} {entries : List (Score × Bytes)}
    (h : pairs.mapM (fun p => (Score.ofToken? p.1).map fun s => (s, p.2)) = some entries) :
    ∀ e ∈ entries, e.1.isNaN = false := by
  induction pairs generalizing entries with
  | nil =>
    have : entries = [] := by simpa using h.symm
    simp [this]
  | cons p r ih =>
    rw [List.mapM_cons, Option.bind_eq_bind, Option.bind_eq_some_iff] at h
    obtain ⟨e, he, h⟩ := h
    rw [Option.bind_eq_bind, Option.bind_eq_some_iff] at h
    obtain ⟨es, hes, h⟩ := h
    obtain ⟨s, hs, rfl⟩ := Option.map_eq_some_iff.1 he
    intro x hx
    rw [← Option.some.inj h] at hx
    rcases List.mem_cons.1 hx with rfl | hx
    · exact Score.isNaN_of_ofToken? hs
    · exact ih hes x hx

theorem yields_reader [GlobEngine] (kind : CommandKind) : Yields (reader kind) Numeric := by
  cases kind with
  | zadd =>
    -- the one command that brings scores along; the others only compute them
    refine yields_setChange
      (.bind_any fun tokens => .bind_any fun pairs => .bind ?_ fun _ h => .pure h)
    exact yields_require fun entries h => isNaN_of_mem_entries h
  | zincrby => exact yields_setChange (.bind_any fun _ => .bind_any fun _ => .pure trivial)
  | zrem => exact yields_setChange (.bind_any fun _ => .pure trivial)
  | zremrangebylex => exact yields_setChange (.bind_any fun _ => .pure trivial)
  | zremrangebyrank => exact yields_setChange (.bind_any fun _ => .bind_any fun _ => .pure trivial)
  | zremrangebyscore => exact yields_setChange (.bind_any fun _ => .pure trivial)
  | zinterstore => exact yields_combination .intersection
  | zunionstore => exact yields_combination .union
  | hdel | hincrby | hincrbyfloat | hmset | hset | hsetnx => exact yields_hashChange _
  | hexists | hget | hgetall | hkeys | hlen | hmget | hvals | hscan => exact yields_hashQuestion _
  | zcard | zcount | zlexcount | zrange | zrangebylex | zrangebyscore | zrank | zrevrange
  | zrevrangebylex | zrevrangebyscore | zrevrank | zscore | zscan => exact yields_setQuestion _

theorem numeric_of_ofCommand [GlobEngine] {c : Command} {request : Request}
    (h : ofCommand c = .ok request) : request.Numeric := by
  obtain ⟨rest, hr⟩ := reader_of_ofCommand h
  exact yields_reader c.kind c.args request rest hr

end Request

end KeyWalk
