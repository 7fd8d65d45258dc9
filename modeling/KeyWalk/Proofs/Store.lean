import KeyWalk.Glob
import KeyWalk.Proofs.ByteMap
import KeyWalk.Store

/-!
What the operations of a store do.

* `get?_put`, `get?_delete`: what is under a key afterwards,
* `read_eq_ok_iff`: reading a shape finds a collection of that shape, or an absent key,
* `write_eq`, `write_cases`: all that a change under a key can do, provided that it fails cleanly,
* `answer_cases`: all that a request can do; the changes of hashes and sorted sets do fail cleanly
  (`HashUpdate.run_clean`, `SetUpdate.run_clean`),
* `apply_cases`: all that a command can do.  In particular a refused command changes nothing.
-/

namespace KeyWalk

/-! ### Changes fail cleanly -/

/-- A change that fails has not touched the collection. -/
def Clean {α β : Type} (change : α → Except Fault β × α) : Prop :=
  ∀ a f a', change a = (.error f, a') → a' = a

theorem Hash.increment_error {h h' : Hash} {field : Bytes} {by_ : Int} {f : Fault}
    (hr : h.increment field by_ = (.error f, h')) : h' = h := by
  rw [Hash.increment] at hr
  split at hr
  · exact (Prod.mk.inj hr).2.symm
  · simp only at hr
    split at hr
    · exact absurd (Prod.mk.inj hr).1 (by simp)
    · exact (Prod.mk.inj hr).2.symm

theorem Hash.incrementFloat_error {h h' : Hash} {field : Bytes} {by_ : Score} {f : Fault}
    (hr : h.incrementFloat field by_ = (.error f, h')) : h' = h := by
  rw [Hash.incrementFloat] at hr
  split at hr
  · exact (Prod.mk.inj hr).2.symm
  · simp only at hr
    split at hr
    · exact absurd (Prod.mk.inj hr).1 (by simp)
    · exact (Prod.mk.inj hr).2.symm

theorem SortedSet.increment_error {z z' : SortedSet} {by_ : Score} {member : Bytes} {f : Fault}
    (hr : z.increment by_ member = (.error f, z')) : z' = z := by
  simp only [SortedSet.increment] at hr
  split at hr
  · exact (Prod.mk.inj hr).2.symm
  · exact absurd (Prod.mk.inj hr).1 (by simp)

theorem Except.map_eq_error {α β : Type} {g : α → β} {x : Except Fault α} {f : Fault}
    (h : x.map g = .error f) : x = .error f := by
  cases x with
  | error e => exact congrArg Except.error (Except.error.inj h)
  | ok a => exact absurd h (by simp [Except.map])

theorem HashUpdate.run_clean (u : HashUpdate) : Clean u.run := by
  intro h f h' hr
  cases u with
  | increment field by_ =>
    obtain ⟨hres, hh⟩ := Prod.mk.inj hr
    exact Hash.increment_error (Prod.ext (Except.map_eq_error hres) hh)
  | incrementFloat field by_ =>
    obtain ⟨hres, hh⟩ := Prod.mk.inj hr
    exact Hash.incrementFloat_error (Prod.ext (Except.map_eq_error hres) hh)
  | delete => exact absurd (Prod.mk.inj hr).1 (by simp)
  | setMany => exact absurd (Prod.mk.inj hr).1 (by simp)
  | set => exact absurd (Prod.mk.inj hr).1 (by simp)
  | setIfAbsent => exact absurd (Prod.mk.inj hr).1 (by simp)

theorem SetUpdate.run_clean (u : SetUpdate) : Clean u.run := by
  intro z f z' hr
  cases u with
  | increment by_ member =>
    obtain ⟨hres, hz⟩ := Prod.mk.inj hr
    exact SortedSet.increment_error (Prod.ext (Except.map_eq_error hres) hz)
  | add => exact absurd (Prod.mk.inj hr).1 (by simp)
  | remove => exact absurd (Prod.mk.inj hr).1 (by simp)
  | removeSelected => exact absurd (Prod.mk.inj hr).1 (by simp)

/-! ### Answers are no errors -/

/-- The reply says that a command was refused. -/
def Reply.IsError (r : Reply) : Prop := ∃ text, r = .error text

theorem HashQuery.not_isError_answer (h : Hash) (q : HashQuery) : ¬(q.answer h).IsError := by
  rintro ⟨text, ht⟩
  cases q <;> exact absurd ht (by simp [answer, Reply.flag, Reply.count, ScanWindow.reply])

theorem SetQuery.not_isError_answer (z : SortedSet) (q : SetQuery) : ¬(q.answer z).IsError := by
  rintro ⟨text, ht⟩
  cases q with
  | rank member reverse =>
    simp only [answer] at ht
    split at ht <;> exact absurd ht (by simp [Reply.count, Reply.nil])
  | cardinality => exact absurd ht (by simp [answer, Reply.count])
  | count => exact absurd ht (by simp [answer, Reply.count])
  | range => exact absurd ht (by simp [answer, Reply.members])
  | score => exact absurd ht (by simp [answer])
  | scan => exact absurd ht (by simp [answer, ScanWindow.reply])

theorem HashUpdate.not_isError_run {h h' : Hash} {u : HashUpdate} {r : Reply}
    (hr : u.run h = (.ok r, h')) : ¬r.IsError := by
  rintro ⟨text, rfl⟩
  have hres := (Prod.mk.inj hr).1
  cases u with
  | increment field by_ =>
    cases hi : (h.increment field by_).1 <;> simp [hi, Except.map] at hres
  | incrementFloat field by_ =>
    cases hi : (h.incrementFloat field by_).1 <;> simp [hi, Except.map, Reply.value] at hres
  | delete => simp [Reply.count] at hres
  | setMany => simp at hres
  | set => simp [Reply.flag] at hres
  | setIfAbsent => simp [Reply.flag] at hres

theorem SetUpdate.not_isError_run {z z' : SortedSet} {u : SetUpdate} {r : Reply}
    (hr : u.run z = (.ok r, z')) : ¬r.IsError := by
  rintro ⟨text, rfl⟩
  have hres := (Prod.mk.inj hr).1
  cases u with
  | increment by_ member =>
    cases hi : (z.increment by_ member).1 <;> simp [hi, Except.map, Reply.value] at hres
  | add => simp [Reply.count] at hres
  | remove => simp [Reply.count] at hres
  | removeSelected => simp [Reply.count] at hres

namespace Store

variable {α β : Type} {s s' : Store} {shape : Shape α} {key : Bytes}

/-! ### Look-ups -/

theorem ext_get? (h : ∀ key, s.get? key = s'.get? key) : s = s' := by
  cases s
  cases s'
  exact congrArg Store.mk (ByteMap.ext_get? h)

theorem get?_empty (key : Bytes) : empty.get? key = none := rfl

theorem get?_put (s : Store) (key : Bytes) (c : Collection) (key' : Bytes) :
    (s.put key c).get? key' = if key = key' then some c else s.get? key' :=
  ByteMap.get?_insert s.collections key key' c

theorem get?_delete (s : Store) (key key' : Bytes) :
    (s.delete key).get? key' = if key = key' then none else s.get? key' :=
  ByteMap.get?_erase s.collections key key'

theorem put_of_get? {c : Collection} (h : s.get? key = some c) : s.put key c = s :=
  congrArg Store.mk (ByteMap.insert_of_get? h)

theorem delete_of_get?_eq_none (h : s.get? key = none) : s.delete key = s :=
  congrArg Store.mk (ByteMap.erase_of_get?_eq_none h)

/-! ### One collection -/

theorem read_eq_ok_iff {a : α} :
    s.read shape key = .ok a ↔
      s.get? key = none ∧ a = shape.empty ∨ s.get? key = some (shape.pack a) := by
  rw [read]
  cases s.get? key with
  | none => simp [eq_comm]
  | some c =>
    simp only [reduceCtorEq, false_and, false_or, Option.some.injEq,
      ← shape.unpack?_eq_some_iff]
    cases shape.unpack? c <;> simp

/-- A collection that a change left behind: an empty one goes with its key. -/
def putBack (s : Store) (shape : Shape α) (key : Bytes) (a : α) : Store :=
  if shape.isEmpty a then s.delete key else s.put key (shape.pack a)

/-- A change under a key that fails cleanly: where the key can be read and the change succeeds, what
it left is put back. -/
theorem write_eq (s : Store) (shape : Shape α) (key : Bytes)
    {change : α → Except Fault β × α} (hclean : Clean change) :
    s.write shape key change =
      match s.read shape key with
      | .error f => (.error f, s)
      | .ok a =>
        match change a with
        | (.error f, _) => (.error f, s)
        | (.ok r, a') => (.ok r, s.putBack shape key a') := by
  unfold write
  cases hget : s.get? key with
  | none =>
    have hread : s.read shape key = .ok shape.empty := read_eq_ok_iff.2 (.inl ⟨hget, rfl⟩)
    rw [hread]
    rcases hc : change shape.empty with ⟨res, a'⟩
    cases res with
    | error f => simp only [hc]
    | ok r =>
      -- an empty result leaves the key absent, which deleting it does too
      simp only [hc, putBack]
      rw [delete_of_get?_eq_none hget]
  | some c =>
    cases hu : shape.unpack? c with
    | none =>
      have hread : s.read shape key = .error .wrongType := by
        rw [read, hget]
        simp only [hu]
      rw [hread]
      simp only [hu]
    | some a =>
      have hpack : c = shape.pack a := (shape.unpack?_eq_some_iff c a).1 hu
      have hread : s.read shape key = .ok a := read_eq_ok_iff.2 (.inr (hpack ▸ hget))
      rw [hread]
      rcases hc : change a with ⟨res, a'⟩
      cases res with
      | error f =>
        -- what a failing change leaves is what was there
        simp only [hu, hc]
        rw [hclean a f a' hc, put_of_get? (hpack ▸ hget)]
      | ok r => simp only [hu, hc, putBack]

/-- **All that a change under a key can do**, if it fails cleanly: it is refused and nothing
changes, or it succeeds and what it left is put back. -/
theorem write_cases (s : Store) (shape : Shape α) (key : Bytes)
    {change : α → Except Fault β × α} (hclean : Clean change) :
    (∃ f, s.write shape key change = (.error f, s)) ∨
      ∃ a r a', s.read shape key = .ok a ∧ change a = (.ok r, a') ∧
        s.write shape key change = (.ok r, s.putBack shape key a') := by
  rw [write_eq s shape key hclean]
  cases hread : s.read shape key with
  | error f => exact .inl ⟨f, rfl⟩
  | ok a =>
    rcases hc : change a with ⟨res, a'⟩
    cases res with
    | error f => exact .inl ⟨f, by simp only [hc]⟩
    | ok r => exact .inr ⟨a, r, a', rfl, hc, by simp only [hc]⟩

theorem readSources_cons (s : Store) (weight : Score) (key : Bytes)
    (sources : List (Score × Bytes)) :
    s.readSources ((weight, key) :: sources) = do
      let z ← s.read .sortedSet key
      let weighted ← s.readSources sources
      return (weight, z.scores) :: weighted := by
  rw [readSources, List.mapM_cons]
  show (s.read .sortedSet key >>= fun z => Except.ok (weight, z.scores)) >>= _ = _
  cases s.read .sortedSet key <;> rfl

/-! ### Requests and commands -/

/-- What a request that succeeds does to the store. -/
inductive Effect (s : Store) : Request → Store → Prop
  | askHash {key query} : Effect s (.askHash key query) s
  | askSet {key query} : Effect s (.askSet key query) s
  | changeHash {key update h r h'} (read : s.read .hash key = .ok h)
    (run : update.run h = (.ok r, h')) :
    Effect s (.changeHash key update) (s.putBack .hash key h')
  | changeSet {key update z r z'} (read : s.read .sortedSet key = .ok z)
    (run : update.run z = (.ok r, z')) :
    Effect s (.changeSet key update) (s.putBack .sortedSet key z')
  | combine {mode destination sources op weighted} (read : s.readSources sources = .ok weighted) :
    Effect s (.combine mode destination sources op)
      (s.putSet destination (.ofScores (aggregate mode op weighted)))

/-- **All that a request can do**: it is refused and nothing changes, or it has its effect and is
not answered by an error. -/
theorem answer_cases (s : Store) (request : Request) :
    (∃ f, s.answer request = (.error f, s)) ∨
      ∃ reply s', s.answer request = (.ok reply, s') ∧ ¬reply.IsError ∧ s.Effect request s' := by
  cases request with
  | askHash key query =>
    cases hr : s.read .hash key with
    | error f => exact .inl ⟨f, by simp only [answer, hr]; rfl⟩
    | ok h =>
      exact .inr ⟨query.answer h, s, by simp only [answer, hr]; rfl, query.not_isError_answer h,
        .askHash⟩
  | askSet key query =>
    cases hr : s.read .sortedSet key with
    | error f => exact .inl ⟨f, by simp only [answer, hr]; rfl⟩
    | ok z =>
      exact .inr ⟨query.answer z, s, by simp only [answer, hr]; rfl, query.not_isError_answer z,
        .askSet⟩
  | changeHash key update =>
    rcases write_cases s .hash key update.run_clean with
      ⟨f, hf⟩ | ⟨h, r, h', hread, hrun, hw⟩
    · exact .inl ⟨f, hf⟩
    · exact .inr ⟨r, _, hw, HashUpdate.not_isError_run hrun, .changeHash hread hrun⟩
  | changeSet key update =>
    rcases write_cases s .sortedSet key update.run_clean with
      ⟨f, hf⟩ | ⟨z, r, z', hread, hrun, hw⟩
    · exact .inl ⟨f, hf⟩
    · exact .inr ⟨r, _, hw, SetUpdate.not_isError_run hrun, .changeSet hread hrun⟩
  | combine mode destination sources op =>
    cases hr : s.readSources sources with
    | error f => exact .inl ⟨f, by simp only [answer, hr]⟩
    | ok weighted =>
      refine .inr ⟨_, _, by simp only [answer, hr]; rfl, ?_, .combine hr⟩
      rintro ⟨text, h⟩
      exact absurd h (by simp [Reply.count])

/-- The reply to a command whose request was answered. -/
def replyTo (kind : CommandKind) : Except Fault Reply → Reply
  | .error f => .error (f.message kind)
  | .ok reply => reply

theorem apply_of_ofCommand [GlobEngine] {c : Command} {request : Request}
    (h : Request.ofCommand c = .ok request) :
    s.apply c = (replyTo c.kind (s.answer request).1, (s.answer request).2) := by
  simp only [apply, h]
  rcases s.answer request with ⟨answer, s₁⟩
  cases answer with
  | error f => rfl
  | ok reply => rfl

/-- **All that a command can do.** -/
theorem apply_cases [GlobEngine] (s : Store) (c : Command) :
    (∃ text, s.apply c = (.error text, s)) ∨
      ∃ request reply s', Request.ofCommand c = .ok request ∧ s.apply c = (reply, s') ∧
        ¬reply.IsError ∧ s.Effect request s' := by
  cases hq : Request.ofCommand c with
  | error f => exact .inl ⟨f.message c.kind, by simp only [apply, hq]⟩
  | ok request =>
    rcases s.answer_cases request with ⟨f, hf⟩ | ⟨reply, s', hr, hne, heffect⟩
    · exact .inl ⟨f.message c.kind, by simp only [apply, hq, hf]⟩
    · exact .inr ⟨request, reply, s', rfl, by simp only [apply, hq, hr], hne, heffect⟩

/-- **A refused command changes nothing**, wherever it failed: in its arguments, at the type of a
collection, at a later source of a combination or in the change itself. -/
theorem apply_refused [GlobEngine] {c : Command} (h : (s.apply c).1.IsError) :
    (s.apply c).2 = s := by
  rcases s.apply_cases c with ⟨text, ha⟩ | ⟨request, reply, s', -, ha, hne, -⟩
  · rw [ha]
  · rw [ha] at h
    exact absurd h hne

attribute [local instance] Glob.engine

/-- The sum does not fit into 64 bits: the greatest value in `f` and one more. -/
theorem apply_refused_overflow :
    let s := empty.put [0x68]
      (.hash (ByteMap.empty.insert [0x66] (Integral.token Integral.greatest)))
    let c : Command := ⟨.hincrby, [[0x68], [0x66], [0x31]]⟩
    (s.apply c).1.IsError ∧ (s.apply c).2 = s :=
  ⟨⟨_, rfl⟩, apply_refused ⟨_, rfl⟩⟩

end Store

end KeyWalk
