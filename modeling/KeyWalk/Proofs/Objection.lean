import KeyWalk.Proofs.ErrorReply
import KeyWalk.Proofs.Locality
import KeyWalk.Proofs.ScanStep

/-!
What a store can object to.

A command is refused while its arguments are read, or the request that it asks is.  A request is
refused for what the store holds, and for nothing else:

* `Store.Objects s request fault`: the reasons, each with the stored value that is to blame,
* `Store.objects_of_answer`: there are no others,
* `Store.answers_of_answer`: what the reply looks like otherwise.

Design notes.  An absent key holds an empty collection of either type, so it is never of the wrong
type; an absent field counts as zero, so it can be incremented.
-/

namespace KeyWalk

/-! ### Replies to changes -/

/-- The shape of the reply to a change. -/
def HashUpdate.Replies : HashUpdate → Reply → Prop
  | delete _, reply | increment .., reply => ∃ n, reply = .integer n
  | incrementFloat .., reply => ∃ v : Score, v.isNaN = false ∧ reply = .value (Score.token v)
  | setMany _, reply => ∃ text, reply = .status text
  | set .., reply | setIfAbsent .., reply => ∃ b, reply = .flag b

/-- The shape of the reply to a change. -/
def SetUpdate.Replies : SetUpdate → Reply → Prop
  | increment .., reply => ∃ v : Score, v.isNaN = false ∧ reply = .value (Score.token v)
  | add _, reply | remove _, reply | removeSelected _, reply => ∃ n, reply = .integer n

theorem HashUpdate.replies_of_run {u : HashUpdate} {h h' : Hash} {reply : Reply}
    (hr : u.run h = (.ok reply, h')) : u.Replies reply := by
  have hres := (Prod.mk.inj hr).1
  -- only the increments can fail, so only their replies are looked for
  cases u with
  | delete | setMany | set | setIfAbsent => exact ⟨_, (Except.ok.inj hres).symm⟩
  | increment field by_ =>
    change (h.increment field by_).1.map Reply.integer = .ok reply at hres
    cases hi : (h.increment field by_).1 with
    | error f => exact absurd hres (by simp [hi, Except.map])
    | ok n =>
      rw [hi] at hres
      exact ⟨n, (Except.ok.inj hres).symm⟩
  | incrementFloat field by_ =>
    change (h.incrementFloat field by_).1.map Reply.value = .ok reply at hres
    rw [Hash.incrementFloat] at hres
    cases hcurrent : h.numberAt field with
    | error f => exact absurd hres (by simp [hcurrent, Except.map])
    | ok current =>
      by_cases hfinite : (current.add by_).isFinite = true
      · simp only [hcurrent, hfinite, if_true] at hres
        exact ⟨_, Binary64.isNaN_of_isFinite hfinite, (Except.ok.inj hres).symm⟩
      · exact absurd hres (by simp [hcurrent, hfinite, Except.map])

theorem SetUpdate.replies_of_run {u : SetUpdate} {z z' : SortedSet} {reply : Reply}
    (hr : u.run z = (.ok reply, z')) : u.Replies reply := by
  have hres := (Prod.mk.inj hr).1
  cases u with
  | add | remove | removeSelected => exact ⟨_, (Except.ok.inj hres).symm⟩
  | increment by_ member =>
    change (z.increment by_ member).1.map (fun v => Reply.value (Score.token v)) = .ok reply at hres
    rw [SortedSet.increment] at hres
    by_cases hnan : (((z.score? member).getD (.zero false)).add by_).isNaN = true
    · exact absurd hres (by simp [hnan, Except.map])
    · simp only [hnan, Bool.false_eq_true, if_false] at hres
      exact ⟨_, by simpa using hnan, (Except.ok.inj hres).symm⟩

/-! ### Values that are no numbers -/

section Values

variable {h : Hash} {field : Bytes} {fault : Fault}

theorem Hash.integerAt_eq_error (hf : h.integerAt field = .error fault) :
    fault = .hashNotInteger ∧
      ∃ text, h.get? field = some text ∧ Integral.ofToken? text = none := by
  rw [integerAt] at hf
  split at hf
  · exact absurd hf (by simp)
  · rename_i text hget
    split at hf
    · exact absurd hf (by simp)
    · rename_i hunreadable
      exact ⟨(Except.error.inj hf).symm, text, hget, hunreadable⟩

theorem Hash.numberAt_eq_error (hf : h.numberAt field = .error fault) :
    fault = .hashNotFloat ∧ ∃ text, h.get? field = some text ∧ Score.ofToken? text = none := by
  rw [numberAt] at hf
  split at hf
  · exact absurd hf (by simp)
  · rename_i text hget
    split at hf
    · exact absurd hf (by simp)
    · rename_i hunreadable
      exact ⟨(Except.error.inj hf).symm, text, hget, hunreadable⟩

end Values

/-! ### Objections -/

/-- The type of a collection. -/
def Collection.type : Collection → CollectionType
  | hash _ => .hash
  | sortedSet _ => .sortedSet

/-- The keys that the request looks at, each with the type that it takes there. -/
def Request.needs : Request → List (Bytes × CollectionType)
  | askHash key _ | changeHash key _ => [(key, .hash)]
  | askSet key _ | changeSet key _ => [(key, .sortedSet)]
  | combine _ _ sources _ => sources.map fun source => (source.2, .sortedSet)

namespace Store

variable {s s' : Store} {request : Request} {fault : Fault}

/-- What a store objects to in a request: a collection of the other type, a value that is not a
number, or a sum that is out of range. -/
inductive Objects (s : Store) : Request → Fault → Prop
  | wrongType {request key t c} (needed : (key, t) ∈ request.needs) (held : s.get? key = some c)
    (other : c.type ≠ t) : Objects s request .wrongType
  | hashNotInteger {key field amount h text} (read : s.read .hash key = .ok h)
    (held : h.get? field = some text) (unreadable : Integral.ofToken? text = none) :
    Objects s (.changeHash key (.increment field amount)) .hashNotInteger
  | overflow {key field amount h n} (read : s.read .hash key = .ok h)
    (held : h.integerAt field = .ok n) (large : Integral.fits (n + amount) = false) :
    Objects s (.changeHash key (.increment field amount)) .overflow
  | hashNotFloat {key field amount h text} (read : s.read .hash key = .ok h)
    (held : h.get? field = some text) (unreadable : Score.ofToken? text = none) :
    Objects s (.changeHash key (.incrementFloat field amount)) .hashNotFloat
  | infinite {key field amount h v} (read : s.read .hash key = .ok h)
    (held : h.numberAt field = .ok v) (sum : (v.add amount).isFinite = false) :
    Objects s (.changeHash key (.incrementFloat field amount)) .notFinite
  | notANumber {key member amount z} (read : s.read .sortedSet key = .ok z)
    (sum : (((z.score? member).getD (.zero false)).add amount).isNaN = true) :
    Objects s (.changeSet key (.increment amount member)) .notFinite

theorem Objects.ofData (h : s.Objects request fault) : fault.OfData := by
  cases h <;> trivial

theorem read_eq_error {α : Type} {shape : Shape α} {key : Bytes}
    (h : s.read shape key = .error fault) :
    fault = .wrongType ∧ ∃ c, s.get? key = some c ∧ shape.unpack? c = none := by
  rw [read] at h
  cases hget : s.get? key with
  | none =>
    rw [hget] at h
    exact absurd h (by simp)
  | some c =>
    rw [hget] at h
    cases hu : shape.unpack? c with
    | none =>
      simp only [hu] at h
      exact ⟨(Except.error.inj h).symm, c, rfl, hu⟩
    | some a =>
      simp only [hu] at h
      exact absurd h (by simp)

theorem Collection.type_ne_hash {c : Collection} (h : Shape.hash.unpack? c = none) :
    c.type ≠ .hash := by
  cases c with
  | hash h' => exact absurd h (by simp [Shape.hash])
  | sortedSet z => simp [Collection.type]

theorem Collection.type_ne_sortedSet {c : Collection} (h : Shape.sortedSet.unpack? c = none) :
    c.type ≠ .sortedSet := by
  cases c with
  | hash h' => simp [Collection.type]
  | sortedSet z => exact absurd h (by simp [Shape.sortedSet])

theorem objects_of_read_hash {key : Bytes} (hneeds : (key, .hash) ∈ request.needs)
    (h : s.read .hash key = .error fault) : s.Objects request fault := by
  obtain ⟨rfl, c, hget, hu⟩ := read_eq_error h
  exact .wrongType hneeds hget (Collection.type_ne_hash hu)

theorem objects_of_read_sortedSet {key : Bytes} (hneeds : (key, .sortedSet) ∈ request.needs)
    (h : s.read .sortedSet key = .error fault) : s.Objects request fault := by
  obtain ⟨rfl, c, hget, hu⟩ := read_eq_error h
  exact .wrongType hneeds hget (Collection.type_ne_sortedSet hu)

/-- A change that fails is an increment. -/
theorem objects_of_run_hash {key : Bytes} {u : HashUpdate} {h h' : Hash}
    (hread : s.read .hash key = .ok h) (hr : u.run h = (.error fault, h')) :
    s.Objects (.changeHash key u) fault := by
  have hres := (Prod.mk.inj hr).1
  cases u with
  | delete | setMany | set | setIfAbsent => exact absurd hres (by simp)
  | increment field by_ =>
    have hfault : (h.increment field by_).1 = .error fault := Except.map_eq_error hres
    rw [Hash.increment] at hfault
    cases hcurrent : h.integerAt field with
    | error f =>
      simp only [hcurrent] at hfault
      obtain rfl : f = fault := Except.error.inj hfault
      obtain ⟨rfl, text, hget, hunreadable⟩ := Hash.integerAt_eq_error hcurrent
      exact .hashNotInteger hread hget hunreadable
    | ok n =>
      by_cases hfits : Integral.fits (n + by_) = true
      · exact absurd hfault (by simp [hcurrent, hfits])
      · simp only [hcurrent, if_neg hfits] at hfault
        obtain rfl : Fault.overflow = fault := Except.error.inj hfault
        exact .overflow hread hcurrent (by simpa using hfits)
  | incrementFloat field by_ =>
    have hfault : (h.incrementFloat field by_).1 = .error fault := Except.map_eq_error hres
    rw [Hash.incrementFloat] at hfault
    cases hcurrent : h.numberAt field with
    | error f =>
      simp only [hcurrent] at hfault
      obtain rfl : f = fault := Except.error.inj hfault
      obtain ⟨rfl, text, hget, hunreadable⟩ := Hash.numberAt_eq_error hcurrent
      exact .hashNotFloat hread hget hunreadable
    | ok v =>
      by_cases hfinite : (v.add by_).isFinite = true
      · exact absurd hfault (by simp [hcurrent, hfinite])
      · simp only [hcurrent, if_neg hfinite] at hfault
        obtain rfl : Fault.notFinite = fault := Except.error.inj hfault
        exact .infinite hread hcurrent (by simpa using hfinite)

theorem objects_of_run_sortedSet {key : Bytes} {u : SetUpdate} {z z' : SortedSet}
    (hread : s.read .sortedSet key = .ok z) (hr : u.run z = (.error fault, z')) :
    s.Objects (.changeSet key u) fault := by
  have hres := (Prod.mk.inj hr).1
  cases u with
  | add | remove | removeSelected => exact absurd hres (by simp)
  | increment by_ member =>
    have hfault : (z.increment by_ member).1 = .error fault := Except.map_eq_error hres
    rw [SortedSet.increment] at hfault
    by_cases hnan : (((z.score? member).getD (.zero false)).add by_).isNaN = true
    · simp only [hnan, if_true] at hfault
      obtain rfl : Fault.notFinite = fault := Except.error.inj hfault
      exact .notANumber hread hnan
    · exact absurd hfault (by simp [hnan])

/-- A source that is a hash. -/
theorem objects_of_readSources {sources : List (Score × Bytes)}
    (hneeds : ∀ source ∈ sources, (source.2, .sortedSet) ∈ request.needs)
    (h : s.readSources sources = .error fault) : s.Objects request fault := by
  -- the sources are read in order, and the first one that cannot be read is to blame
  induction sources with
  | nil => exact absurd h (by simp [readSources, pure, Except.pure])
  | cons source r ih =>
    obtain ⟨weight, key⟩ := source
    rw [readSources_cons] at h
    cases hread : s.read .sortedSet key with
    | error f =>
      rw [hread] at h
      obtain rfl : f = fault := Except.error.inj h
      exact objects_of_read_sortedSet (hneeds _ List.mem_cons_self) hread
    | ok z =>
      cases hrest : s.readSources r with
      | error f =>
        rw [hread, hrest] at h
        obtain rfl : f = fault := Except.error.inj h
        exact ih (fun source hs => hneeds source (List.mem_cons_of_mem _ hs)) hrest
      | ok weighted =>
        rw [hread, hrest] at h
        exact absurd h (by simp [bind, Except.bind, pure, Except.pure])

/-- A change under a key fails where the key cannot be read, or in the change itself. -/
theorem write_eq_error {α β : Type} {shape : Shape α} {key : Bytes}
    {change : α → Except Fault β × α} (hclean : Clean change)
    (h : (s.write shape key change).1 = .error fault) :
    s.read shape key = .error fault ∨
      ∃ a a', s.read shape key = .ok a ∧ change a = (.error fault, a') := by
  rw [write_eq s shape key hclean] at h
  cases hread : s.read shape key with
  | error f =>
    rw [hread] at h
    exact .inl (congrArg Except.error (Except.error.inj h))
  | ok a =>
    rw [hread] at h
    rcases hc : change a with ⟨res, a'⟩
    cases res with
    | ok r => exact absurd h (by simp [hc])
    | error f =>
      simp only [hc] at h
      obtain rfl : f = fault := Except.error.inj h
      exact .inr ⟨a, a', rfl, hc⟩

/-- **A request is refused for what the store holds, and for nothing else.** -/
theorem objects_of_answer (h : (s.answer request).1 = .error fault) : s.Objects request fault := by
  -- a question fails at its key, and a change at its key or in itself
  cases request with
  | askHash key query =>
    exact objects_of_read_hash List.mem_cons_self (Except.map_eq_error h)
  | askSet key query =>
    exact objects_of_read_sortedSet List.mem_cons_self (Except.map_eq_error h)
  | changeHash key update =>
    rcases write_eq_error update.run_clean h with hread | ⟨a, a', hread, hrun⟩
    · exact objects_of_read_hash List.mem_cons_self hread
    · exact objects_of_run_hash hread hrun
  | changeSet key update =>
    rcases write_eq_error update.run_clean h with hread | ⟨a, a', hread, hrun⟩
    · exact objects_of_read_sortedSet List.mem_cons_self hread
    · exact objects_of_run_sortedSet hread hrun
  | combine mode destination sources op =>
    rw [answer] at h
    cases hread : s.readSources sources with
    | ok weighted => exact absurd h (by simp [hread])
    | error f =>
      simp only [hread] at h
      obtain rfl : f = fault := Except.error.inj h
      exact objects_of_readSources (fun source hs => List.mem_map.2 ⟨source, hs, rfl⟩) hread

/-! ### Answers -/

/-- What the reply to a request that is not refused looks like. -/
def Answers (s : Store) : Request → Reply → Prop
  | .askHash key query, reply => ∃ h, s.read .hash key = .ok h ∧ query.answer h = reply
  | .askSet key query, reply => ∃ z, s.read .sortedSet key = .ok z ∧ query.answer z = reply
  | .changeHash _ update, reply => update.Replies reply
  | .changeSet _ update, reply => update.Replies reply
  | .combine .., reply => ∃ n, reply = .integer n

theorem answers_of_answer {reply : Reply} (h : (s.answer request).1 = .ok reply) :
    s.Answers request reply := by
  cases request with
  | askHash key query =>
    change (s.read .hash key).map query.answer = .ok reply at h
    cases hread : s.read .hash key with
    | error f => exact absurd h (by simp [hread, Except.map])
    | ok a =>
      rw [hread] at h
      exact ⟨a, hread, Except.ok.inj h⟩
  | askSet key query =>
    change (s.read .sortedSet key).map query.answer = .ok reply at h
    cases hread : s.read .sortedSet key with
    | error f => exact absurd h (by simp [hread, Except.map])
    | ok a =>
      rw [hread] at h
      exact ⟨a, hread, Except.ok.inj h⟩
  | changeHash key update =>
    rw [answer] at h
    rcases write_cases s .hash key update.run_clean with ⟨f, hw⟩ | ⟨a, r, a', -, hrun, hw⟩
    · exact absurd h (by simp [hw])
    · rw [hw] at h
      exact Except.ok.inj h ▸ HashUpdate.replies_of_run hrun
  | changeSet key update =>
    rw [answer] at h
    rcases write_cases s .sortedSet key update.run_clean with ⟨f, hw⟩ | ⟨a, r, a', -, hrun, hw⟩
    · exact absurd h (by simp [hw])
    · rw [hw] at h
      exact Except.ok.inj h ▸ SetUpdate.replies_of_run hrun
  | combine mode destination sources op =>
    rw [answer] at h
    cases hread : s.readSources sources with
    | error f => exact absurd h (by simp [hread])
    | ok weighted =>
      simp only [hread] at h
      exact ⟨_, (Except.ok.inj h).symm⟩

end Store

end KeyWalk
