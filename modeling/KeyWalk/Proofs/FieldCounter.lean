import KeyWalk.Proofs.PointUpdate

/-!
Counters in fields.

A field of a hash counts if it holds the text of an integer, or if it is absent, which counts as
zero.  Increments go through that text: each one reads it, adds to the number and writes the sum.

* `Command.amount?`: the increments of a field,
* `Command.Spares`: commands that have nothing to do with the field,
* `Store.Counter`: what the field counts, as `HGET` tells it,
* `Store.Counter.increment`, `Store.Counter.spared`: one command,
* `Store.Counter.run`: the counter after a run is the sum of the increments that were not refused,
* `Store.counter_of_run`: which increments are refused, and what the others reply.

Design notes.  A refused increment changes nothing, so a run may go on behind it.  The bounds are
those of the sum, which is taken without bounds.
-/

namespace KeyWalk

/-! ### Hashes -/

theorem Hash.integerAt_eq_ok_iff {h : Hash} {field : Bytes} {n : Int} :
    h.integerAt field = .ok n ↔ (h.get? field).elim (some 0) Integral.ofToken? = some n := by
  rw [integerAt]
  cases h.get? field with
  | none => simp
  | some text =>
    show _ ↔ Integral.ofToken? text = some n
    cases hread : Integral.ofToken? text <;> simp [hread]

/-- The fields that a change of the hash is about. -/
def HashUpdate.names : HashUpdate → List Bytes
  | delete fields => fields
  | increment field _ | incrementFloat field _ | set field _ | setIfAbsent field _ => [field]
  | setMany pairs => pairs.map (·.1)

/-- **A change of a hash keeps what is in all other fields.** -/
theorem HashUpdate.get?_run {update : HashUpdate} {h : Hash} {field : Bytes}
    (hfield : field ∉ update.names) : (update.run h).2.get? field = h.get? field := by
  have hne : ∀ {name : Bytes}, update.names = [name] → name ≠ field := by
    rintro name hnames rfl
    exact hfield (hnames ▸ List.mem_singleton_self name)
  cases update with
  | delete fields =>
    have hnames : (fields.map fun f => (f, (none : Option Bytes))).map (·.1) = fields :=
      List.map_map.trans (List.map_id fields)
    refine (h.get?_deleteAll fields field).trans (lastChange_of_not_mem ?_)
    rwa [hnames]
  | setMany pairs =>
    refine (h.get?_setMany pairs field).trans (lastChange_of_not_mem ?_)
    rwa [List.map_map]
  | increment name by_ =>
    show (h.increment name by_).2.get? field = _
    rcases hr : h.increment name by_ with ⟨f | n, h'⟩
    · exact congrArg (·.get? field) (Hash.increment_error hr)
    · rw [Hash.increment_eq_ok hr]
      exact (ByteMap.get?_insert h name field _).trans (if_neg (hne rfl))
  | incrementFloat name by_ =>
    show (h.incrementFloat name by_).2.get? field = _
    rcases hr : h.incrementFloat name by_ with ⟨f | text, h'⟩
    · exact congrArg (·.get? field) (Hash.incrementFloat_error hr)
    · rw [Hash.incrementFloat_eq_ok hr]
      exact (ByteMap.get?_insert h name field _).trans (if_neg (hne rfl))
  | set name value => exact (ByteMap.get?_insert h name field value).trans (if_neg (hne rfl))
  | setIfAbsent name value =>
    exact (h.get?_setIfAbsent name value field).trans (if_neg (hne rfl))

/-! ### Commands -/

namespace Command

variable {key field : Bytes} {c : Command} {amount : Int}

/-- What a command adds to the field, `none` if it is no increment of the field. -/
def amount? (key field : Bytes) (c : Command) : Option Int :=
  match c.kind, c.args with
  | .hincrby, [k, f, token] => if k = key ∧ f = field then Integral.ofToken? token else none
  | _, _ => none

theorem amount?_eq_some_iff :
    c.amount? key field = some amount ↔
      ∃ token, c = ⟨.hincrby, [key, field, token]⟩ ∧ Integral.ofToken? token = some amount := by
  constructor
  · intro h
    rw [amount?] at h
    split at h
    · rename_i k f token hkind hargs
      obtain ⟨kind, args⟩ := c
      cases hkind
      cases hargs
      by_cases hsame : k = key ∧ f = field
      · rw [if_pos hsame] at h
        obtain ⟨rfl, rfl⟩ := hsame
        exact ⟨token, rfl, h⟩
      · rw [if_neg hsame] at h
        cases h
    · cases h
  · rintro ⟨token, rfl, htoken⟩
    exact (if_pos ⟨rfl, rfl⟩).trans htoken

/-- The command has nothing to do with the field. -/
inductive Spares [GlobEngine] (key field : Bytes) (c : Command) : Prop where
  | elsewhere (h : c.args.head? ≠ some key)
  | misread {fault : Fault} (h : Request.ofCommand c = .error fault)
  | asksHash {query : HashQuery} (h : Request.ofCommand c = .ok (.askHash key query))
  | asksSet {query : SetQuery} (h : Request.ofCommand c = .ok (.askSet key query))
  | changes {update : HashUpdate} (h : Request.ofCommand c = .ok (.changeHash key update))
      (hfield : field ∉ update.names)

theorem ofCommand_of_amount [GlobEngine] (h : c.amount? key field = some amount) :
    Request.ofCommand c = .ok (.changeHash key (.increment field amount)) := by
  obtain ⟨token, rfl, htoken⟩ := amount?_eq_some_iff.1 h
  refine Request.ofCommand_about .changeHash rfl ?_
  rw [Arguments.bind_of_ok (Arguments.next_cons _ _),
    Arguments.bind_of_ok (Arguments.integer_eq_ok_iff.2 ⟨token, htoken, rfl⟩)]
  rfl

end Command

/-! ### Stores -/

namespace Store

section Engine

variable [GlobEngine] {s : Store} {key field : Bytes} {n amount : Int} {c : Command}
  {cs : List Command}

/-- The field, asked for, is the text of the integer, or it is absent and the integer is zero. -/
def Counter (s : Store) (key field : Bytes) (n : Int) : Prop :=
  ∃ found, s.apply ⟨.hget, [key, field]⟩ = (.bulk found, s) ∧
    found.elim (some 0) Integral.ofToken? = some n

theorem apply_hget {h : Hash} (field : Bytes) (hread : s.read .hash key = .ok h) :
    s.apply ⟨.hget, [key, field]⟩ = (.bulk (h.get? field), s) :=
  apply_askHash (.get field) rfl hread

/-- Only a hash is asked for a field. -/
theorem exists_read_of_hget {found : Option Bytes}
    (hget : s.apply ⟨.hget, [key, field]⟩ = (.bulk found, s)) :
    ∃ h, s.read .hash key = .ok h ∧ h.get? field = found := by
  cases hread : s.read .hash key with
  | error f =>
    -- a collection of the other type is refused, and a refusal is no bulk reply
    have hrequest : Request.ofCommand ⟨.hget, [key, field]⟩ = .ok (.askHash key (.get field)) := rfl
    rw [apply_of_ofCommand hrequest, answer, hread] at hget
    cases hget
  | ok h =>
    rw [apply_hget field hread] at hget
    cases hget
    exact ⟨h, rfl, rfl⟩

theorem counter_iff :
    s.Counter key field n ↔ ∃ h, s.read .hash key = .ok h ∧ h.integerAt field = .ok n := by
  constructor
  · rintro ⟨found, hget, hfound⟩
    obtain ⟨h, hread, rfl⟩ := exists_read_of_hget hget
    exact ⟨h, hread, Hash.integerAt_eq_ok_iff.2 hfound⟩
  · rintro ⟨h, hread, hinteger⟩
    exact ⟨_, apply_hget field hread, Hash.integerAt_eq_ok_iff.1 hinteger⟩

namespace Counter

theorem of_read {s' : Store} (h : s.Counter key field n)
    (hread : s'.read .hash key = s.read .hash key) : s'.Counter key field n := by
  obtain ⟨m, hm, hinteger⟩ := counter_iff.1 h
  exact counter_iff.2 ⟨m, hread.trans hm, hinteger⟩

/-- **Commands that spare the field** leave the counter as it is. -/
theorem spared (h : s.Counter key field n) (hc : c.Spares key field) :
    (s.apply c).2.Counter key field n := by
  cases hc with
  | elsewhere hhead => exact h.of_read (read_congr .hash (s.apply_frame c hhead))
  | misread hq =>
    rw [apply, hq]
    exact h
  | asksHash hq | asksSet hq =>
    rw [apply_of_ofCommand hq]
    exact h
  | changes hq hfield =>
    rw [apply_of_ofCommand hq, answer]
    rcases s.write_cases .hash key (HashUpdate.run_clean _) with
      ⟨f, hwrite⟩ | ⟨m, r, m', hread, hrun, hwrite⟩
    · rw [hwrite]
      exact h
    · obtain ⟨_, hread₀, hinteger⟩ := counter_iff.1 h
      cases hread₀.symm.trans hread
      -- the field has what it had, also if the hash lost its last field and went with its key
      have hkept := HashUpdate.get?_run (h := m) hfield
      rw [hrun] at hkept
      rw [hwrite]
      refine counter_iff.2 ⟨m', s.read_putBack_hash key m', ?_⟩
      rw [Hash.integerAt_eq_ok_iff, hkept]
      exact Hash.integerAt_eq_ok_iff.1 hinteger

/-- **An increment** is refused if the sum does not fit, and else it replies with the sum and leaves
its decimal form in the field. -/
theorem increment (h : s.Counter key field n) (hc : c.amount? key field = some amount) :
    (Integral.fits (n + amount) = false ∧
        s.apply c = (.error "ERR increment or decrement would overflow", s)) ∨
      Integral.fits (n + amount) = true ∧ (s.apply c).1 = .integer (n + amount) ∧
        (s.apply c).2.apply ⟨.hget, [key, field]⟩ =
          (.value (Integral.token (n + amount)), (s.apply c).2) := by
  obtain ⟨m, hread, hinteger⟩ := counter_iff.1 h
  have hkind : c.kind = .hincrby := by
    obtain ⟨token, rfl, -⟩ := Command.amount?_eq_some_iff.1 hc
    rfl
  rw [apply_of_ofCommand (Command.ofCommand_of_amount hc), hkind, answer,
    s.write_eq .hash key (HashUpdate.run_clean _), hread]
  -- the hash can be read and the field holds an integer, so the sum alone decides
  cases hfits : Integral.fits (n + amount) with
  | false =>
    have hrun : HashUpdate.run m (.increment field amount) = (.error .overflow, m) := by
      simp only [HashUpdate.run, Hash.increment, hinteger, hfits]
      rfl
    simp only [hrun]
    exact .inl ⟨trivial, rfl⟩
  | true =>
    have hrun : HashUpdate.run m (.increment field amount) =
        (.ok (.integer (n + amount)), m.insert field (Integral.token (n + amount))) := by
      simp only [HashUpdate.run, Hash.increment, hinteger, hfits]
      rfl
    simp only [hrun]
    refine .inr ⟨trivial, rfl, ?_⟩
    rw [apply_hget field (s.read_putBack_hash key _), ByteMap.get?_insert, if_pos rfl]
    rfl

/-- A sum that fits is counted by its decimal form. -/
theorem of_token (hfits : Integral.fits n = true)
    (hget : s.apply ⟨.hget, [key, field]⟩ = (.value (Integral.token n), s)) :
    s.Counter key field n := ⟨_, hget, Integral.ofToken?_token hfits⟩

end Counter

/-! ### Runs -/

/-- What a command adds to the field, nothing if it is refused. -/
def gain (key field : Bytes) (s : Store) (c : Command) : Int :=
  match (s.apply c).1 with
  | .error _ => 0
  | _ => (c.amount? key field).getD 0

/-- What some commands add to the field, one after the other. -/
def gained (key field : Bytes) : Store → List Command → Int
  | _, [] => 0
  | s, c :: cs => gain key field s c + gained key field (s.apply c).2 cs

/-- One command of a run adds what it gains. -/
theorem Counter.step (h : s.Counter key field n)
    (hc : (c.amount? key field).isSome ∨ c.Spares key field) :
    (s.apply c).2.Counter key field (n + gain key field s c) := by
  -- a command gains nothing if it is no increment, and an increment if it is refused
  cases hamount : c.amount? key field with
  | none =>
    rw [hamount] at hc
    have hspares : c.Spares key field := hc.resolve_left Bool.false_ne_true
    have hgain : gain key field s c = 0 := by
      rw [gain, hamount]
      split <;> rfl
    rw [hgain, Int.add_zero]
    exact h.spared hspares
  | some amount =>
    rcases h.increment hamount with ⟨-, hrefused⟩ | ⟨hfits, hreply, hget⟩
    · rw [gain, hrefused]
      exact (Int.add_zero n).symm ▸ h
    · rw [gain, hreply, hamount]
      exact .of_token hfits hget

/-- **The counter after a run** is what it was and all that was gained. -/
theorem Counter.run (h : s.Counter key field n)
    (hcs : ∀ c ∈ cs, (c.amount? key field).isSome ∨ c.Spares key field) :
    (s.run (cs.map .apply)).Counter key field (n + gained key field s cs) := by
  -- what the first command gained is counted before the others
  induction cs generalizing s n with
  | nil =>
    rw [gained, Int.add_zero]
    exact h
  | cons c cs ih =>
    have hstep := h.step (hcs c List.mem_cons_self)
    rw [gained, ← Int.add_assoc]
    exact ih hstep fun d hd => hcs d (List.mem_cons_of_mem c hd)

/-- **Counters in fields.**  Over increments of a field, with any amounts, between commands that
have nothing to do with it, the field counts what it counted at first and the amounts of those
increments that were not refused.  The next increment is refused just if the sum, taken without
bounds, does not fit into 64 bits with a sign; then it changes nothing.  Else it replies with the
sum, which the field holds in decimal and any increment behind it reads back. -/
theorem counter_of_run (h : s.Counter key field n)
    (hcs : ∀ c ∈ cs, (c.amount? key field).isSome ∨ c.Spares key field) :
    let after := s.run (cs.map .apply)
    let current := n + gained key field s cs
    after.Counter key field current ∧
      ∀ c amount, c.amount? key field = some amount →
        let sum := current + amount
        let next := (after.apply c).2
        ((after.apply c).1.IsError ↔ sum < Integral.least ∨ Integral.greatest < sum) ∧
        ((after.apply c).1.IsError →
          after.apply c = (.error "ERR increment or decrement would overflow", after)) ∧
        (¬(after.apply c).1.IsError →
          (after.apply c).1 = .integer sum ∧
          next.apply ⟨.hget, [key, field]⟩ = (.value (Integral.token sum), next) ∧
          next.Counter key field sum ∧
          ∀ d more, d.amount? key field = some more → ¬(next.apply d).1.IsError →
            (next.apply d).1 = .integer (sum + more)) := by
  intro after current
  have hafter : after.Counter key field current := h.run hcs
  refine ⟨hafter, fun c amount hc => ?_⟩
  intro sum next
  have hbounds : Integral.fits sum = false ↔ sum < Integral.least ∨ Integral.greatest < sum := by
    rw [← Bool.not_eq_true, Integral.fits, Bool.and_eq_true, decide_eq_true_eq, decide_eq_true_eq]
    omega
  rcases hafter.increment hc with ⟨hfits, hrefused⟩ | ⟨hfits, hreply, hget⟩
  · have herror : (after.apply c).1.IsError := ⟨_, congrArg Prod.fst hrefused⟩
    exact ⟨⟨fun _ => hbounds.1 hfits, fun _ => herror⟩, fun _ => hrefused,
      fun hne => absurd herror hne⟩
  · have hne : ¬(after.apply c).1.IsError := by
      rintro ⟨text, htext⟩
      cases hreply.symm.trans htext
    have hin : ¬(sum < Integral.least ∨ Integral.greatest < sum) := by
      rw [← hbounds, hfits]
      decide
    have hnext : next.Counter key field sum := .of_token hfits hget
    refine ⟨⟨fun herror => absurd herror hne, fun hout => absurd hout hin⟩,
      fun herror => absurd herror hne, fun _ => ⟨hreply, hget, hnext, fun d more hd hd' => ?_⟩⟩
    rcases hnext.increment hd with ⟨-, hrefused⟩ | ⟨-, hreply', -⟩
    · exact absurd ⟨_, congrArg Prod.fst hrefused⟩ hd'
    · exact hreply'

end Engine

attribute [local instance] Glob.engine

/-- A counter that reaches the greatest integer and stays there, while the only other field comes
and goes. -/
theorem counter_of_run_greatest :
    let add (amount : Int) : Command := ⟨.hincrby, [[0x68], [0x66], Integral.token amount]⟩
    let cs := [add Integral.greatest, ⟨.hset, [[0x68], [0x67], [1]]⟩, add 1,
      ⟨.hdel, [[0x68], [0x67]]⟩]
    let after := empty.run (cs.map .apply)
    empty.Counter [0x68] [0x66] 0 ∧
      (∀ c ∈ cs, (c.amount? [0x68] [0x66]).isSome ∨ c.Spares [0x68] [0x66]) ∧
      after.Counter [0x68] [0x66] Integral.greatest ∧
      after.apply (add 1) = (.error "ERR increment or decrement would overflow", after) := by
  intro add cs after
  have hstart : empty.Counter [0x68] [0x66] 0 := ⟨none, rfl, rfl⟩
  have hcs : ∀ c ∈ cs, (c.amount? [0x68] [0x66]).isSome ∨ c.Spares [0x68] [0x66] := by
    intro c hc
    simp only [cs, List.mem_cons, List.not_mem_nil, or_false] at hc
    rcases hc with rfl | rfl | rfl | rfl
    · exact .inl (by decide +kernel)
    · exact .inr (.changes rfl (by decide))
    · exact .inl (by decide +kernel)
    · exact .inr (.changes rfl (by decide))
  obtain ⟨hcounter, hnext⟩ := counter_of_run hstart hcs
  have hgained : 0 + gained [0x68] [0x66] empty cs = Integral.greatest := by decide +kernel
  rw [hgained] at hcounter hnext
  obtain ⟨hrefused, herror, -⟩ := hnext (add 1) 1 (by decide +kernel)
  exact ⟨hstart, hcs, hcounter, herror (hrefused.2 (.inr (by decide)))⟩

end Store

end KeyWalk
