import KeyWalk.Client
import KeyWalk.Proofs.ErrorReply
import KeyWalk.Proofs.BoundText
import KeyWalk.Proofs.Locality

/-!
What a store command does.

The clauses of a store command are read back as its weights and its operation
(`readClauses_tokens`), so the command asks for the combination that its arguments name
(`Request.ofCommand_storeCommand`).  The store reads all sources before it writes: it finds the
scores under each key, or a hash under one of them (`Store.readSources_eq`,
`Store.readSources_of_holdsHash`).  Together:

* `Client.combine_of_storeCommand`: the destination holds the combination of what the sources held
  before, whatever it held itself, and no other key changes; if a source is a hash, nothing does.

`client.OverStore` says that each command of the client is answered by a store.  It holds of the
client that waits for handles just as of the one that is answered at once.

Design notes.  The destination may be one of the sources, and a source may be named more than once.
-/

namespace KeyWalk

/-! ### The clauses -/

namespace StoreArgs

/-- The weight of each of `n` sources. -/
def weightList (args : StoreArgs) (n : Nat) : List Score :=
  args.weights.getD (List.replicate n (Binary64.ofNat 1))

theorem weightsFor_eq_ok {args : StoreArgs} {n : Nat} {ws : List Score}
    (h : args.weightsFor n = .ok ws) :
    ws = args.weightList n ∧ ws.length = n ∧
      (args.weights ≠ none → ∀ w ∈ ws, w.isNaN = false) := by
  rw [weightsFor] at h
  cases hweights : args.weights with
  | none =>
    rw [hweights] at h
    obtain rfl : List.replicate n (Binary64.ofNat 1) = ws := Except.ok.inj h
    rw [weightList, hweights]
    exact ⟨rfl, List.length_replicate, fun hnone => absurd rfl hnone⟩
  | some given =>
    rw [hweights] at h
    obtain ⟨hlength, h⟩ := Except.ite_error_eq_ok_iff.1 h
    obtain ⟨hnan, h⟩ := Except.ite_error_eq_ok_iff.1 h
    obtain rfl : given = ws := Except.ok.inj h
    rw [weightList, hweights]
    refine ⟨rfl, Decidable.not_not.1 hlength, fun _ w hw => ?_⟩
    cases hw' : w.isNaN with
    | false => rfl
    | true => exact absurd (List.any_eq_true.2 ⟨w, hw, hw'⟩) hnan

/-- The tokens of the clauses, those of the weights in front. -/
theorem tokens_eq_ok {args : StoreArgs} {n : Nat} {clauses : List Bytes}
    (h : args.tokens n = .ok clauses) :
    ∃ weights operation, clauses = weights ++ operation ∧
      (args.weights = none ∧ weights = [] ∨
        args.weightsFor n = .ok (args.weightList n) ∧ args.weights ≠ none ∧
          weights = Bytes.ofString "WEIGHTS" :: (args.weightList n).map Score.token) ∧
      (args.op = none ∧ operation = [] ∨
        ∃ op, args.op = some op ∧
          operation = [Bytes.ofString "AGGREGATE", Bytes.ofString op.keyword]) := by
  rw [tokens] at h
  cases hweights : args.weights with
  | none =>
    rw [hweights] at h
    refine ⟨[], _, (Except.ok.inj h).symm, .inl ⟨rfl, rfl⟩, ?_⟩
    cases args.op <;> simp
  | some given =>
    rw [hweights] at h
    obtain ⟨ws, hws, h⟩ := Except.bind_eq_ok_iff.1 h
    obtain ⟨rfl, -⟩ := weightsFor_eq_ok hws
    refine ⟨_, _, (Except.ok.inj h).symm, .inr ⟨hws, by simp, rfl⟩, ?_⟩
    cases args.op <;> simp

end StoreArgs

/-- The tokens of weights are read one after another, the last one first. -/
theorem readClauses_weights {weights : List Score} (h : ∀ w ∈ weights, w.isNaN = false)
    (sources : Nat) (read : List Score) (op : Aggregate) (rest : List Bytes) :
    readClauses sources weights.length read op (weights.map Score.token ++ rest) =
      readClauses sources 0 (weights.reverse ++ read) op rest := by
  induction weights generalizing read with
  | nil => rfl
  | cons w r ih =>
    have hw : w.isNaN = false := h w List.mem_cons_self
    have hr : ∀ v ∈ r, v.isNaN = false := fun v hv => h v (List.mem_cons_of_mem _ hv)
    rw [List.length_cons, List.map_cons, List.cons_append, readClauses, Score.ofToken?_token hw]
    dsimp only
    rw [ih hr, List.reverse_cons, List.append_assoc, List.singleton_append]

theorem readClauses_operation (sources : Nat) (weights : List Score) (op op' : Aggregate) :
    readClauses sources 0 weights op [Bytes.ofString "AGGREGATE", Bytes.ofString op'.keyword] =
      .ok (weights.reverse, op') := by
  cases op' <;> rfl

/-- **The clauses of a store command say what its arguments say**, and there is one weight for each
source. -/
theorem readClauses_tokens {args : StoreArgs} {n : Nat} {clauses : List Bytes}
    (h : args.tokens n = .ok clauses) :
    readClauses n 0 (List.replicate n (Binary64.ofNat 1)) .default clauses =
        .ok (args.weightList n, args.operation) ∧
      (args.weightList n).length = n := by
  obtain ⟨weights, operation, rfl, hweights, hoperation⟩ := StoreArgs.tokens_eq_ok h
  -- behind the weights, whichever they are, only the operation can follow
  have hrest : ∀ ws : List Score, readClauses n 0 ws.reverse .default operation =
      .ok (ws, args.operation) := by
    intro ws
    rw [StoreArgs.operation]
    rcases hoperation with ⟨hnone, rfl⟩ | ⟨op, hsome, rfl⟩
    · rw [hnone, readClauses, List.reverse_reverse]
      rfl
    · rw [hsome, readClauses_operation, List.reverse_reverse]
      rfl
  rcases hweights with ⟨hnone, rfl⟩ | ⟨hfor, hsome, rfl⟩
  · have hones : args.weightList n = List.replicate n (Binary64.ofNat 1) := by
      rw [StoreArgs.weightList, hnone]
      rfl
    rw [hones]
    exact ⟨by simpa using hrest (List.replicate n (Binary64.ofNat 1)), List.length_replicate⟩
  · obtain ⟨-, hlength, hnumeric⟩ := StoreArgs.weightsFor_eq_ok hfor
    refine ⟨?_, hlength⟩
    have hread : readClauses n n [] .default
        ((args.weightList n).map Score.token ++ operation) =
          readClauses n 0 (args.weightList n).reverse .default operation := by
      have hweights := readClauses_weights (hnumeric hsome) n [] .default operation
      rwa [hlength, List.append_nil] at hweights
    have hword : Bytes.isWord "WEIGHTS" (Bytes.ofString "WEIGHTS") = true := by decide
    rw [List.cons_append, readClauses.eq_def]
    dsimp only
    rw [if_pos hword, hread, hrest]

namespace Request

variable {mode : StoreMode} {destination : Bytes} {keys : List Bytes} {args : Option StoreArgs}
  {c : Command}

theorem storeCommand_eq_ok (h : storeCommand mode destination keys args = .ok c) :
    keys ≠ [] ∧ (keys.length : Int) ≤ Integral.greatest ∧
      ∃ clauses, (args.getD {}).tokens keys.length = .ok clauses ∧
        c = ⟨mode.kind, destination :: Integral.token keys.length :: (keys ++ clauses)⟩ := by
  obtain ⟨hempty, h⟩ := Except.ite_error_eq_ok_iff.1 h
  obtain ⟨hlarge, h⟩ := Except.ite_error_eq_ok_iff.1 h
  have hne : keys ≠ [] := fun hnil => hempty (List.isEmpty_iff.2 hnil)
  refine ⟨hne, Int.not_lt.1 hlarge, ?_⟩
  cases args with
  | none => exact ⟨[], rfl, (Except.ok.inj h).symm⟩
  | some args =>
    obtain ⟨clauses, htokens, h⟩ := Except.bind_eq_ok_iff.1 h
    exact ⟨clauses, htokens, (Except.ok.inj h).symm⟩

/-- **A store command asks for the combination that its arguments name.** -/
theorem ofCommand_storeCommand [GlobEngine] (h : storeCommand mode destination keys args = .ok c) :
    ((args.getD {}).weightList keys.length).length = keys.length ∧
      ofCommand c = .ok (.combine mode destination
        (((args.getD {}).weightList keys.length).zip keys) (args.getD {}).operation) := by
  obtain ⟨hne, hfits, clauses, hclauses, rfl⟩ := storeCommand_eq_ok h
  obtain ⟨hread, hlength⟩ := readClauses_tokens hclauses
  refine ⟨hlength, ?_⟩
  have hcount : Integral.ofToken? (Integral.token keys.length) = some (keys.length : Int) :=
    Integral.ofToken?_token (Integral.fits_of_le_greatest hfits)
  have hpos : 0 < (keys.length : Int) := by
    have := List.length_pos_iff.2 hne
    omega
  have hcombination : combination mode
      (destination :: Integral.token keys.length :: (keys ++ clauses)) = .ok (_, []) :=
    combination_eq_ok_iff.2 ⟨destination, _, _, keys, clauses, _, _, rfl, hcount, hpos,
      (Int.toNat_natCast _).symm, hread, rfl, rfl⟩
  rw [ofCommand]
  cases mode with
  | union | intersection =>
    show (·.1) <$> combination _ _ = _
    rw [hcombination]
    rfl

end Request

/-! ### The sources -/

namespace Store

variable {s : Store} {key : Bytes}

/-- The key holds a hash. -/
def HoldsHash (s : Store) (key : Bytes) : Prop := ∃ h, s.get? key = some (.hash h)

/-- The members under a key with their scores, none if the key is absent. -/
def scoresAt (s : Store) (key : Bytes) : ByteMap Score :=
  match s.get? key with
  | some (.sortedSet z) => z.scores
  | _ => ByteMap.empty

theorem read_sortedSet (h : ¬s.HoldsHash key) :
    ∃ z, s.read .sortedSet key = .ok z ∧ z.scores = s.scoresAt key := by
  rw [scoresAt]
  cases hget : s.get? key with
  | none => exact ⟨SortedSet.empty, read_eq_ok_iff.2 (.inl ⟨hget, rfl⟩), rfl⟩
  | some c =>
    cases c with
    | hash m => exact absurd ⟨m, hget⟩ h
    | sortedSet z => exact ⟨z, read_eq_ok_iff.2 (.inr hget), rfl⟩

theorem read_of_holdsHash (h : s.HoldsHash key) : s.read .sortedSet key = .error .wrongType := by
  obtain ⟨m, hget⟩ := h
  rw [read, hget]
  rfl

/-- Sources that are no hashes are read as their scores. -/
theorem readSources_eq {weights : List Score} {keys : List Bytes}
    (hlength : weights.length = keys.length) (h : ∀ key ∈ keys, ¬s.HoldsHash key) :
    s.readSources (weights.zip keys) = .ok (weights.zip (keys.map s.scoresAt)) := by
  induction weights generalizing keys with
  | nil => rfl
  | cons w r ih =>
    cases keys with
    | nil => exact absurd hlength (by simp)
    | cons key keys =>
      obtain ⟨z, hread, hscores⟩ := read_sortedSet (h key List.mem_cons_self)
      have hrest := ih (by simpa using hlength) fun k hk => h k (List.mem_cons_of_mem _ hk)
      rw [List.zip_cons_cons, readSources_cons, hread, hrest, List.map_cons, List.zip_cons_cons,
        ← hscores]
      rfl

/-- A hash among the sources, wherever it stands. -/
theorem readSources_of_holdsHash {weights : List Score} {keys : List Bytes}
    (hlength : weights.length = keys.length) (h : ∃ key ∈ keys, s.HoldsHash key) :
    s.readSources (weights.zip keys) = .error .wrongType := by
  induction weights generalizing keys with
  | nil =>
    obtain ⟨key, hkey, -⟩ := h
    rw [List.eq_nil_of_length_eq_zero hlength.symm] at hkey
    exact absurd hkey List.not_mem_nil
  | cons w r ih =>
    cases keys with
    | nil => exact absurd hlength (by simp)
    | cons key keys =>
      rw [List.zip_cons_cons, readSources_cons]
      by_cases hfirst : s.HoldsHash key
      · rw [read_of_holdsHash hfirst]
        rfl
      · -- the first source can be read, so the hash is behind it
        obtain ⟨z, hread, -⟩ := read_sortedSet hfirst
        have hlater : ∃ k ∈ keys, s.HoldsHash k := by
          obtain ⟨k, hk, hhash⟩ := h
          rcases List.mem_cons.1 hk with rfl | hk
          · exact absurd hhash hfirst
          · exact ⟨k, hk, hhash⟩
        rw [hread, ih (by simpa using hlength) hlater]
        rfl

end Store

/-! ### Through a client -/

namespace Client

section Engine

variable [GlobEngine] {γ α : Type} {client : Client Store}

/-- Each command of the client is answered by a store. -/
def OverStore (client : Client Store) : Prop := client.transport = Transport.store

theorem overStore_blocking (options : ClientOptions) :
    (blocking Transport.store options).OverStore := rfl

/-- The handles of a store are resolved from the start, so nobody waits. -/
theorem overStore_awaiting (options : ClientOptions) :
    (awaiting Dispatcher.store options).OverStore := rfl

/-- One call is one command, and reads the reply to it. -/
theorem OverStore.attempt_ok (h : client.OverStore) (p : Prepared γ α) (s : Store) (g : γ) :
    client.attempt (.ok p) s g =
      ((p.decode (s.apply p.command).1 g).1, (s.apply p.command).2,
        (p.decode (s.apply p.command).1 g).2) := by
  rw [attempt, run, h]
  rfl

theorem OverStore.attempt_reading (h : client.OverStore) {c : Command} {reply : Reply}
    {s s' : Store} (happly : s.apply c = (reply, s')) (read : Reply → Outcome α) (g : γ) :
    client.attempt (.ok (.reading c read)) s g = (read reply, s', g) := by
  rw [h.attempt_ok, Prepared.reading, happly]

/-- A command that the store refuses. -/
theorem OverStore.attempt_fault (h : client.OverStore) {p : Prepared γ α} {s : Store}
    {fault : Fault} (hp : p.Relays fault)
    (happly : s.apply p.command = (.error (fault.message p.command.kind), s)) (g : γ) :
    ∃ f, client.attempt (.ok p) s g = (.error f, s, g) ∧ f.status = fault.status := by
  obtain ⟨f, hdecode, hstatus⟩ := hp g
  refine ⟨f, ?_, hstatus⟩
  rw [h.attempt_ok, happly, hdecode]

variable {mode : StoreMode} {destination : Bytes} {keys : List Bytes} {args : Option StoreArgs}
  {c : Command}

/-- **A store command stores the combination of its sources**, each with its weight, as they were
before: the destination may be one of them.  What the destination held is replaced, and an empty
combination leaves it absent.  If a source is a hash, nothing is stored. -/
theorem combine_of_storeCommand (hclient : client.OverStore)
    (hc : storeCommand mode destination keys args = .ok c) (s : Store) (g : γ) :
    let weights := (args.bind (·.weights)).getD (List.replicate keys.length (Binary64.ofNat 1))
    let op := (args.bind (·.op)).getD .sum
    let result := aggregate mode op (weights.zip (keys.map s.scoresAt))
    weights.length = keys.length ∧
      ((∀ key ∈ keys, ¬s.HoldsHash key) →
        ∃ s', client.attempt (Call.combine mode destination keys args) s g =
            (.ok result.size, s', g) ∧
          (result.isEmpty = true → s'.get? destination = none) ∧
          (result.isEmpty = false → ∃ z, s'.get? destination = some (.sortedSet z) ∧
            z.scores = result ∧ z.Indexed) ∧
          ∀ key, key ≠ destination → s'.get? key = s.get? key) ∧
      ((∃ key ∈ keys, s.HoldsHash key) →
        ∃ f, client.attempt (Call.combine mode destination keys args) s g = (.error f, s, g) ∧
          f.status = .wrongType) := by
  intro weights op result
  have hweights : (args.getD {}).weightList keys.length = weights := by
    cases args <;> rfl
  have hop : (args.getD {}).operation = op := by
    cases args <;> rfl
  obtain ⟨hlength, hrequest⟩ := Request.ofCommand_storeCommand hc
  rw [hweights] at hlength
  rw [hweights, hop] at hrequest
  have hcall : Call.combine (γ := γ) mode destination keys args =
      .ok (.reading c (Reply.readInteger c.name)) := by
    rw [Call.combine, hc]
    rfl
  refine ⟨hlength, fun hsets => ?_, fun hhash => ?_⟩
  · -- all sources are read before the destination is written, so it may be one of them
    have happly : s.apply c =
        (.count result.size, s.putBack .sortedSet destination (.ofScores result)) := by
      rw [Store.apply_of_ofCommand hrequest, Store.answer, Store.readSources_eq hlength hsets]
      rfl
    refine ⟨s.putBack .sortedSet destination (.ofScores result), ?_, fun hempty => ?_,
      fun hne => ?_, fun key hkey => ?_⟩
    · rw [hcall, hclient.attempt_reading happly]
      rfl
    · rw [Store.get?_putBack_self]
      exact if_pos hempty
    · refine ⟨.ofScores result, ?_, rfl, SortedSet.indexed_ofScores result⟩
      rw [Store.get?_putBack_self]
      exact if_neg (by rw [Bool.not_eq_true]; exact hne)
    · exact Store.get?_putBack_of_ne s .sortedSet _ hkey.symm
  · -- the hash may stand behind sources that could be read; nothing is written even then
    have happly : s.apply c = (.error (Fault.wrongType.message c.kind), s) := by
      rw [Store.apply_of_ofCommand hrequest, Store.answer,
        Store.readSources_of_holdsHash hlength hhash]
      rfl
    have hrelays : (Prepared.reading (γ := γ) c (Reply.readInteger c.name)).Relays .wrongType :=
      Prepared.relays_reading (Reply.checked_readInteger c.name) trivial
    obtain ⟨f, hattempt, hstatus⟩ := hclient.attempt_fault hrelays happly g
    exact ⟨f, hcall ▸ hattempt, hstatus⟩

end Engine

attribute [local instance] Glob.engine

/-- The union of `z` with itself replaces the hash at `h`; a union of `z` and `h` into `z` fails. -/
theorem combine_beside_hash :
    let scores := ByteMap.empty.insert [0x6D] (.inf false)
    let s := (Store.empty.put [0x7A] (.sortedSet (.ofScores scores))).put [0x68]
      (.hash (ByteMap.empty.insert [0x66] [0x76]))
    let client := blocking Transport.store {}
    (∃ s', client.attempt (Call.combine .union [0x68] [[0x7A], [0x7A]] none) s () =
        (.ok 1, s', ()) ∧
      ∃ z, s'.get? [0x68] = some (.sortedSet z) ∧ z.scores = scores) ∧
      ∃ f, client.attempt (Call.combine .union [0x7A] [[0x7A], [0x68]] none) s () =
        (.error f, s, ()) ∧ f.status = .wrongType := by
  intro scores s client
  have hclient : client.OverStore := overStore_blocking {}
  have hsets : ∀ key ∈ ([[0x7A], [0x7A]] : List Bytes), ¬s.HoldsHash key := by
    rintro key hkey ⟨m, hm⟩
    simp only [List.mem_cons, List.not_mem_nil, or_false, or_self] at hkey
    subst hkey
    cases hm
  have hhash : ∃ key ∈ ([[0x7A], [0x68]] : List Bytes), s.HoldsHash key :=
    ⟨[0x68], by decide, ⟨_, rfl⟩⟩
  have hresult : aggregate .union .sum
      [(Binary64.ofNat 1, scores), (Binary64.ofNat 1, scores)] = scores := by decide +kernel
  have hc : storeCommand .union [0x68] [[0x7A], [0x7A]] none =
      .ok ⟨.zunionstore, [[0x68], [0x32], [0x7A], [0x7A]]⟩ := rfl
  have hc' : storeCommand .union [0x7A] [[0x7A], [0x68]] none =
      .ok ⟨.zunionstore, [[0x7A], [0x32], [0x7A], [0x68]]⟩ := rfl
  obtain ⟨-, hstored, -⟩ := combine_of_storeCommand hclient hc s ()
  obtain ⟨-, -, hrefused⟩ := combine_of_storeCommand hclient hc' s ()
  refine ⟨?_, hrefused hhash⟩
  obtain ⟨s', hattempt, -, hholds, -⟩ := hstored hsets
  change client.attempt _ s () = (.ok ((aggregate .union .sum
    [(Binary64.ofNat 1, scores), (Binary64.ofNat 1, scores)]).size : Int), s', ()) at hattempt
  change (aggregate .union .sum
    [(Binary64.ofNat 1, scores), (Binary64.ofNat 1, scores)]).isEmpty = false → _ at hholds
  rw [hresult] at hattempt hholds
  obtain ⟨z, hget, hscores, -⟩ := hholds rfl
  exact ⟨s', hattempt, z, hget, hscores.trans hresult⟩

end Client

end KeyWalk
