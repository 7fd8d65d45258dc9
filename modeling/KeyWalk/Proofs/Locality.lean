import KeyWalk.Proofs.Reachable

/-!
Commands on different keys do not meet.

A command names the key of its first argument, and a combination names its sources as well
(`Command.names`).  What a command does is local to these keys:

* `Request.keys_of_ofCommand`: the request that a command asks is about keys that the command names,
* `Store.apply_frame`: a command changes at most what is under its first argument,
* `Store.apply_congr`: its reply, and what it leaves there, depend on the named keys alone,
* `Store.apply_swap`: so two commands that stay off each other's keys can be swapped,
* `Store.run_swap`: and so can two runs of such commands.

Design notes.  Nothing is assumed of the store.  A combination also names its destination, although
what was there before does not matter to it.
-/

namespace KeyWalk

/-! ### Named keys -/

namespace Command

/-- The keys that a combination lists as its sources: as many as its second argument says. -/
def sources (c : Command) : List Bytes :=
  match c.kind, c.args with
  | .zunionstore, _ :: n :: keys | .zinterstore, _ :: n :: keys =>
    keys.take ((Integral.ofToken? n).getD 0).toNat
  | _, _ => []

/-- The keys that a command names. -/
def names (c : Command) : List Bytes := c.args.take 1 ++ c.sources

/-- The first argument of neither command is a key that the other one names. -/
def Apart (c d : Command) : Prop :=
  (∀ key, c.args.head? = some key → key ∉ d.names) ∧
    ∀ key, d.args.head? = some key → key ∉ c.names

theorem Apart.symm {c d : Command} (h : c.Apart d) : d.Apart c := ⟨h.2, h.1⟩

theorem mem_names_of_head? {c : Command} {key : Bytes} (h : c.args.head? = some key) :
    key ∈ c.names := by
  obtain ⟨r, hr⟩ := List.head?_eq_some_iff.1 h
  rw [names, hr]
  exact List.mem_append_left _ List.mem_cons_self

end Command

namespace Request

open Arguments

variable {c : Command} {request : Request} {tokens rest : List Bytes}

/-- The key whose collection the request may change. -/
def target : Request → Bytes
  | askHash key _ | changeHash key _ | askSet key _ | changeSet key _ => key
  | combine _ destination _ _ => destination

/-- The other keys that the request looks at. -/
def sourceKeys : Request → List Bytes
  | askHash .. | changeHash .. | askSet .. | changeSet .. => []
  | combine _ _ sources _ => sources.map (·.2)

/-- The request is about one key, the first of the tokens. -/
def AboutFirst (tokens : List Bytes) (request : Request) : Prop :=
  tokens.head? = some request.target ∧ request.sourceKeys = []

/-- A reader that takes a key and makes a request about it alone. -/
theorem aboutFirst_of_next {f : Bytes → Arguments Request}
    (hf : ∀ key, Yields (f key) fun request => request.target = key ∧ request.sourceKeys = [])
    (h : (next >>= f) tokens = .ok (request, rest)) : request.AboutFirst tokens := by
  obtain ⟨key, between, hnext, hread⟩ := bind_eq_ok_iff.1 h
  obtain ⟨htarget, hsources⟩ := hf key between request rest hread
  rw [next_eq_ok_iff.1 hnext]
  exact ⟨congrArg some htarget.symm, hsources⟩

theorem aboutFirst_of_hashQuestion {query : Arguments HashQuery}
    (h : hashQuestion query tokens = .ok (request, rest)) : request.AboutFirst tokens :=
  aboutFirst_of_next (fun _ => .bind_any fun _ => .bind_any fun _ => .pure ⟨rfl, rfl⟩) h

theorem aboutFirst_of_hashChange {update : Arguments HashUpdate}
    (h : hashChange update tokens = .ok (request, rest)) : request.AboutFirst tokens :=
  aboutFirst_of_next (fun _ => .bind_any fun _ => .bind_any fun _ => .pure ⟨rfl, rfl⟩) h

theorem aboutFirst_of_setQuestion {query : Arguments SetQuery}
    (h : setQuestion query tokens = .ok (request, rest)) : request.AboutFirst tokens :=
  aboutFirst_of_next (fun _ => .bind_any fun _ => .bind_any fun _ => .pure ⟨rfl, rfl⟩) h

theorem aboutFirst_of_setChange {update : Arguments SetUpdate}
    (h : setChange update tokens = .ok (request, rest)) : request.AboutFirst tokens :=
  aboutFirst_of_next (fun _ => .bind_any fun _ => .bind_any fun _ => .pure ⟨rfl, rfl⟩) h

/-- A combination looks at keys among the listed ones. -/
theorem sourceKeys_of_combination {mode : StoreMode}
    (h : combination mode tokens = .ok (request, rest)) :
    ∃ n keys, tokens = request.target :: n :: keys ∧
      request.sourceKeys ⊆ keys.take ((Integral.ofToken? n).getD 0).toNat := by
  obtain ⟨destination, token, n, keys, clauses, weights, op, rfl, hn, -, hlength, -, rfl, -⟩ :=
    combination_eq_ok_iff.1 h
  refine ⟨token, keys ++ clauses, rfl, ?_⟩
  rw [hn, Option.getD_some, ← hlength, List.take_left]
  intro key hkey
  obtain ⟨p, hp, rfl⟩ := List.mem_map.1 hkey
  exact (List.of_mem_zip hp).2

/-- **The request that a command asks is about keys that the command names**: it may change what is
under the first argument, and it looks at no other keys than the sources. -/
theorem keys_of_ofCommand [GlobEngine] (h : ofCommand c = .ok request) :
    c.args.head? = some request.target ∧ request.sourceKeys ⊆ c.sources := by
  obtain ⟨rest, hr⟩ := reader_of_ofCommand h
  have hfirst : request.AboutFirst c.args →
      c.args.head? = some request.target ∧ request.sourceKeys ⊆ c.sources := by
    rintro ⟨htarget, hsources⟩
    rw [hsources]
    exact ⟨htarget, List.nil_subset _⟩
  obtain ⟨kind, args⟩ := c
  cases kind with
  | zunionstore | zinterstore =>
    obtain ⟨n, keys, rfl, hsources⟩ := sourceKeys_of_combination hr
    exact ⟨rfl, hsources⟩
  | hdel | hincrby | hincrbyfloat | hmset | hset | hsetnx =>
    exact hfirst (aboutFirst_of_hashChange hr)
  | hexists | hget | hgetall | hkeys | hlen | hmget | hvals | hscan =>
    exact hfirst (aboutFirst_of_hashQuestion hr)
  | zadd | zincrby | zrem | zremrangebylex | zremrangebyrank | zremrangebyscore =>
    exact hfirst (aboutFirst_of_setChange hr)
  | zcard | zcount | zlexcount | zrange | zrangebylex | zrangebyscore | zrank | zrevrange
  | zrevrangebylex | zrevrangebyscore | zrevrank | zscore | zscan =>
    exact hfirst (aboutFirst_of_setQuestion hr)

end Request

namespace Store

variable {α β : Type} {s s' : Store} {key key' : Bytes}

/-! ### Changes at one key -/

/-- Both stores hold the same under the keys. -/
def AgreeOn (keys : List Bytes) (s s' : Store) : Prop := ∀ key ∈ keys, s.get? key = s'.get? key

theorem AgreeOn.mono {keys keys' : List Bytes} (h : AgreeOn keys s s') (hsub : keys' ⊆ keys) :
    AgreeOn keys' s s' := fun key hkey => h key (hsub hkey)

theorem get?_putBack_of_ne (s : Store) (shape : Shape α) (a : α) (h : key ≠ key') :
    (s.putBack shape key a).get? key' = s.get? key' := by
  rw [putBack]
  split
  · rw [get?_delete, if_neg h]
  · rw [get?_put, if_neg h]

/-- What is put back does not depend on what the store held. -/
theorem get?_putBack_self (s : Store) (shape : Shape α) (key : Bytes) (a : α) :
    (s.putBack shape key a).get? key =
      if shape.isEmpty a then none else some (shape.pack a) := by
  rw [putBack]
  split
  · rw [get?_delete, if_pos rfl]
  · rw [get?_put, if_pos rfl]

theorem write_frame (s : Store) (shape : Shape α) {change : α → Except Fault β × α}
    (hclean : Clean change) (h : key ≠ key') :
    (s.write shape key change).2.get? key' = s.get? key' := by
  rcases write_cases s shape key hclean with ⟨f, hw⟩ | ⟨a, r, a', -, -, hw⟩
  · rw [hw]
  · rw [hw]
    exact get?_putBack_of_ne s shape a' h

theorem read_congr (shape : Shape α) (h : s.get? key = s'.get? key) :
    s.read shape key = s'.read shape key := by
  rw [read, read, h]

theorem write_congr (shape : Shape α) {change : α → Except Fault β × α} (hclean : Clean change)
    (h : s.get? key = s'.get? key) :
    (s.write shape key change).1 = (s'.write shape key change).1 ∧
      (s.write shape key change).2.get? key = (s'.write shape key change).2.get? key := by
  -- both changes start from the same collection, and what they leave is put back in either store
  rw [write_eq s shape key hclean, write_eq s' shape key hclean, read_congr shape h]
  cases s'.read shape key with
  | error f => exact ⟨rfl, h⟩
  | ok a =>
    rcases hc : change a with ⟨res, a'⟩
    cases res with
    | error f =>
      simp only [hc]
      exact ⟨trivial, h⟩
    | ok r =>
      simp only [hc]
      exact ⟨trivial, by rw [get?_putBack_self, get?_putBack_self]⟩

theorem readSources_congr {sources : List (Score × Bytes)}
    (h : AgreeOn (sources.map (·.2)) s s') : s.readSources sources = s'.readSources sources := by
  induction sources with
  | nil => rfl
  | cons source r ih =>
    obtain ⟨weight, key⟩ := source
    have hhead : s.get? key = s'.get? key := h _ List.mem_cons_self
    have htail : AgreeOn (r.map (·.2)) s s' := h.mono (List.subset_cons_self _ _)
    rw [readSources_cons, readSources_cons, ih htail, read_congr .sortedSet hhead]

/-! ### Requests -/

theorem answer_frame (s : Store) (request : Request) (h : request.target ≠ key) :
    (s.answer request).2.get? key = s.get? key := by
  cases request with
  | askHash | askSet => rfl
  | changeHash _ update => exact write_frame s .hash update.run_clean h
  | changeSet _ update => exact write_frame s .sortedSet update.run_clean h
  | combine mode destination sources op =>
    rw [answer]
    cases s.readSources sources with
    | error f => rfl
    | ok weighted => exact get?_putBack_of_ne s .sortedSet _ h

/-- The answer to a request, and what it leaves, depend on its keys alone. -/
theorem answer_congr {request : Request}
    (h : AgreeOn (request.target :: request.sourceKeys) s s') :
    (s.answer request).1 = (s'.answer request).1 ∧
      (s.answer request).2.get? request.target = (s'.answer request).2.get? request.target := by
  have htarget : s.get? request.target = s'.get? request.target := h _ List.mem_cons_self
  cases request with
  | askHash key query =>
    exact ⟨congrArg (Except.map query.answer) (read_congr .hash htarget), htarget⟩
  | askSet key query =>
    exact ⟨congrArg (Except.map query.answer) (read_congr .sortedSet htarget), htarget⟩
  | changeHash key update => exact write_congr .hash update.run_clean htarget
  | changeSet key update => exact write_congr .sortedSet update.run_clean htarget
  | combine mode destination sources op =>
    have hsources : AgreeOn (sources.map (·.2)) s s' := h.mono (List.subset_cons_self _ _)
    rw [answer, answer, readSources_congr hsources]
    cases s'.readSources sources with
    | error f => exact ⟨rfl, htarget⟩
    | ok weighted =>
      -- the destination is replaced, so what it held does not matter
      refine ⟨rfl, ?_⟩
      exact (get?_putBack_self s .sortedSet destination _).trans
        (get?_putBack_self s' .sortedSet destination _).symm

/-! ### Commands -/

section Engine

variable [GlobEngine]

/-- **A command changes at most what is under its first argument.** -/
theorem apply_frame (s : Store) (c : Command) (h : c.args.head? ≠ some key) :
    (s.apply c).2.get? key = s.get? key := by
  cases hq : Request.ofCommand c with
  | error f => rw [apply, hq]
  | ok request =>
    have htarget : request.target ≠ key := by
      intro heq
      exact h (heq ▸ (Request.keys_of_ofCommand hq).1)
    rw [apply_of_ofCommand hq]
    exact s.answer_frame request htarget

/-- **What a command does depends on the keys that it names alone**: its reply, and what it leaves
under its first argument. -/
theorem apply_congr {c : Command} (h : AgreeOn c.names s s') :
    (s.apply c).1 = (s'.apply c).1 ∧
      ∀ key, c.args.head? = some key → (s.apply c).2.get? key = (s'.apply c).2.get? key := by
  cases hq : Request.ofCommand c with
  | error f =>
    rw [apply, apply, hq]
    exact ⟨rfl, fun key hkey => h key (Command.mem_names_of_head? hkey)⟩
  | ok request =>
    obtain ⟨htarget, hsources⟩ := Request.keys_of_ofCommand hq
    have hkeys : request.target :: request.sourceKeys ⊆ c.names := by
      refine List.cons_subset.2 ⟨Command.mem_names_of_head? htarget, ?_⟩
      exact List.subset_append_of_subset_right _ hsources
    obtain ⟨hreply, hleft⟩ := answer_congr (h.mono hkeys)
    rw [apply_of_ofCommand hq, apply_of_ofCommand hq, hreply]
    refine ⟨rfl, fun key hkey => ?_⟩
    obtain rfl : request.target = key := Option.some.inj (htarget.symm.trans hkey)
    exact hleft

variable {c d : Command}

/-- A command does not see whether one on other keys has been applied. -/
theorem agreeOn_apply (s : Store) (h : c.Apart d) : AgreeOn d.names (s.apply c).2 s := by
  intro key hkey
  refine s.apply_frame c fun hhead => ?_
  exact h.1 key hhead hkey

theorem reply_after (s : Store) (h : c.Apart d) : ((s.apply c).2.apply d).1 = (s.apply d).1 :=
  (apply_congr (s.agreeOn_apply h)).1

/-- **Two commands on different keys can be swapped**: in either order they leave the same store. -/
theorem apply_swap (s : Store) (h : c.Apart d) :
    ((s.apply c).2.apply d).2 = ((s.apply d).2.apply c).2 := by
  refine ext_get? fun key => ?_
  -- at each key at most one of the two commands leaves its mark
  have hd := (apply_congr (s.agreeOn_apply h)).2 key
  have hc := (apply_congr (s.agreeOn_apply h.symm)).2 key
  by_cases hdkey : d.args.head? = some key
  · -- the second command leaves what it would have left at first
    have hckey : c.args.head? ≠ some key := fun hckey =>
      h.1 key hckey (Command.mem_names_of_head? hdkey)
    rw [hd hdkey, apply_frame _ c hckey]
  · by_cases hckey : c.args.head? = some key
    · rw [hc hckey, apply_frame _ d hdkey]
    · rw [apply_frame _ d hdkey, apply_frame _ c hckey, apply_frame _ c hckey,
        apply_frame _ d hdkey]

/-! ### Runs -/

/-- A command can be moved behind a run of commands on other keys. -/
theorem apply_run (s : Store) {ds : List Command} (h : ∀ d ∈ ds, c.Apart d) :
    (s.apply c).2.run (ds.map .apply) = ((s.run (ds.map .apply)).apply c).2 := by
  induction ds generalizing s with
  | nil => rfl
  | cons d r ih =>
    have hd : c.Apart d := h d List.mem_cons_self
    have hr : ∀ e ∈ r, c.Apart e := fun e he => h e (List.mem_cons_of_mem _ he)
    rw [List.map_cons, run_cons, run_cons]
    show ((s.apply c).2.apply d).2.run _ = (((s.apply d).2.run _).apply c).2
    rw [apply_swap s hd, ih (s.apply d).2 hr]

/-- **Runs of commands on different keys can be swapped.** -/
theorem run_swap (s : Store) {cs ds : List Command} (h : ∀ c ∈ cs, ∀ d ∈ ds, c.Apart d) :
    (s.run (cs.map .apply)).run (ds.map .apply) =
      (s.run (ds.map .apply)).run (cs.map .apply) := by
  induction cs generalizing s with
  | nil => rfl
  | cons c r ih =>
    have hc : ∀ d ∈ ds, c.Apart d := h c List.mem_cons_self
    have hr : ∀ e ∈ r, ∀ d ∈ ds, e.Apart d := fun e he => h e (List.mem_cons_of_mem _ he)
    rw [List.map_cons, run_cons, run_cons]
    show ((s.apply c).2.run _).run _ = ((s.run _).apply c).2.run _
    rw [ih (s.apply c).2 hr, apply_run s hc]

/-! ### All of it -/

/-- **A command is local to the keys that it names.**  It changes at most what is under its first
argument; its reply, and what it leaves there, are the same in every store that holds the same under
those keys; and next to a command that stays off these keys, and off whose keys it stays, it does
not matter which of the two comes first. -/
theorem apply_local (s : Store) (c : Command) :
    (∀ key, c.args.head? ≠ some key → (s.apply c).2.get? key = s.get? key) ∧
      (∀ s' : Store, (∀ key ∈ c.names, s.get? key = s'.get? key) →
        (s.apply c).1 = (s'.apply c).1 ∧
          ∀ key, c.args.head? = some key →
            (s.apply c).2.get? key = (s'.apply c).2.get? key) ∧
      ∀ d : Command, c.Apart d →
        ((s.apply c).2.apply d).1 = (s.apply d).1 ∧
          ((s.apply d).2.apply c).1 = (s.apply c).1 ∧
          ((s.apply c).2.apply d).2 = ((s.apply d).2.apply c).2 :=
  ⟨fun _ => s.apply_frame c, fun _ => apply_congr, fun _ h =>
    ⟨s.reply_after h, s.reply_after h.symm, s.apply_swap h⟩⟩

end Engine

attribute [local instance] Glob.engine

/-- A union of `a` into `o` beside a change of the hash at `h`. -/
theorem apply_local_beside_hash :
    let s := empty.put [0x61] (.sortedSet (.ofScores (ByteMap.empty.insert [0x6D] (.inf true))))
    let s' := s.put [0x68] (.hash (ByteMap.empty.insert [0x66] [0x77]))
    let c : Command := ⟨.zunionstore, [[0x6F], [0x31], [0x61]]⟩
    let d : Command := ⟨.hset, [[0x68], [0x66], [0x76]]⟩
    c.args.head? ≠ some [0x61] ∧ (∀ key ∈ c.names, s.get? key = s'.get? key) ∧ c.Apart d ∧
      (s.apply c).2.get? [0x61] = s.get? [0x61] ∧
      (s.apply c).1 = (s'.apply c).1 ∧
      ((s.apply c).2.apply d).2 = ((s.apply d).2.apply c).2 := by
  intro s s' c d
  have hkey : c.args.head? ≠ some [0x61] := by decide
  have hagree : ∀ key ∈ c.names, s.get? key = s'.get? key := by decide
  have hapart : c.Apart d :=
    ⟨fun key hkey => Option.some.inj hkey ▸ by decide,
      fun key hkey => Option.some.inj hkey ▸ by decide⟩
  obtain ⟨hframe, hcongr, hswap⟩ := apply_local s c
  exact ⟨hkey, hagree, hapart, hframe _ hkey, (hcongr s' hagree).1, (hswap d hapart).2.2⟩

end Store

end KeyWalk
