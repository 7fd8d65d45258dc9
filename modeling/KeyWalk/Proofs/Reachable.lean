import KeyWalk.Proofs.Aggregate
import KeyWalk.Proofs.Request
import KeyWalk.Proofs.SortedSet
import KeyWalk.Proofs.Store

/-!
What holds of every store that can come about.

An `Event` is a command, the deletion of a key or a flush, and `s.run events` is the store after
some of them.  `s.WellFormed` says that no key holds an empty collection and that every sorted set
is indexed by its ranking and free of `nan`:

* `Effect.wellFormed`: whatever a request does keeps it,
* `WellFormed.step`: an event keeps it,
* `WellFormed.run`: so every run of events keeps it, and every reachable store has it.

Design notes.  Scores come from three places.  What a command adds is read from text, and no text
spells `nan`; what an increment makes is checked; what a combination makes cannot be `nan`.
-/

namespace KeyWalk

/-! ### Changes of sorted sets -/

namespace SetUpdate

variable {z z' : SortedSet} {update : SetUpdate} {r : Reply}

theorem indexed_run (h : z.Indexed) (hr : update.run z = (.ok r, z')) : z'.Indexed := by
  obtain ⟨hres, rfl⟩ := Prod.mk.inj hr
  cases update with
  | add entries => exact h.insertAll entries
  | increment by_ member =>
    show (z.increment by_ member).2.Indexed
    rw [SortedSet.increment]
    split
    · exact h
    · exact h.insert _ _
  | remove members => exact h.removeAll members
  | removeSelected selection => exact h.removeAll _

theorem numeric_run (h : SortedSet.Numeric z) (hu : update.Numeric)
    (hr : update.run z = (.ok r, z')) : SortedSet.Numeric z' := by
  obtain ⟨hres, rfl⟩ := Prod.mk.inj hr
  cases update with
  | add entries => exact h.insertAll hu
  | increment by_ member =>
    show SortedSet.Numeric (z.increment by_ member).2
    rw [SortedSet.increment]
    split
    · exact h
    · rename_i hnan
      exact h.insert (by simpa using hnan)
  | remove members => exact h.removeAll members
  | removeSelected selection => exact h.removeAll _

end SetUpdate

/-! ### Well-formed stores -/

/-- The collection is not empty; the ranking of a sorted set agrees with its scores, and none of
them is `nan`. -/
def Collection.WellFormed : Collection → Prop
  | .hash h => h.isEmpty = false
  | .sortedSet z => z.isEmpty = false ∧ z.Indexed ∧ z.Numeric

namespace Store

variable {α : Type} {s s' : Store} {key : Bytes}

/-- Every collection in the store is well-formed. -/
def WellFormed (s : Store) : Prop := ∀ key c, s.get? key = some c → c.WellFormed

theorem wellFormed_empty : empty.WellFormed := fun key c h => by simp [get?_empty] at h

theorem WellFormed.put (h : s.WellFormed) {c : Collection} (hc : c.WellFormed) :
    (s.put key c).WellFormed := by
  intro key' c' hget
  rw [get?_put] at hget
  split at hget
  · exact Option.some.inj hget ▸ hc
  · exact h key' c' hget

theorem WellFormed.delete (h : s.WellFormed) (key : Bytes) : (s.delete key).WellFormed := by
  intro key' c' hget
  rw [get?_delete] at hget
  split at hget
  · exact absurd hget (by simp)
  · exact h key' c' hget

/-- An empty collection is not put back, so it is enough to look at the others. -/
theorem WellFormed.putBack (h : s.WellFormed) (shape : Shape α) {a : α}
    (ha : shape.isEmpty a = false → (shape.pack a).WellFormed) :
    (s.putBack shape key a).WellFormed := by
  rw [Store.putBack]
  split
  · exact h.delete key
  · rename_i he
    exact h.put (ha (by simpa using he))

/-- Under a key is a sorted set as it must be, an absent key counting as the empty set. -/
theorem WellFormed.read (h : s.WellFormed) {z : SortedSet} (hr : s.read .sortedSet key = .ok z) :
    z.Indexed ∧ z.Numeric := by
  rcases read_eq_ok_iff.1 hr with ⟨-, rfl⟩ | hget
  · exact ⟨SortedSet.indexed_empty, SortedSet.numeric_empty⟩
  · exact (h key _ hget).2

/-- **Whatever a request does keeps the store well-formed.** -/
theorem Effect.wellFormed {request : Request} (he : s.Effect request s') (h : s.WellFormed)
    (hq : request.Numeric) : s'.WellFormed := by
  cases he with
  | askHash => exact h
  | askSet => exact h
  | changeHash => exact h.putBack .hash id
  | changeSet hread hrun =>
    obtain ⟨hindexed, hnumeric⟩ := h.read hread
    exact h.putBack .sortedSet fun hne =>
      ⟨hne, SetUpdate.indexed_run hindexed hrun, SetUpdate.numeric_run hnumeric hq hrun⟩
  | combine =>
    exact h.putBack .sortedSet fun hne =>
      ⟨hne, SortedSet.indexed_ofScores _, fun _ _ => isNaN_aggregate⟩

theorem WellFormed.apply [GlobEngine] (h : s.WellFormed) (c : Command) :
    (s.apply c).2.WellFormed := by
  rcases s.apply_cases c with ⟨text, ha⟩ | ⟨request, reply, s', hq, ha, -, he⟩
  · exact ha ▸ h
  · exact ha ▸ he.wellFormed h (Request.numeric_of_ofCommand hq)

/-! ### Runs -/

/-- What can happen to a store. -/
inductive Event where
  | apply (c : Command)
  | delete (key : Bytes)
  | flush

variable [GlobEngine]

/-- The store after an event. -/
def step (s : Store) : Event → Store
  | .apply c => (s.apply c).2
  | .delete key => s.delete key
  | .flush => empty

/-- The store after a run of events. -/
def run (s : Store) (events : List Event) : Store := events.foldl step s

@[simp] theorem run_nil (s : Store) : s.run [] = s := rfl

@[simp] theorem run_cons (s : Store) (e : Event) (events : List Event) :
    s.run (e :: events) = (s.step e).run events := rfl

theorem run_append (s : Store) (events events' : List Event) :
    s.run (events ++ events') = (s.run events).run events' := List.foldl_append

theorem WellFormed.step (h : s.WellFormed) (e : Event) : (s.step e).WellFormed := by
  cases e with
  | apply c => exact h.apply c
  | delete key => exact h.delete key
  | flush => exact wellFormed_empty

theorem WellFormed.run (h : s.WellFormed) (events : List Event) : (s.run events).WellFormed := by
  induction events generalizing s with
  | nil => exact h
  | cons e r ih => exact ih (h.step e)

/-- The store comes about from the empty one. -/
def Reachable (s : Store) : Prop := ∃ events, empty.run events = s

theorem reachable_run (h : s.Reachable) (events : List Event) : (s.run events).Reachable := by
  obtain ⟨before, rfl⟩ := h
  exact ⟨before ++ events, run_append empty before events⟩

theorem Reachable.wellFormed (h : s.Reachable) : s.WellFormed := by
  obtain ⟨events, rfl⟩ := h
  exact wellFormed_empty.run events

/-- **Every store that can come about is in order**: a hash under a key is not empty, nor is a
sorted set; its ranking has exactly one entry for each member, with the score of that member, and
no other entry; and no score is `nan`. -/
theorem collections_of_run (events : List Event) (key : Bytes) :
    (∀ h, (empty.run events).get? key = some (.hash h) → h.isEmpty = false) ∧
      ∀ z, (empty.run events).get? key = some (.sortedSet z) →
        z.isEmpty = false ∧
          (∀ m s, z.ranking.count (m, s) = if z.score? m = some s then 1 else 0) ∧
          ∀ m s, z.score? m = some s → s.isNaN = false := by
  have hwf : (empty.run events).WellFormed := wellFormed_empty.run events
  constructor
  · intro h hget
    exact hwf key _ hget
  · intro z hget
    obtain ⟨hne, hindexed, hnumeric⟩ := hwf key _ hget
    exact ⟨hne, hindexed.count_ranking, hnumeric⟩

end Store

end KeyWalk
