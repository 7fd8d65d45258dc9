import KeyWalk.Proofs.CallRequest
import KeyWalk.Proofs.LastChange

/-!
A score stays until something writes it.

`s.Writes key m e` says which events write the score of a member: what clears the store or the key,
a combination into the key, and a change of the set that names the member.  Everything else leaves
the score as it is, bit for bit.

* `SetUpdate.score?_run`: a change of a set keeps the scores of the members that it does not name,
* `Store.HasScore.step`: so does any event that does not write the member,
* `Store.HasScore.run`: and any run of such events,
* `Client.attempt_zadd`: adding a member at a score, over whatever score it had.
-/

namespace KeyWalk

/-! ### Changes of sets -/

namespace SortedSet

variable {z : SortedSet} {m : Bytes}

theorem isEmpty_eq_false_of_score? {v : Score} (h : z.score? m = some v) : z.isEmpty = false := by
  have hmem : (m, v) ∈ z.scores.entries := ByteMap.get?_eq_some_iff.1 h
  rw [isEmpty, ByteMap.isEmpty, List.isEmpty_eq_false_iff]
  exact List.ne_nil_of_mem hmem

end SortedSet

/-- The members that a change of the set is about. -/
def SetUpdate.names (z : SortedSet) : SetUpdate → List Bytes
  | add entries => entries.map (·.2)
  | increment _ member => [member]
  | remove members => members
  | removeSelected selection => (selection.pick z.ascending).map (·.1)

/-- **A change of a set keeps the scores of all other members.** -/
theorem SetUpdate.score?_run {update : SetUpdate} {z : SortedSet} {m : Bytes}
    (h : m ∉ update.names z) : (update.run z).2.score? m = z.score? m := by
  have hremoved : ∀ l : List Bytes, (l.map fun m => (m, (none : Option Score))).map (·.1) = l :=
    fun l => List.map_map.trans (List.map_id l)
  cases update with
  | add entries =>
    have hnot : m ∉ (entries.map fun e => (e.2, some e.1)).map (·.1) := by
      rwa [List.map_map]
    exact (z.score?_insertAll entries m).trans (lastChange_of_not_mem hnot)
  | remove members | removeSelected selection =>
    refine (z.score?_removeAll _ m).trans (lastChange_of_not_mem ?_)
    rw [hremoved]
    exact h
  | increment by_ member =>
    have hne : member ≠ m := fun heq => h (heq ▸ List.mem_singleton_self member)
    show (z.increment by_ member).2.score? m = _
    rw [SortedSet.increment]
    split
    · rfl
    · rw [SortedSet.score?_insert, if_neg hne]

/-! ### Events -/

namespace Store

variable {s s' : Store} {key m : Bytes} {v : Score}

/-- The key holds a sorted set with the member at the score. -/
def HasScore (s : Store) (key m : Bytes) (v : Score) : Prop :=
  ∃ z, s.get? key = some (.sortedSet z) ∧ z.score? m = some v

/-- The event writes the member, or the key as a whole. -/
inductive Writes [GlobEngine] (s : Store) (key m : Bytes) : Event → Prop where
  | flush : Writes s key m .flush
  | delete : Writes s key m (.delete key)
  | combine {c : Command} {mode : StoreMode} {sources : List (Score × Bytes)} {op : Aggregate}
      (h : Request.ofCommand c = .ok (.combine mode key sources op))
      (done : ¬(s.apply c).1.IsError) : Writes s key m (.apply c)
  | change {c : Command} {update : SetUpdate} {z : SortedSet}
      (h : Request.ofCommand c = .ok (.changeSet key update)) (done : ¬(s.apply c).1.IsError)
      (hz : s.read .sortedSet key = .ok z) (hm : m ∈ update.names z) : Writes s key m (.apply c)

/-- A change of a set that never names the member does not write it. -/
theorem not_writes_of_changeSet [GlobEngine] {c : Command} {key' : Bytes} {update : SetUpdate}
    (h : Request.ofCommand c = .ok (.changeSet key' update)) (hm : ∀ z, m ∉ update.names z) :
    ¬s.Writes key m (.apply c) := by
  intro hwrites
  cases hwrites with
  | combine hcombine => nomatch h.symm.trans hcombine
  | change hchange _ _ hnamed =>
    cases h.symm.trans hchange
    exact hm _ hnamed

/-- No event of a run writes the member, each looked at in the store that it meets. -/
def Spares [GlobEngine] (key m : Bytes) : Store → List Event → Prop
  | _, [] => True
  | s, e :: events => ¬s.Writes key m e ∧ Spares key m (s.step e) events

theorem HasScore.of_get?_eq (h : s.HasScore key m v) (heq : s'.get? key = s.get? key) :
    s'.HasScore key m v := by
  rwa [HasScore, heq]

theorem hasScore_putBack (s : Store) (key : Bytes) {z : SortedSet} (h : z.score? m = some v) :
    (s.putBack .sortedSet key z).HasScore key m v := by
  refine ⟨z, ?_, h⟩
  rw [get?_putBack_self, show Shape.sortedSet.isEmpty z = false from
    SortedSet.isEmpty_eq_false_of_score? h]
  rfl

theorem HasScore.effect (h : s.HasScore key m v) {request : Request} (he : s.Effect request s')
    (hcombine : ∀ mode sources op, request ≠ .combine mode key sources op)
    (hchange : ∀ update z, request = .changeSet key update → s.read .sortedSet key = .ok z →
      m ∉ update.names z) : s'.HasScore key m v := by
  obtain ⟨z, hget, hscore⟩ := id h
  cases he with
  | askHash => exact h
  | askSet => exact h
  | @changeHash key' _ _ _ _ hread =>
    by_cases hkey : key' = key
    · -- the change was refused, since the key holds no hash
      subst hkey
      rcases read_eq_ok_iff.1 hread with ⟨hnone, -⟩ | hhash
      · nomatch hget.symm.trans hnone
      · nomatch hget.symm.trans hhash
    · exact h.of_get?_eq (get?_putBack_of_ne s _ _ hkey)
  | @changeSet key' update _ _ _ hread hrun =>
    by_cases hkey : key' = key
    · subst hkey
      have hz : s.read .sortedSet key' = .ok z := read_eq_ok_iff.2 (.inr hget)
      cases hz.symm.trans hread
      have hkept := SetUpdate.score?_run (hchange update z rfl hz)
      rw [hrun] at hkept
      exact hasScore_putBack s key' (hkept.trans hscore)
    · exact h.of_get?_eq (get?_putBack_of_ne s _ _ hkey)
  | @combine mode destination sources op _ hread =>
    have hkey : destination ≠ key := fun heq => hcombine mode sources op (heq ▸ rfl)
    exact h.of_get?_eq (get?_putBack_of_ne s .sortedSet _ hkey)

theorem HasScore.step [GlobEngine] (h : s.HasScore key m v) {e : Event} (he : ¬s.Writes key m e) :
    (s.step e).HasScore key m v := by
  cases e with
  | flush => exact absurd .flush he
  | delete key' =>
    have hkey : key' ≠ key := fun heq => he (heq ▸ .delete)
    exact h.of_get?_eq (by rw [Store.step, get?_delete, if_neg hkey])
  | apply c =>
    rw [Store.step]
    -- a refused command leaves the store as it is, and any other has its effect
    rcases s.apply_cases c with
      ⟨text, hrefused⟩ | ⟨request, reply, s', hrequest, happly, hne, heffect⟩
    · rwa [hrefused]
    · rw [happly]
      have hdone : ¬(s.apply c).1.IsError := by rwa [happly]
      refine h.effect heffect ?_ ?_
      · rintro mode sources op rfl
        exact he (.combine hrequest hdone)
      · rintro update z rfl hz hm
        exact he (.change hrequest hdone hz hm)

theorem HasScore.run [GlobEngine] (h : s.HasScore key m v) {events : List Event}
    (hspares : Spares key m s events) : (s.run events).HasScore key m v := by
  induction events generalizing s with
  | nil => exact h
  | cons e events ih => exact ih (h.step hspares.1) hspares.2

end Store

/-! ### Adding a member -/

/-- A member is added at a score that is a number, over whatever score it had. -/
theorem Client.attempt_zadd [GlobEngine] {s : Store} {key : Bytes} {z : SortedSet} {v : Score}
    (options : ClientOptions) (hz : s.read .sortedSet key = .ok z) (hv : v.isNaN = false)
    (m : Bytes) :
    (s.apply ⟨.zadd, [key, Score.token v, m]⟩).2.HasScore key m v ∧
      ∃ n, ∀ {γ : Type} (g : γ),
        (blocking Transport.store options).attempt (Call.zadd key v m) s g =
          (.ok n, (s.apply ⟨.zadd, [key, Score.token v, m]⟩).2, g) := by
  have hne : [(v, m)] ≠ [] := List.cons_ne_nil _ _
  have hnumeric : ∀ e ∈ [(v, m)], e.1.isNaN = false := by
    intro e he
    rw [List.mem_singleton.1 he]
    exact hv
  have hrequest : Request.ofCommand ⟨.zadd, [key, Score.token v, m]⟩ =
      .ok (.changeSet key (.add [(v, m)])) :=
    Request.ofCommand_zadd hne hnumeric
  have happly : s.apply ⟨.zadd, [key, Score.token v, m]⟩ =
      (.count (z.insertAll [(v, m)]).1, s.putBack .sortedSet key (z.insertAll [(v, m)]).2) := by
    rw [Store.apply_of_ofCommand hrequest, Store.answer,
      s.write_eq .sortedSet key (SetUpdate.run_clean _), hz]
    rfl
  have hscore : (z.insertAll [(v, m)]).2.score? m = some v := by
    show (z.insert m v).2.score? m = _
    rw [SortedSet.score?_insert, if_pos rfl]
  refine ⟨?_, (z.insertAll [(v, m)]).1, fun {γ} g => ?_⟩
  · rw [happly]
    exact s.hasScore_putBack key hscore
  · have hcall : Call.zadd key v m =
        .ok (Call.integer (γ := γ) .zadd [key, Score.token v, m]) := by
      rw [Call.zadd, Call.zaddMulti, Call.scoredTokens, Call.checkScore, hv]
      rfl
    rw [hcall, happly]
    exact (overStore_blocking options).attempt_reading happly _ g

end KeyWalk
