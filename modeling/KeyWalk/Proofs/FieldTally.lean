import KeyWalk.Proofs.CallRequest
import KeyWalk.Proofs.Delivery
import KeyWalk.Proofs.FieldCounter

/-!
Tallies in fields.

A field tallies if it holds the text of a finite number, or is absent, which counts as zero.  Where
nothing but additions of numbers puts anything into the field, each of them finds a text to read:

* `HashUpdate.Assigns`, `Store.Assigns`: the changes and the events that write the field otherwise,
* `Store.Tallies`: what the field holds, as `HGET` tells it,
* `Store.Tallies.step`, `Store.Tallies.run`: one event, and a run of them,
* `Hash.incrementFloat_of_numberAt`: an addition to a field that can be read,
* `Store.tallies_of_run`: what additions do behind such a run, also through a client.

Design notes.  An amount may be infinite, or so large that its text is read as infinity; then so is
the sum, which is refused.  The text of a sum is read back as the sum itself, bit for bit, so no
addition depends on how many others went through the text before it.
-/

namespace KeyWalk

/-! ### Hashes -/

/-- The field is absent, or it holds the text of a finite number. -/
def Hash.Tallies (h : Hash) (field : Bytes) : Prop :=
  ∀ text, h.get? field = some text → ∃ v : Score, v.isFinite = true ∧ text = Score.token v

/-- The change writes the field, and not by adding a number to what is there. -/
def HashUpdate.Assigns (h : Hash) (field : Bytes) : HashUpdate → Prop
  | delete _ | incrementFloat .. => False
  | increment name _ | set name _ => name = field
  | setIfAbsent name _ => name = field ∧ h.get? field = none
  | setMany pairs => field ∈ pairs.map (·.1)

namespace Hash

variable {h h' : Hash} {field : Bytes} {v amount : Score}

theorem tallies_empty (field : Bytes) : Tallies ByteMap.empty field := fun _ hget => nomatch hget

theorem Tallies.of_get? (hh : h.Tallies field)
    (hsub : ∀ text, h'.get? field = some text → h.get? field = some text) : h'.Tallies field :=
  fun text hget => hh text (hsub text hget)

theorem tallies_insert (h : Hash) (field : Bytes) (hv : v.isFinite = true) :
    Tallies (h.insert field (Score.token v)) field := by
  intro text hget
  rw [ByteMap.get?_insert, if_pos rfl] at hget
  exact ⟨v, hv, (Option.some.inj hget).symm⟩

/-- **What tallies can be read** as a finite number. -/
theorem Tallies.exists_numberAt (hh : h.Tallies field) :
    ∃ v : Score, v.isFinite = true ∧ h.numberAt field = .ok v ∧
      (h.get? field).elim (some (Binary64.zero false)) Score.ofToken? = some v := by
  rw [numberAt]
  cases hget : h.get? field with
  | none => exact ⟨Binary64.zero false, rfl, rfl, rfl⟩
  | some text =>
    obtain ⟨v, hv, rfl⟩ := hh text hget
    have hread : Score.ofToken? (Score.token v) = some v :=
      Score.ofToken?_token (Binary64.isNaN_of_isFinite hv)
    refine ⟨v, hv, ?_, hread⟩
    simp only [hread]

/-- An addition to a field that can be read: the sum alone decides. -/
theorem incrementFloat_of_numberAt (hv : h.numberAt field = .ok v) (amount : Score) :
    h.incrementFloat field amount =
      if (v.add amount).isFinite = true then
        (.ok (Score.token (v.add amount)), h.insert field (Score.token (v.add amount)))
      else (.error .notFinite, h) := by
  rw [incrementFloat, hv]

theorem tallies_incrementFloat {text : Bytes}
    (hr : h.incrementFloat field amount = (.ok text, h')) : h'.Tallies field := by
  cases hv : h.numberAt field with
  | error f =>
    rw [incrementFloat, hv] at hr
    cases hr
  | ok v =>
    rw [incrementFloat_of_numberAt hv] at hr
    by_cases hfinite : (v.add amount).isFinite = true
    · rw [if_pos hfinite] at hr
      cases hr
      exact h.tallies_insert field hfinite
    · rw [if_neg hfinite] at hr
      cases hr

theorem get?_of_deleteAll {text : Bytes} (fields : List Bytes)
    (hget : (h.deleteAll fields).2.get? field = some text) : h.get? field = some text := by
  induction fields generalizing h with
  | nil => exact hget
  | cons f r ih =>
    have herased : (h.erase f).get? field = some text := ih hget
    rw [ByteMap.get?_erase] at herased
    by_cases hf : f = field
    · rw [if_pos hf] at herased
      cases herased
    · rwa [if_neg hf] at herased

end Hash

/-- **A change that does not write the field otherwise** leaves it tallying. -/
theorem HashUpdate.tallies_run {update : HashUpdate} {h h' : Hash} {field : Bytes} {reply : Reply}
    (hh : h.Tallies field) (hr : update.run h = (.ok reply, h'))
    (hassigns : ¬update.Assigns h field) : h'.Tallies field := by
  obtain ⟨hreply, rfl⟩ := Prod.mk.inj hr
  -- a change of other fields does not touch this one
  have hkept : field ∉ update.names → (update.run h).2.Tallies field := fun hnames =>
    hh.of_get? fun text hget => (HashUpdate.get?_run hnames).symm.trans hget
  have hother : ∀ {name : Bytes}, name ≠ field → field ∉ [name] := fun hne hmem =>
    hne (List.mem_singleton.1 hmem).symm
  cases update with
  | delete fields => exact hh.of_get? fun text hget => Hash.get?_of_deleteAll fields hget
  | increment name by_ => exact hkept (hother hassigns)
  | set name value => exact hkept (hother hassigns)
  | setMany pairs => exact hkept hassigns
  | setIfAbsent name value =>
    by_cases hname : name = field
    · -- the field has a value, which is kept
      refine hh.of_get? fun text hget => ?_
      have hget := (h.get?_setIfAbsent name value field).symm.trans hget
      rw [if_pos hname] at hget
      cases hold : h.get? field with
      | none => exact absurd ⟨hname, hold⟩ hassigns
      | some old =>
        rw [hname, hold] at hget
        exact hget
    · exact hkept (hother hname)
  | incrementFloat name by_ =>
    by_cases hname : name = field
    · subst hname
      obtain ⟨text, htext⟩ := Except.exists_of_map_eq_ok hreply
      exact Hash.tallies_incrementFloat (Prod.ext htext rfl)
    · exact hkept (hother hname)

/-! ### Commands -/

/-- The command adds the number to the field, however it spells it. -/
def Command.Adds (key field : Bytes) (amount : Score) (c : Command) : Prop :=
  ∃ token, c = ⟨.hincrbyfloat, [key, field, token]⟩ ∧ Score.ofToken? token = some amount

theorem Command.Adds.ofCommand [GlobEngine] {key field : Bytes} {amount : Score} {c : Command}
    (h : c.Adds key field amount) :
    Request.ofCommand c = .ok (.changeHash key (.incrementFloat field amount)) := by
  obtain ⟨token, rfl, htoken⟩ := h
  refine Request.ofCommand_about .changeHash rfl ?_
  rw [Arguments.bind_of_ok (Arguments.next_cons _ _),
    Arguments.bind_of_ok (Arguments.score_eq_ok_iff.2 ⟨token, htoken, rfl⟩)]
  rfl

/-! ### Stores -/

namespace Store

section Engine

variable [GlobEngine] {s s' : Store} {key field : Bytes} {amount : Score} {c : Command}

/-- The field, asked for, is the text of a finite number, if it is a text at all. -/
def Tallies (s : Store) (key field : Bytes) : Prop :=
  ∀ text, s.apply ⟨.hget, [key, field]⟩ = (.value text, s) →
    ∃ v : Score, v.isFinite = true ∧ text = Score.token v

/-- The event writes the field, and not by adding a number to what is there. -/
def Assigns (s : Store) (key field : Bytes) : Event → Prop
  | .apply c => ¬(s.apply c).1.IsError ∧ ∃ update h,
      Request.ofCommand c = .ok (.changeHash key update) ∧ s.read .hash key = .ok h ∧
        update.Assigns h field
  | .delete _ | .flush => False

/-- Whatever a run writes into the field it writes by adding numbers, each event being looked at in
the store that it meets. -/
def OnlyAdds (key field : Bytes) : Store → List Event → Prop
  | _, [] => True
  | s, e :: events => ¬s.Assigns key field e ∧ OnlyAdds key field (s.step e) events

/-- A change of the hash that cannot write the field otherwise. -/
theorem not_assigns_of_ofCommand {update : HashUpdate}
    (hq : Request.ofCommand c = .ok (.changeHash key update)) (h : ∀ m, ¬update.Assigns m field) :
    ¬s.Assigns key field (.apply c) := by
  rintro ⟨-, update', m, hq', -, hassigns⟩
  cases hq.symm.trans hq'
  exact h m hassigns

theorem tallies_iff :
    s.Tallies key field ↔ ∀ h, s.read .hash key = .ok h → h.Tallies field := by
  constructor
  · intro hs h hread text hget
    refine hs text ?_
    rw [apply_hget field hread, hget]
    rfl
  · intro hs text hget
    obtain ⟨h, hread, htext⟩ := exists_read_of_hget hget
    exact hs h hread text htext

/-- Where there is no hash, there is no field. -/
theorem tallies_of_no_hash (h : ∀ m : Hash, s.get? key ≠ some (.hash m)) :
    s.Tallies key field := by
  refine tallies_iff.2 fun m hread => ?_
  rcases read_eq_ok_iff.1 hread with ⟨-, rfl⟩ | hget
  · exact Hash.tallies_empty field
  · exact absurd hget (h m)

theorem tallies_of_get?_eq_none (h : s.get? key = none) : s.Tallies key field := by
  refine tallies_of_no_hash fun m hget => ?_
  cases h.symm.trans hget

theorem tallies_empty (key field : Bytes) : empty.Tallies key field :=
  tallies_of_get?_eq_none (get?_empty key)

theorem tallies_putBack_hash (s : Store) (key : Bytes) {h : Hash} (hh : h.Tallies field) :
    (s.putBack .hash key h).Tallies key field := by
  refine tallies_iff.2 fun h' hread => ?_
  rw [read_putBack_hash] at hread
  exact Except.ok.inj hread ▸ hh

theorem tallies_putBack_sortedSet (s : Store) (key field : Bytes) (z : SortedSet) :
    (s.putBack .sortedSet key z).Tallies key field := by
  refine tallies_of_no_hash fun m hget => ?_
  rw [get?_putBack_self] at hget
  by_cases hempty : Shape.sortedSet.isEmpty z = true
  · rw [if_pos hempty] at hget
    cases hget
  · rw [if_neg hempty] at hget
    cases hget

namespace Tallies

theorem of_get? (h : s.Tallies key field) (hget : s'.get? key = s.get? key) :
    s'.Tallies key field := by
  refine tallies_iff.2 fun m hread => ?_
  rw [read_congr .hash hget] at hread
  exact tallies_iff.1 h m hread

theorem effect {request : Request} (h : s.Tallies key field) (he : s.Effect request s')
    (hassigns : ∀ update m, request = .changeHash key update → s.read .hash key = .ok m →
      ¬update.Assigns m field) : s'.Tallies key field := by
  cases he with
  | askHash => exact h
  | askSet => exact h
  | @changeHash key' update m reply m' hread hrun =>
    by_cases hkey : key' = key
    · subst hkey
      have hm : m.Tallies field := tallies_iff.1 h m hread
      exact s.tallies_putBack_hash key'
        (HashUpdate.tallies_run hm hrun (hassigns update m rfl hread))
    · exact h.of_get? (get?_putBack_of_ne s _ _ hkey)
  | @changeSet key' update z reply z' hread hrun =>
    by_cases hkey : key' = key
    · subst hkey
      exact s.tallies_putBack_sortedSet key' field z'
    · exact h.of_get? (get?_putBack_of_ne s _ _ hkey)
  | @combine mode destination sources op weighted hread =>
    by_cases hkey : destination = key
    · subst hkey
      exact s.tallies_putBack_sortedSet destination field _
    · exact h.of_get? (get?_putBack_of_ne s .sortedSet _ hkey)

/-- **An event that does not write the field otherwise** leaves it tallying. -/
theorem step (h : s.Tallies key field) {e : Event} (he : ¬s.Assigns key field e) :
    (s.step e).Tallies key field := by
  cases e with
  | flush => exact tallies_empty key field
  | delete key' =>
    by_cases hkey : key' = key
    · exact tallies_of_get?_eq_none (by rw [Store.step, get?_delete, if_pos hkey])
    · exact h.of_get? (by rw [Store.step, get?_delete, if_neg hkey])
  | apply c =>
    rw [Store.step]
    rcases s.apply_cases c with ⟨text, hrefused⟩ | ⟨request, reply, s', hq, happly, hne, heffect⟩
    · rwa [hrefused]
    · rw [happly]
      refine h.effect heffect ?_
      rintro update m rfl hread hassigns
      have hdone : ¬(s.apply c).1.IsError := by rwa [happly]
      exact he ⟨hdone, update, m, hq, hread, hassigns⟩

/-- **A run that only adds to the field** leaves it tallying. -/
theorem run (h : s.Tallies key field) {events : List Event}
    (hevents : OnlyAdds key field s events) : (s.run events).Tallies key field := by
  induction events generalizing s with
  | nil => exact h
  | cons e events ih => exact ih (h.step hevents.1) hevents.2

end Tallies

/-! ### Additions -/

/-- **An addition to a field that can be read.**  Nothing changes if the sum is not finite; else the
sum, in decimal, is the reply and is what the field holds. -/
theorem apply_adds {m : Hash} {v : Score} (hc : c.Adds key field amount)
    (hread : s.read .hash key = .ok m) (hv : m.numberAt field = .ok v) :
    s.apply c =
      if (v.add amount).isFinite = true then
        (.value (Score.token (v.add amount)),
          s.putBack .hash key (m.insert field (Score.token (v.add amount))))
      else (.error "ERR increment would produce NaN or Infinity", s) := by
  have hrun : HashUpdate.run m (.incrementFloat field amount) =
      ((m.incrementFloat field amount).1.map .value, (m.incrementFloat field amount).2) := rfl
  rw [apply_of_ofCommand (hc.ofCommand), answer,
    s.write_eq .hash key (HashUpdate.run_clean _), hread]
  simp only [hrun, Hash.incrementFloat_of_numberAt hv]
  by_cases hfinite : (v.add amount).isFinite = true
  · simp only [if_pos hfinite]
    rfl
  · simp only [if_neg hfinite]
    rfl

/-- No addition finds a text that it cannot read. -/
theorem Tallies.apply_ne (h : s.Tallies key field) (hc : c.Adds key field amount) :
    (s.apply c).1 ≠ .error "ERR hash value is not a float" := by
  cases hread : s.read .hash key with
  | error f =>
    rw [apply_of_ofCommand (hc.ofCommand), answer,
      s.write_eq .hash key (HashUpdate.run_clean _), hread]
    -- the key holds a sorted set, and that is what the reply says
    obtain ⟨rfl, -⟩ := read_eq_error hread
    obtain ⟨token, rfl, -⟩ := hc
    have hmessage : Fault.message .hincrbyfloat .wrongType ≠ "ERR hash value is not a float" := by
      decide
    exact fun herror => hmessage (Reply.error.inj herror)
  | ok m =>
    obtain ⟨v, -, hv, -⟩ := (tallies_iff.1 h m hread).exists_numberAt
    rw [apply_adds hc hread hv]
    by_cases hfinite : (v.add amount).isFinite = true
    · rw [if_pos hfinite]
      intro herror
      cases herror
    · rw [if_neg hfinite]
      exact fun herror => absurd (Reply.error.inj herror) (by decide)

/-! ### Through a client -/

variable {client : Client Store} {γ : Type}

/-- The call whose sum is refused. -/
theorem attempt_hincrbyfloat_refused (hclient : client.OverStore) (hfinite : amount.isFinite = true)
    (happly : s.apply ⟨.hincrbyfloat, [key, field, Score.token amount]⟩ =
      (.error "ERR increment would produce NaN or Infinity", s)) (g : γ) :
    ∃ f, client.attempt (Call.hincrbyfloat key field amount) s g = (.error f, s, g) ∧
      f.status = .serverError := by
  rw [Call.hincrbyfloat, if_pos hfinite]
  have hrelays : (Prepared.reading (γ := γ) ⟨.hincrbyfloat, [key, field, Score.token amount]⟩
      (Reply.readRequiredScore "HINCRBYFLOAT" "nil result")).Relays .notFinite :=
    Prepared.relays_reading (Reply.checked_readRequiredScore _ _) trivial
  exact hclient.attempt_fault hrelays happly g

/-- **Tallies in fields.**  If all that a run writes into a field it writes by adding numbers to it,
of whatever size, then the field is absent or holds the text of a finite number, and no addition is
refused for what the field holds.  An addition whose sum is not finite is refused and changes
nothing.  Any other one replies with the text that the field holds then, which a client reads as the
sum of the amount and the number that the field held before, zero if it was absent. -/
theorem tallies_of_run (hclient : client.OverStore) (h : s.Tallies key field)
    {events : List Event} (hevents : OnlyAdds key field s events) :
    let after := s.run events
    let get : Command := ⟨.hget, [key, field]⟩
    after.Tallies key field ∧
      ∀ c amount, c.Adds key field amount →
        let next := (after.apply c).2
        (after.apply c).1 ≠ .error "ERR hash value is not a float" ∧
        ∀ found, after.apply get = (.bulk found, after) →
          ∃ v : Score, v.isFinite = true ∧
            found.elim (some (Binary64.zero false)) Score.ofToken? = some v ∧
            ((v.add amount).isFinite = false →
              after.apply c = (.error "ERR increment would produce NaN or Infinity", after) ∧
              (amount.isFinite = true → ∀ g : γ, ∃ f,
                client.attempt (Call.hincrbyfloat key field amount) after g = (.error f, after, g) ∧
                  f.status = .serverError)) ∧
            ((v.add amount).isFinite = true → ∃ text,
              after.apply c = (.value text, next) ∧ next.apply get = (.value text, next) ∧
              (Reply.value text).readRequiredScore "HINCRBYFLOAT" "nil result" =
                .ok (v.add amount) ∧
              (amount.isFinite = true → ∀ g : γ,
                client.attempt (Call.hincrbyfloat key field amount) after g =
                  (.ok (v.add amount), next, g))) := by
  intro after get
  have hafter : after.Tallies key field := h.run hevents
  refine ⟨hafter, fun c amount hc => ?_⟩
  intro next
  refine ⟨hafter.apply_ne hc, fun found hget => ?_⟩
  obtain ⟨m, hread, rfl⟩ := exists_read_of_hget hget
  obtain ⟨v, hfinite, hv, hfound⟩ := (tallies_iff.1 hafter m hread).exists_numberAt
  -- the call sends an addition of the same amount
  have hsent : amount.isFinite = true →
      Command.Adds key field amount ⟨.hincrbyfloat, [key, field, Score.token amount]⟩ :=
    fun hamount => ⟨_, rfl, Score.ofToken?_token (Binary64.isNaN_of_isFinite hamount)⟩
  refine ⟨v, hfinite, hfound, fun hsum => ?_, fun hsum => ?_⟩
  · have hrefused : ∀ {d : Command}, d.Adds key field amount →
        after.apply d = (.error "ERR increment would produce NaN or Infinity", after) := by
      intro d hd
      rw [apply_adds hd hread hv, if_neg (Bool.eq_false_iff.1 hsum)]
    exact ⟨hrefused hc, fun hamount =>
      attempt_hincrbyfloat_refused hclient hamount (hrefused (hsent hamount))⟩
  · let sum : Bytes := Score.token (v.add amount)
    have hadded : ∀ {d : Command}, d.Adds key field amount →
        after.apply d = (.value sum, after.putBack .hash key (m.insert field sum)) := by
      intro d hd
      rw [apply_adds hd hread hv, if_pos hsum]
    have hnext : next = after.putBack .hash key (m.insert field sum) :=
      congrArg Prod.snd (hadded hc)
    have hdecode : (Reply.value sum).readRequiredScore "HINCRBYFLOAT" "nil result" =
        .ok (v.add amount) :=
      Reply.readRequiredScore_token (Binary64.isNaN_of_isFinite hsum) _ _
    refine ⟨sum, hnext ▸ hadded hc, ?_, hdecode, fun hamount g => ?_⟩
    · rw [hnext, apply_hget field (read_putBack_hash _ _ _), ByteMap.get?_insert, if_pos rfl]
      rfl
    · rw [Call.hincrbyfloat, if_pos hamount, hnext,
        hclient.attempt_reading (hadded (hsent hamount)) _ g, hdecode]

end Engine

attribute [local instance] Glob.engine

/-- A tenth and two tenths, with a change of another field between them and an infinite amount after
them, which is refused; then another infinite amount, and three tenths. -/
theorem tallies_of_run_tenths :
    let add (amount : String) : Command :=
      ⟨.hincrbyfloat, ["h", "f", amount].map Bytes.ofString⟩
    let get : Command := ⟨.hget, ["h", "f"].map Bytes.ofString⟩
    let events := [Event.apply (add "0.1"),
      .apply ⟨.hset, ["h", "g", "text"].map Bytes.ofString⟩, .apply (add "0.2"),
      .apply (add "-1e400")]
    let after := empty.run events
    let next := (after.apply (add "0.3")).2
    OnlyAdds (Bytes.ofString "h") (Bytes.ofString "f") empty events ∧
      after.apply (add "Infinity") =
        (.error "ERR increment would produce NaN or Infinity", after) ∧
      ∃ text, after.apply (add "0.3") = (.value text, next) ∧
        next.apply get = (.value text, next) ∧
        (Reply.value text).readRequiredScore "HINCRBYFLOAT" "nil result" =
          .ok (.signed false 0x3FE3333333333334 (by decide)) := by
  intro add get events after next
  have hother : Bytes.ofString "g" ≠ Bytes.ofString "f" := by decide
  have hevents : OnlyAdds (Bytes.ofString "h") (Bytes.ofString "f") empty events := by
    refine ⟨?_, ?_, ?_, ?_, trivial⟩
    · exact not_assigns_of_ofCommand rfl fun _ => id
    · exact not_assigns_of_ofCommand rfl fun _ => hother
    · exact not_assigns_of_ofCommand rfl fun _ => id
    · exact not_assigns_of_ofCommand rfl fun _ => id
  obtain ⟨-, hadds⟩ := tallies_of_run (γ := Unit) (Client.overStore_blocking {})
    (tallies_empty _ _) hevents
  let m : Hash := .ofList [(Bytes.ofString "f", Bytes.ofString "0.30000000000000004"),
    (Bytes.ofString "g", Bytes.ofString "text")]
  have hm : after.get? (Bytes.ofString "h") = some (.hash m) := by decide +kernel
  have hget : after.apply get = (.bulk (some (Bytes.ofString "0.30000000000000004")), after) :=
    apply_hget (Bytes.ofString "f") (read_eq_ok_iff.2 (.inr hm))
  -- what the field holds, read as a number
  have hheld : Score.ofToken? (Bytes.ofString "0.30000000000000004") =
      some (.signed false 0x3FD3333333333334 (by decide)) := by decide +kernel
  refine ⟨hevents, ?_, ?_⟩
  · obtain ⟨v, -, hv, hrefused, -⟩ :=
      (hadds (add "Infinity") (.inf false) ⟨_, rfl, by decide +kernel⟩).2 _ hget
    obtain rfl := Option.some.inj (hheld.symm.trans hv)
    exact (hrefused (by decide +kernel)).1
  · obtain ⟨v, -, hv, -, hadded⟩ :=
      (hadds (add "0.3") (.signed false 0x3FD3333333333333 (by decide))
        ⟨_, rfl, by decide +kernel⟩).2 _ hget
    obtain rfl := Option.some.inj (hheld.symm.trans hv)
    obtain ⟨text, hreply, hnext, hdecode, -⟩ := hadded (by decide +kernel)
    refine ⟨text, hreply, hnext, hdecode.trans ?_⟩
    exact congrArg Except.ok (by decide +kernel)

end Store

end KeyWalk
