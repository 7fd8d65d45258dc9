import KeyWalk.Proofs.Delivery
import Mathlib.Data.List.Induction

/-!
The calls that a delivery makes.

A channel is called with elements that were read from tokens, and may refuse one.
`reader.elementAt? command tokens i` is the element at a position, read from its own tokens and from
no others, and `channel.logging` also keeps the elements that the channel was called with.
`Delivers` says how a delivery goes: which calls it makes, what it returns and what becomes of the
channel.

* `Reader.getElem?_elements`, `Reader.length_elements`: the elements of a token list by position,
* `Delivers.logging`: a log does not change how a delivery goes, and ends as the list of the calls,
* `Delivers.deliver_eq`, `exists_delivers`: every list of whole elements is delivered so,
* `deliver_calls`: any delivery, and what is collected, for any reader of elements.

Design notes.  A channel may do anything with what it is called with, so its state alone says little
about the calls.  The log says all.
-/

namespace KeyWalk

variable {ε γ δ : Type} {reader : Reader ε} {command : String} {tokens : List Reply}
  {channel : Channel ε γ} {g : γ} {es calls : List ε}

/-! ### Elements by position -/

namespace Reader

/-- The element at a position, read from its own token or pair of tokens. -/
def elementAt? : Reader ε → String → List Reply → Nat → Option (Outcome ε)
  | single read, command, tokens, i => tokens[i]?.map (read command)
  | paired read, command, tokens, i => do
    return read command (← tokens[2 * i]?) (← tokens[2 * i + 1]?)

theorem arity_pos (reader : Reader ε) : 0 < reader.arity := by
  cases reader with
  | single read => exact Nat.one_pos
  | paired read => exact Nat.two_pos

theorem length_elements (reader : Reader ε) (command : String) (tokens : List Reply) :
    (reader.elements command tokens).length = tokens.length / reader.arity := by
  cases reader with
  | single read =>
    rw [elements, List.length_map, arity, Nat.div_one]
  | paired read =>
    induction tokens using List.twoStepInduction with
    | nil => simp [elements]
    | singleton a => simp [elements, arity]
    | cons_cons a b rest ih =>
      rw [elements, List.length_cons, ih]
      show rest.length / 2 + 1 = (rest.length + 2) / 2
      omega

/-- **The elements are read in wire order**, each from its own tokens. -/
theorem getElem?_elements (reader : Reader ε) (command : String) (tokens : List Reply) (i : Nat) :
    (reader.elements command tokens)[i]? = reader.elementAt? command tokens i := by
  cases reader with
  | single read => rw [elements, List.getElem?_map, elementAt?]
  | paired read =>
    induction tokens using List.twoStepInduction generalizing i with
    | nil => simp [elements, elementAt?]
    | singleton a =>
      cases h : [a][2 * i]? <;> simp [elements, elementAt?, h]
    | cons_cons a b rest ih =>
      cases i with
      | zero => rfl
      | succ i =>
        rw [elements, List.getElem?_cons_succ, ih]
        rfl

end Reader

/-! ### Calls -/

namespace Channel

/-- The channel, with a list of all elements that it was called with. -/
def logging (channel : Channel ε γ) : Channel ε (γ × List ε) :=
  ⟨fun e s => ((channel.accept e s.1).1, (channel.accept e s.1).2, s.2 ++ [e])⟩

theorem after_logging (log : List ε) :
    channel.logging.after (g, log) es = (channel.after g es, log ++ es) := by
  induction es generalizing g log with
  | nil => rw [after_nil, after_nil, List.append_nil]
  | cons e r ih =>
    rw [after_cons, after_cons, List.append_cons]
    exact ih (log ++ [e])

theorem takes_logging (log : List ε) :
    channel.logging.Takes (g, log) es ↔ channel.Takes g es := by
  induction es generalizing g log with
  | nil => exact .rfl
  | cons e r ih => exact and_congr_right fun _ => ih (log ++ [e])

end Channel

/-- The elements are the first ones of the tokens, all of them can be read, and the channel takes
them. -/
structure Hands (reader : Reader ε) (command : String) (channel : Channel ε γ)
    (tokens : List Reply) (g : γ) (es : List ε) : Prop where
  read : ∀ i e, es[i]? = some e → reader.elementAt? command tokens i = some (.ok e)
  taken : channel.Takes g es

/-- How a delivery of whole elements goes: with which calls, in order, and to which end. -/
inductive Delivers (reader : Reader ε) (command : String) (channel : Channel ε γ)
    (tokens : List Reply) (g : γ) : List ε → Outcome Nat × γ → Prop
  /-- All elements are taken. -/
  | complete {es : List ε} (h : Hands reader command channel tokens g es)
      (hlength : es.length = tokens.length / reader.arity) :
      Delivers reader command channel tokens g es (.ok es.length, channel.after g es)
  /-- The next element cannot be read. -/
  | unread {es : List ε} {f : Failure} (h : Hands reader command channel tokens g es)
      (hread : reader.elementAt? command tokens es.length = some (.error f)) :
      Delivers reader command channel tokens g es (.error f, channel.after g es)
  /-- The channel is called with the next element and refuses it. -/
  | refused {es : List ε} {e : ε} {fault : Failure} {g' : γ}
      (h : Hands reader command channel tokens g es)
      (hread : reader.elementAt? command tokens es.length = some (.ok e))
      (hrefused : channel.accept e (channel.after g es) = (some fault, g')) :
      Delivers reader command channel tokens g (es ++ [e])
        (.error ⟨.channelFault es.length fault.message, fault.contexts⟩, g')

namespace Hands

/-- What is handed over is in front of all elements. -/
theorem elements_eq (h : Hands reader command channel tokens g es) :
    reader.elements command tokens =
      es.map .ok ++ (reader.elements command tokens).drop es.length := by
  refine List.ext_getElem? fun i => ?_
  by_cases hi : i < es.length
  · rw [List.getElem?_append_left (by rwa [List.length_map]), List.getElem?_map,
      List.getElem?_eq_getElem hi, reader.getElem?_elements,
      h.read i es[i] (List.getElem?_eq_getElem hi)]
    rfl
  · have hle : es.length ≤ i := Nat.le_of_not_lt hi
    rw [List.getElem?_append_right (by rwa [List.length_map]), List.length_map,
      List.getElem?_drop, Nat.add_sub_cancel' hle]

/-- The next element, if there is one. -/
theorem elements_next (h : Hands reader command channel tokens g es) {a : Outcome ε}
    (hnext : reader.elementAt? command tokens es.length = some a) :
    ∃ rest, reader.elements command tokens = es.map .ok ++ a :: rest := by
  rw [← reader.getElem?_elements] at hnext
  obtain ⟨hlt, rfl⟩ := List.getElem?_eq_some_iff.1 hnext
  refine ⟨(reader.elements command tokens).drop (es.length + 1), ?_⟩
  rw [← List.drop_eq_getElem_cons hlt]
  exact h.elements_eq

theorem of_elements {rest : List (Outcome ε)}
    (h : reader.elements command tokens = es.map .ok ++ rest) (htakes : channel.Takes g es) :
    Hands reader command channel tokens g es := by
  refine ⟨fun i e he => ?_, htakes⟩
  obtain ⟨hi, -⟩ := List.getElem?_eq_some_iff.1 he
  rw [← reader.getElem?_elements, h, List.getElem?_append_left (by rwa [List.length_map]),
    List.getElem?_map, he]
  rfl

/-- Another channel gets the same elements, if it takes them. -/
theorem into (h : Hands reader command channel tokens g es) {channel' : Channel ε δ} {d : δ}
    (htakes : channel'.Takes d es) : Hands reader command channel' tokens d es := ⟨h.read, htakes⟩

end Hands

namespace Delivers

variable {outcome : Outcome Nat} {g' : γ} {result : Outcome Nat × γ}

/-- **A log does not change how a delivery goes**, and the calls are added to it. -/
theorem logging (h : Delivers reader command channel tokens g calls (outcome, g'))
    (log : List ε) :
    Delivers reader command channel.logging tokens (g, log) calls
      (outcome, g', log ++ calls) := by
  have hinto : ∀ {es : List ε}, Hands reader command channel tokens g es →
      Hands reader command channel.logging tokens (g, log) es :=
    fun h => h.into ((Channel.takes_logging log).2 h.taken)
  cases h with
  | complete h hlength =>
    rw [← Channel.after_logging]
    exact .complete (hinto h) hlength
  | unread h hread =>
    rw [← Channel.after_logging]
    exact .unread (hinto h) hread
  | refused h hread hrefused =>
    refine .refused (hinto h) hread ?_
    rw [Channel.after_logging, Channel.logging]
    simp only [hrefused, List.append_assoc]

/-- A delivery goes so and not otherwise. -/
theorem deliver_eq (h : Delivers reader command channel tokens g calls result)
    (hwhole : tokens.length % reader.arity = 0) :
    deliver reader command channel tokens g = result := by
  rw [deliver, if_neg (not_not_intro hwhole)]
  cases h with
  | complete h hlength =>
    have hall : (reader.elements command tokens).drop calls.length = [] :=
      List.drop_eq_nil_of_le (Nat.le_of_eq (by rw [reader.length_elements, hlength]))
    rw [h.elements_eq, hall, List.append_nil, feed_takes_all h.taken]
  | unread h hread =>
    obtain ⟨rest, helements⟩ := h.elements_next hread
    rw [helements, feed_takes_error h.taken]
  | refused h hread hrefused =>
    obtain ⟨rest, helements⟩ := h.elements_next hread
    rw [helements, feed_refused h.taken (congrArg Prod.fst hrefused)]
    exact congrArg (Prod.mk _) (congrArg Prod.snd hrefused)

end Delivers

/-- **Every delivery of whole elements** goes in one of the three ways. -/
theorem exists_delivers (reader : Reader ε) (command : String) (channel : Channel ε γ)
    (tokens : List Reply) (g : γ) :
    ∃ calls outcome g', Delivers reader command channel tokens g calls (outcome, g') := by
  obtain ⟨es, htakes, hread | ⟨f, rest, hread⟩ | ⟨e, fault, rest, hread, hrefused⟩⟩ :=
    exists_taken channel g (reader.elements command tokens)
  · have hlength : es.length = tokens.length / reader.arity := by
      rw [← reader.length_elements command, hread, List.length_map]
    exact ⟨_, _, _, .complete (.of_elements (hread.trans (List.append_nil _).symm) htakes) hlength⟩
  · have hnext : reader.elementAt? command tokens es.length = some (.error f) := by
      rw [← reader.getElem?_elements, hread]
      simp
    exact ⟨_, _, _, .unread (.of_elements hread htakes) hnext⟩
  · have hnext : reader.elementAt? command tokens es.length = some (.ok e) := by
      rw [← reader.getElem?_elements, hread]
      simp
    exact ⟨_, _, _, .refused (.of_elements hread htakes) hnext (Prod.ext hrefused rfl)⟩

/-- What is collected is what a channel gets that takes everything. -/
theorem collect_eq_logged {taking : Channel ε δ} (h : ∀ e d, (taking.accept e d).1 = none) (d : δ)
    (hwhole : tokens.length % reader.arity = 0) :
    collect reader command tokens =
      (deliver reader command taking.logging tokens (d, [])).1.map fun _ =>
        (deliver reader command taking.logging tokens (d, [])).2.2 := by
  obtain ⟨calls, outcome, d', hdelivers⟩ := exists_delivers reader command taking tokens d
  rw [(hdelivers.logging []).deliver_eq hwhole, collect]
  cases hdelivers with
  | complete h hlength =>
    have hcollector : Delivers reader command .collector tokens [] calls _ :=
      .complete (h.into (Channel.takes_collector [] calls)) hlength
    rw [hcollector.deliver_eq hwhole, Channel.after_collector]
    rfl
  | unread h hread =>
    have hcollector : Delivers reader command .collector tokens [] calls _ :=
      .unread (h.into (Channel.takes_collector [] calls)) hread
    rw [hcollector.deliver_eq hwhole]
    rfl
  | refused _ _ hrefused => cases (congrArg Prod.fst hrefused).symm.trans (h _ _)

/-- **The calls that a delivery makes**, for any reader of elements, any tokens and any channel.
Tokens that do not make whole elements are refused before anything is called.  Otherwise the channel
is called with one element after the other, as they stand in the tokens, until one cannot be read
or is refused, and not again.  The delivery succeeds just if every element was read and taken, and
counts them; a refusal is reported with its position, its text and its contexts.  Collecting gives
what a channel gets that takes everything, and fails as that delivery does. -/
theorem deliver_calls (reader : Reader ε) (command : String) (channel : Channel ε γ)
    (tokens : List Reply) (g : γ) :
    (tokens.length % reader.arity ≠ 0 → ∃ f : Failure, f.status = .malformedReply ∧
      deliver reader command channel tokens g = (.error f, g) ∧
      deliver reader command channel.logging tokens (g, []) = (.error f, g, []) ∧
      collect reader command tokens = .error f) ∧
    (tokens.length % reader.arity = 0 → ∃ calls outcome g',
      Delivers reader command channel tokens g calls (outcome, g') ∧
      deliver reader command channel tokens g = (outcome, g') ∧
      deliver reader command channel.logging tokens (g, []) = (outcome, g', calls)) ∧
    (∀ n, (deliver reader command channel tokens g).1 = .ok n ↔
      tokens.length = n * reader.arity ∧
        ∃ es, es.length = n ∧ Hands reader command channel tokens g es) ∧
    ∀ {δ : Type} (taking : Channel ε δ) (d : δ), (∀ e d, (taking.accept e d).1 = none) →
      collect reader command tokens =
        (deliver reader command taking.logging tokens (d, [])).1.map fun _ =>
          (deliver reader command taking.logging tokens (d, [])).2.2 := by
  by_cases hwhole : tokens.length % reader.arity = 0
  · obtain ⟨calls, outcome, g', hdelivers⟩ := exists_delivers reader command channel tokens g
    have hdeliver := hdelivers.deliver_eq hwhole
    refine ⟨fun h => absurd hwhole h, fun _ => ⟨calls, outcome, g', hdelivers, hdeliver,
      (hdelivers.logging []).deliver_eq hwhole⟩, fun n => ?_,
      fun taking d htaking => collect_eq_logged htaking d hwhole⟩
    constructor
    · intro hn
      rw [hdeliver] at hn
      cases hdelivers with
      | complete h hlength =>
        cases hn
        exact ⟨(Nat.div_mul_cancel (Nat.dvd_of_mod_eq_zero hwhole)).symm.trans
          (congrArg (· * _) hlength.symm), _, rfl, h⟩
      | unread => cases hn
      | refused => cases hn
    · rintro ⟨hlength, es, rfl, h⟩
      have hall : es.length = tokens.length / reader.arity := by
        rw [hlength, Nat.mul_div_cancel _ reader.arity_pos]
      rw [(Delivers.complete h hall).deliver_eq hwhole]
  · -- every delivery of these tokens is refused at once
    obtain ⟨f, hf, hrefused⟩ : ∃ f : Failure, f.status = .malformedReply ∧
        ∀ {δ : Type} (channel : Channel ε δ) (d : δ),
          deliver reader command channel tokens d = (.error f, d) :=
      ⟨_, rfl, fun channel d => by rw [deliver, if_pos hwhole]; rfl⟩
    have hcollect : collect reader command tokens = .error f := by
      rw [collect, hrefused]
    refine ⟨fun _ => ⟨f, hf, hrefused _ _, hrefused _ _, hcollect⟩, fun h => absurd h hwhole,
      fun n => iff_of_false ?_ ?_, fun taking d _ => ?_⟩
    · rw [hrefused]
      intro hok
      cases hok
    · rintro ⟨hlength, -⟩
      exact hwhole (hlength ▸ Nat.mul_mod_left n reader.arity)
    · rw [hcollect, hrefused]
      rfl

/-- Three pairs, of which the channel takes one and refuses the next; the last one has a nested
error for a value and is never read. -/
theorem deliver_calls_refused_pair :
    let fault := (Failure.ofCause (.other .internal "full")).context "sink"
    let channel := Channel.refusingAfter 1 fault
    let tokens := [.value [0x61], .status "1", .value [0x62], .value [0x32], .value [0x63],
      .error "ERR no"]
    tokens.length % Reader.keyValue.arity = 0 ∧
      ∃ calls outcome taken, Delivers .keyValue "HSCAN" channel tokens [] calls (outcome, taken) ∧
        deliver .keyValue "HSCAN" channel tokens [] = (outcome, taken) ∧
        deliver .keyValue "HSCAN" channel.logging tokens ([], []) = (outcome, taken, calls) ∧
        outcome = .error ⟨.channelFault 1 fault.message, ["sink"]⟩ ∧ calls.length = 2 := by
  intro fault channel tokens
  have hwhole : tokens.length % Reader.keyValue.arity = 0 := Nat.mod_eq_zero_of_dvd ⟨3, rfl⟩
  obtain ⟨-, hwholes, -⟩ := deliver_calls .keyValue "HSCAN" channel tokens []
  obtain ⟨calls, outcome, taken, hdelivers, hdeliver, hlogging⟩ := hwholes hwhole
  have hlogged : deliver .keyValue "HSCAN" channel.logging tokens ([], []) =
      (.error ⟨.channelFault 1 fault.message, ["sink"]⟩, [⟨[0x61], Bytes.ofString "1"⟩],
        [⟨[0x61], Bytes.ofString "1"⟩, ⟨[0x62], [0x32]⟩]) := by
    rw [deliver, if_neg (not_not_intro hwhole)]
    rfl
  obtain ⟨houtcome, hrest⟩ := Prod.mk.inj (hlogging.symm.trans hlogged)
  obtain ⟨-, rfl⟩ := Prod.mk.inj hrest
  exact ⟨hwhole, _, outcome, taken, hdelivers, hdeliver, hlogging, houtcome, rfl⟩

end KeyWalk
