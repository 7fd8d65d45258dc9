import KeyWalk.Delivery
import KeyWalk.Proofs.ScoreText

/-!
Delivery into any channel.

Delivery goes through the readings of a token list, each an element or a failure; tokens that do
not split into whole elements are a single failure.  A channel decides on the way which elements it
takes.

* `collect_eq_ok_iff`, `exists_readings_of_collect_error`: what the readings are when the tokens
  are collected, or are not,
* `deliver_of_collect`, `deliver_refused`, `exists_deliver_of_collect_error`: what then becomes of
  a channel that takes all elements, one that refuses some element, and one that takes all elements
  in front of a reading that failed,
* `deliver_eq_ok_iff`: only collected elements that are all taken make a delivery a success,
* `collect_pairs`: a pair of tokens for each entry makes one element for each entry.
-/

namespace KeyWalk

/-- A score that is sent as text is read back. -/
theorem Reply.readRequiredScore_token {s : Score} (hs : s.isNaN = false)
    (command absent : String) :
    (Reply.value (Score.token s)).readRequiredScore command absent = .ok s := by
  have hread : (Reply.value (Score.token s)).readScore command = .ok (some s) := by
    show some <$> Score.ofToken command (Score.token s) = .ok (some s)
    rw [Score.ofToken_token hs]
    rfl
  rw [readRequiredScore, hread]
  rfl

/-! ### What a channel takes -/

namespace Channel

variable {ε γ : Type} {channel : Channel ε γ} {g : γ} {e : ε} {es fs : List ε}

/-- The channel behind some elements that it was given in order. -/
def after (channel : Channel ε γ) (g : γ) (es : List ε) : γ :=
  es.foldl (fun g e => (channel.accept e g).2) g

/-- The channel takes the elements in order. -/
def Takes (channel : Channel ε γ) : γ → List ε → Prop
  | _, [] => True
  | g, e :: es => (channel.accept e g).1 = none ∧ Takes channel (channel.accept e g).2 es

@[simp] theorem after_nil : channel.after g [] = g := rfl

@[simp] theorem after_cons :
    channel.after g (e :: es) = channel.after (channel.accept e g).2 es := rfl

@[simp] theorem after_append :
    channel.after g (es ++ fs) = channel.after (channel.after g es) fs := List.foldl_append

@[simp] theorem takes_nil : channel.Takes g [] := trivial

@[simp] theorem takes_cons :
    channel.Takes g (e :: es) ↔
      (channel.accept e g).1 = none ∧ channel.Takes (channel.accept e g).2 es := .rfl

@[simp] theorem takes_append :
    channel.Takes g (es ++ fs) ↔ channel.Takes g es ∧ channel.Takes (channel.after g es) fs := by
  induction es generalizing g with
  | nil => simp
  | cons e r ih => simp [ih, and_assoc]

theorem takes_of_accepts (h : ∀ e g, (channel.accept e g).1 = none) : channel.Takes g es := by
  induction es generalizing g with
  | nil => exact trivial
  | cons e r ih => exact ⟨h e g, ih⟩

/-- A channel that does not take some elements refuses a first of them. -/
theorem exists_refused (h : ¬channel.Takes g es) :
    ∃ before e rest fault, es = before ++ e :: rest ∧ channel.Takes g before ∧
      (channel.accept e (channel.after g before)).1 = some fault := by
  induction es generalizing g with
  | nil => exact absurd trivial h
  | cons e r ih =>
    cases haccept : (channel.accept e g).1 with
    | some fault => exact ⟨[], e, r, fault, rfl, trivial, haccept⟩
    | none =>
      obtain ⟨before, e', rest, fault, rfl, htakes, hrefused⟩ := ih fun hr => h ⟨haccept, hr⟩
      exact ⟨e :: before, e', rest, fault, rfl, ⟨haccept, htakes⟩, hrefused⟩

theorem takes_collector (taken es : List ε) : collector.Takes taken es :=
  takes_of_accepts fun _ _ => rfl

theorem after_collector (taken es : List ε) : collector.after taken es = taken ++ es := by
  induction es generalizing taken with
  | nil => simp
  | cons e r ih =>
    rw [after_cons, ih]
    exact (List.append_cons taken e r).symm

end Channel

/-! ### Readings -/

variable {ε ι γ : Type} {channel : Channel ε γ} {g : γ} {reader : Reader ε} {command : String}
  {tokens : List Reply} {es : List ε}

/-- What delivery goes through: the elements of a token list, each read or failed, or the failure
of tokens that do not make whole elements. -/
def Reader.readings (reader : Reader ε) (command : String) (tokens : List Reply) :
    List (Outcome ε) :=
  if tokens.length % reader.arity ≠ 0 then
    [fail (.malformed command (toString tokens.length ++
      " tokens do not form whole elements of arity " ++ toString reader.arity))]
  else reader.elements command tokens

theorem deliver_eq_feed :
    deliver reader command channel tokens g =
      feed channel 0 (reader.readings command tokens) g := by
  rw [deliver, Reader.readings]
  split <;> rfl

/-- Either everything can be read, or there is a first reading that failed. -/
theorem exists_readable (l : List (Outcome ε)) :
    ∃ es : List ε, l = es.map .ok ∨ ∃ f rest, l = es.map .ok ++ .error f :: rest := by
  induction l with
  | nil => exact ⟨[], .inl rfl⟩
  | cons a r ih =>
    cases a with
    | error f => exact ⟨[], .inr ⟨f, r, rfl⟩⟩
    | ok e =>
      obtain ⟨es, rfl | ⟨f, rest, rfl⟩⟩ := ih
      · exact ⟨e :: es, .inl rfl⟩
      · exact ⟨e :: es, .inr ⟨f, rest, rfl⟩⟩

/-- **How far a channel comes**: it takes everything, or what is in front of an element that cannot
be read, or what is in front of one that it refuses. -/
theorem exists_taken (channel : Channel ε γ) (g : γ) (l : List (Outcome ε)) :
    ∃ es : List ε, channel.Takes g es ∧ (l = es.map .ok ∨
      (∃ f rest, l = es.map .ok ++ .error f :: rest) ∨
      ∃ e fault rest, l = es.map .ok ++ .ok e :: rest ∧
        (channel.accept e (channel.after g es)).1 = some fault) := by
  induction l generalizing g with
  | nil => exact ⟨[], trivial, .inl rfl⟩
  | cons a r ih =>
    cases a with
    | error f => exact ⟨[], trivial, .inr (.inl ⟨f, r, rfl⟩)⟩
    | ok e =>
      cases haccept : (channel.accept e g).1 with
      | some fault => exact ⟨[], trivial, .inr (.inr ⟨e, fault, r, rfl, haccept⟩)⟩
      | none =>
        -- the channel goes on in the state behind this element
        obtain ⟨es, htakes, rfl | ⟨f, rest, rfl⟩ | ⟨e', fault, rest, rfl, hrefused⟩⟩ :=
          ih (channel.accept e g).2
        · exact ⟨e :: es, ⟨haccept, htakes⟩, .inl rfl⟩
        · exact ⟨e :: es, ⟨haccept, htakes⟩, .inr (.inl ⟨f, rest, rfl⟩)⟩
        · exact ⟨e :: es, ⟨haccept, htakes⟩, .inr (.inr ⟨e', fault, rest, rfl, hrefused⟩)⟩

/-- Elements that the channel takes are counted. -/
theorem feed_takes (h : channel.Takes g es) (n : Nat) (rest : List (Outcome ε)) :
    feed channel n (es.map .ok ++ rest) g =
      feed channel (n + es.length) rest (channel.after g es) := by
  -- the position and the state of the channel move on with every element
  induction es generalizing n g with
  | nil => rfl
  | cons e r ih =>
    obtain ⟨haccept, htakes⟩ := h
    have hpair : channel.accept e g = (none, (channel.accept e g).2) := by rw [← haccept]
    rw [List.map_cons, List.cons_append, feed, hpair]
    show feed channel (n + 1) (r.map .ok ++ rest) (channel.accept e g).2 = _
    rw [ih htakes, List.length_cons, Nat.add_assoc, Nat.add_comm 1]
    rfl

theorem feed_takes_all (h : channel.Takes g es) :
    feed channel 0 (es.map .ok) g = (.ok es.length, channel.after g es) := by
  rw [← List.append_nil (es.map _), feed_takes h, Nat.zero_add]
  rfl

theorem feed_takes_error (h : channel.Takes g es) (f : Failure) (rest : List (Outcome ε)) :
    feed channel 0 (es.map .ok ++ .error f :: rest) g = (.error f, channel.after g es) := by
  rw [feed_takes h]
  rfl

/-- An element that the channel refuses ends the delivery at its position. -/
theorem feed_refused {e : ε} {fault : Failure} (h : channel.Takes g es)
    (hrefused : (channel.accept e (channel.after g es)).1 = some fault)
    (rest : List (Outcome ε)) :
    feed channel 0 (es.map .ok ++ .ok e :: rest) g =
      (.error (.ofRefusal es.length fault), (channel.accept e (channel.after g es)).2) := by
  have hpair : channel.accept e (channel.after g es) =
      (some fault, (channel.accept e (channel.after g es)).2) := by rw [← hrefused]
  rw [feed_takes h, Nat.zero_add, feed, hpair]

/-! ### What is collected -/

/-- The tokens are collected when everything can be read. -/
theorem collect_eq_ok_iff :
    collect reader command tokens = .ok es ↔ reader.readings command tokens = es.map .ok := by
  obtain ⟨fs, h | ⟨f, rest, h⟩⟩ := exists_readable (reader.readings command tokens)
  · have hcollect : collect reader command tokens = .ok fs := by
      rw [collect, deliver_eq_feed, h, feed_takes_all (Channel.takes_collector [] fs),
        Channel.after_collector]
      rfl
    rw [hcollect, h, Except.ok.injEq, List.map_inj_right fun _ _ h => Except.ok.inj h]
  · have hcollect : collect reader command tokens = .error f := by
      rw [collect, deliver_eq_feed, h, feed_takes_error (Channel.takes_collector [] fs)]
    rw [hcollect, h]
    refine iff_of_false nofun fun heq => ?_
    have hmem : Except.error f ∈ es.map (Except.ok (ε := Failure)) := by simp [← heq]
    simp at hmem

/-- Collecting fails with the first reading that failed. -/
theorem exists_readings_of_collect_error {f : Failure}
    (h : collect reader command tokens = .error f) :
    ∃ (es : List ε) (rest : List (Outcome ε)),
      reader.readings command tokens = es.map .ok ++ .error f :: rest := by
  obtain ⟨es, hread | ⟨f', rest, hread⟩⟩ := exists_readable (reader.readings command tokens)
  · rw [collect_eq_ok_iff.2 hread] at h
    nomatch h
  · rw [collect, deliver_eq_feed, hread, feed_takes_error (Channel.takes_collector [] es)] at h
    cases h
    exact ⟨es, rest, hread⟩

/-- Elements that can all be read, from a list of tokens that has no token too many. -/
theorem collect_of_elements (hwhole : tokens.length % reader.arity = 0)
    (h : reader.elements command tokens = es.map .ok) : collect reader command tokens = .ok es := by
  rw [collect_eq_ok_iff, Reader.readings, if_neg (not_not_intro hwhole), h]

/-! ### What is delivered -/

/-- A channel that takes everything that can be read. -/
theorem deliver_of_collect (h : collect reader command tokens = .ok es)
    (htakes : channel.Takes g es) :
    deliver reader command channel tokens g = (.ok es.length, channel.after g es) := by
  rw [deliver_eq_feed, collect_eq_ok_iff.1 h, feed_takes_all htakes]

/-- A channel that refuses an element that can be read: the failure tells the number of elements
in front of it. -/
theorem deliver_refused {before rest : List ε} {e : ε} {fault : Failure}
    (h : collect reader command tokens = .ok (before ++ e :: rest))
    (htakes : channel.Takes g before)
    (hrefused : (channel.accept e (channel.after g before)).1 = some fault) :
    deliver reader command channel tokens g =
      (.error (.ofRefusal before.length fault),
        (channel.accept e (channel.after g before)).2) := by
  rw [deliver_eq_feed, collect_eq_ok_iff.1 h, List.map_append, List.map_cons,
    feed_refused htakes hrefused]

/-- If collecting fails then so does delivery into every channel that takes the elements in front
of the failure. -/
theorem exists_deliver_of_collect_error {f : Failure}
    (h : collect reader command tokens = .error f) :
    ∃ part : List ε, ∀ {γ : Type} (channel : Channel ε γ) (g : γ), channel.Takes g part →
      deliver reader command channel tokens g = (.error f, channel.after g part) := by
  obtain ⟨part, rest, hread⟩ := exists_readings_of_collect_error h
  refine ⟨part, fun channel g htakes => ?_⟩
  rw [deliver_eq_feed, hread, feed_takes_error htakes]

/-- **A delivery is a success** just when everything can be read and the channel takes it all. -/
theorem deliver_eq_ok_iff {n : Nat} {g' : γ} :
    deliver reader command channel tokens g = (.ok n, g') ↔
      ∃ es, collect reader command tokens = .ok es ∧ channel.Takes g es ∧
        es.length = n ∧ channel.after g es = g' := by
  constructor
  · intro h
    obtain ⟨es, htakes, hread | ⟨f, rest, hread⟩ | ⟨e, fault, rest, hread, hrefused⟩⟩ :=
      exists_taken channel g (reader.readings command tokens)
    · have hcollect := collect_eq_ok_iff.2 hread
      rw [deliver_of_collect hcollect htakes] at h
      cases h
      exact ⟨es, hcollect, htakes, rfl, rfl⟩
    · rw [deliver_eq_feed, hread, feed_takes_error htakes] at h
      cases h
    · rw [deliver_eq_feed, hread, feed_refused htakes hrefused] at h
      cases h
  · rintro ⟨es, hcollect, htakes, rfl, rfl⟩
    exact deliver_of_collect hcollect htakes

/-! ### Pairs of tokens -/

theorem elements_pairs (read : String → Reply → Reply → Outcome ε) (command : String)
    (first second : ι → Reply) (l : List ι) :
    (Reader.paired read).elements command (l.flatMap fun i => [first i, second i]) =
      l.map fun i => read command (first i) (second i) := by
  induction l with
  | nil => rfl
  | cons i r ih =>
    rw [List.flatMap_cons, List.map_cons, ← ih]
    rfl

theorem length_pairs (first second : ι → Reply) (l : List ι) :
    (l.flatMap fun i => [first i, second i]).length = 2 * l.length := by
  induction l with
  | nil => rfl
  | cons i r ih =>
    rw [List.flatMap_cons, List.length_append, ih, List.length_cons]
    show 2 + 2 * r.length = 2 * (r.length + 1)
    omega

theorem collect_pairs {read : String → Reply → Reply → Outcome ε} {command : String}
    {first second : ι → Reply} {element : ι → ε} {l : List ι}
    (h : ∀ i ∈ l, read command (first i) (second i) = .ok (element i)) :
    collect (.paired read) command (l.flatMap fun i => [first i, second i]) =
      .ok (l.map element) := by
  refine collect_of_elements ?_ ?_
  · rw [length_pairs]
    exact Nat.mul_mod_right 2 l.length
  · rw [elements_pairs, List.map_map]
    exact List.map_congr_left h

end KeyWalk
