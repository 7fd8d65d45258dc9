import KeyWalk.Proofs.Binary64
import KeyWalk.Proofs.Contributions

/-!
Combinations and the order of their sources.

A minimum or a maximum is one of the scores that it is made of, and goes before all of them
(`Aggregate.Prefers`).  That says which number it is, and neither the order of the scores nor how
often one is listed comes into it:

* `Aggregate.join_cases`: of two scores the one that goes first is kept,
* `Aggregate.total?_spec`: so what is kept of a list is in it, and goes before all that is in it,
* `aggregate_of_mem_iff`: combinations of the same sources have the same members and scores,
* `aggregate_sum_swap`: a sum of two sources does not depend on which of them comes first,
* `aggregate_orderless`: both.

Design notes.  Scores are compared as numbers: of `-0` and `0` it is the order of the sources that
decides which one is kept.  A sum of three sources does depend on their order, because it is rounded
after each of them.
-/

namespace KeyWalk

variable {op : Aggregate} {mode : StoreMode} {sources sources' : List (Score × ByteMap Score)}
  {m : Bytes} {a b c s s' : Score} {cs cs' : List Score}

namespace Aggregate

open Binary64

/-- The first score goes before the second one: the lesser before the greater for a minimum, the
other way round for a maximum.  A sum keeps neither of two scores. -/
def Prefers : Aggregate → Score → Score → Prop
  | min, a, c => a.le c = true
  | max, a, c => c.le a = true
  | sum, _, _ => False

theorem Prefers.trans (hab : op.Prefers a b) (hbc : op.Prefers b c) : op.Prefers a c := by
  cases op with
  | sum => exact hab
  | min => exact le_trans hab hbc
  | max => exact le_trans hbc hab

/-- Two scores that go before each other are the same number. -/
theorem Prefers.antisymm (hab : op.Prefers a b) (hba : op.Prefers b a) : a.SameNumber b := by
  cases op with
  | sum => exact hab.elim
  | min => exact ⟨hab, hba⟩
  | max => exact ⟨hba, hab⟩

theorem prefers_refl (hop : op ≠ .sum) (ha : a.isNaN = false) : op.Prefers a a := by
  cases op with
  | sum => exact absurd rfl hop
  | min | max => exact le_refl ha

/-- **Of two scores the one that goes first is kept.** -/
theorem join_cases (hop : op ≠ .sum) (ha : a.isNaN = false) (hc : c.isNaN = false) :
    op.join a c = a ∧ op.Prefers a c ∨ op.join a c = c ∧ op.Prefers c a := by
  rw [← op.combine_eq_join ha hc]
  cases op with
  | sum => exact absurd rfl hop
  | min => exact min_cases ha hc
  | max => exact max_cases ha hc

/-- What is kept of some scores is one of them, and goes before all of them. -/
theorem foldl_join_spec (hop : op ≠ .sum) (ha : a.isNaN = false)
    (hcs : ∀ c ∈ cs, c.isNaN = false) :
    cs.foldl op.join a ∈ a :: cs ∧ ∀ c ∈ a :: cs, op.Prefers (cs.foldl op.join a) c := by
  induction cs generalizing a with
  | nil =>
    refine ⟨List.mem_singleton_self a, fun c hc => ?_⟩
    obtain rfl := List.mem_singleton.1 hc
    exact prefers_refl hop ha
  | cons b r ih =>
    have hb : b.isNaN = false := hcs b List.mem_cons_self
    have hjoin : (op.join a b).isNaN = false := op.combine_eq_join ha hb ▸ op.isNaN_combine ha hb
    obtain ⟨hmem, hfirst⟩ := ih hjoin fun c hc => hcs c (List.mem_cons_of_mem _ hc)
    -- what is kept of `a` and `b` is one of them, and goes before both
    obtain ⟨hkept, hbefore⟩ : op.join a b ∈ [a, b] ∧ ∀ c ∈ [a, b], op.Prefers (op.join a b) c := by
      rcases join_cases hop ha hb with ⟨heq, hprefers⟩ | ⟨heq, hprefers⟩
      · simp [heq, hprefers, prefers_refl hop ha]
      · simp [heq, hprefers, prefers_refl hop hb]
    rw [List.foldl_cons]
    constructor
    · rcases List.mem_cons.1 hmem with heq | hmem
      · rw [heq]
        exact List.mem_append_left r hkept
      · exact List.mem_cons_of_mem _ (List.mem_cons_of_mem _ hmem)
    · intro c hc
      rcases List.mem_append.1 (show c ∈ [a, b] ++ r from hc) with hc | hc
      · exact (hfirst _ List.mem_cons_self).trans (hbefore c hc)
      · exact hfirst c (List.mem_cons_of_mem _ hc)

/-- **What is kept of a list is in it, and goes before all that is in it.** -/
theorem total?_spec (hop : op ≠ .sum) (hcs : ∀ c ∈ cs, c.isNaN = false)
    (h : op.total? cs = some s) : s ∈ cs ∧ ∀ c ∈ cs, op.Prefers s c := by
  cases cs with
  | nil => cases h
  | cons a r =>
    obtain rfl := Option.some.inj h
    exact foldl_join_spec hop (hcs a List.mem_cons_self) fun c hc =>
      hcs c (List.mem_cons_of_mem _ hc)

/-- The same scores, in whatever order and however often, are combined to the same number. -/
theorem total?_of_mem_iff (hop : op ≠ .sum) (hcs : ∀ c ∈ cs, c.isNaN = false)
    (hsame : ∀ c, c ∈ cs ↔ c ∈ cs') : Option.Rel SameNumber (op.total? cs) (op.total? cs') := by
  have hcs' : ∀ c ∈ cs', c.isNaN = false := fun c hc => hcs c ((hsame c).2 hc)
  cases h : op.total? cs with
  | none =>
    have hnil : cs' = [] := List.eq_nil_iff_forall_not_mem.2 fun c hc => by
      have hmem := (hsame c).2 hc
      rw [total?_eq_none_iff.1 h] at hmem
      exact List.not_mem_nil hmem
    rw [hnil]
    exact .none
  | some s =>
    obtain ⟨hmem, hfirst⟩ := total?_spec hop hcs h
    cases h' : op.total? cs' with
    | none =>
      have hmem' := (hsame s).1 hmem
      rw [total?_eq_none_iff.1 h'] at hmem'
      exact absurd hmem' List.not_mem_nil
    | some s' =>
      obtain ⟨hmem', hfirst'⟩ := total?_spec hop hcs' h'
      have hbefore : op.Prefers s s' := hfirst s' ((hsame s').2 hmem')
      have hbefore' : op.Prefers s' s := hfirst' s ((hsame s).1 hmem)
      exact .some (hbefore.antisymm hbefore')

/-- A sum of at most two scores. -/
theorem total?_sum_swap (x y : Option Score) :
    total? .sum (x.toList ++ y.toList) = total? .sum (y.toList ++ x.toList) := by
  cases x with
  | none => rw [Option.toList_none, List.nil_append, List.append_nil]
  | some a =>
    cases y with
    | none => rfl
    | some b =>
      show some (join .sum a b) = some (join .sum b a)
      rw [join, join, add_comm]

end Aggregate

/-! ### The contributions of the same sources -/

/-- What two sources contribute. -/
theorem contributions_pair (source source' : Score × ByteMap Score) (m : Bytes) :
    contributions [source, source'] m =
      ((source.2.get? m).map (weighted source.1)).toList ++
        ((source'.2.get? m).map (weighted source'.1)).toList := by
  cases h : source.2.get? m <;> cases h' : source'.2.get? m <;> simp [contributions, h, h']

/-! ### Combinations -/

/-- The same members, and each with the same number as its score. -/
def SameScores (scores scores' : ByteMap Score) : Prop :=
  ∀ m, Option.Rel Binary64.SameNumber (scores.get? m) (scores'.get? m)

/-- **A combination by minimum or maximum depends on which sources there are**, and on nothing
else of the list of them. -/
theorem aggregate_of_mem_iff (mode : StoreMode) (hop : op ≠ .sum)
    (hsame : ∀ source, source ∈ sources ↔ source ∈ sources') :
    SameScores (aggregate mode op sources) (aggregate mode op sources') := by
  intro m
  have hcontributions : ∀ c, c ∈ contributions sources m ↔ c ∈ contributions sources' m := by
    intro c
    simp only [mem_contributions_iff, hsame]
  -- a source that is listed twice also contributes twice, so an intersection counts the same
  have hall : (contributions sources m).length = sources.length ↔
      (contributions sources' m).length = sources'.length := by
    simp only [length_contributions_eq_iff, hsame]
  rw [get?_aggregate, get?_aggregate]
  by_cases hkeep : mode = .union ∨ (contributions sources m).length = sources.length
  · rw [if_pos hkeep, if_pos (hkeep.imp_right hall.1)]
    exact Aggregate.total?_of_mem_iff hop (fun _ => isNaN_of_mem_contributions) hcontributions
  · rw [if_neg hkeep, if_neg fun h => hkeep (h.imp_right hall.2)]
    exact .none

/-- **A sum of two sources does not depend on which of them comes first.** -/
theorem aggregate_sum_swap (mode : StoreMode) (source source' : Score × ByteMap Score) :
    aggregate mode .sum [source, source'] = aggregate mode .sum [source', source] := by
  refine ByteMap.ext_get? fun m => ?_
  have hlength : (contributions [source, source'] m).length =
      (contributions [source', source] m).length := by
    rw [contributions_pair, contributions_pair, List.length_append, List.length_append,
      Nat.add_comm]
  have htotal : Aggregate.total? .sum (contributions [source, source'] m) =
      Aggregate.total? .sum (contributions [source', source] m) := by
    rw [contributions_pair, contributions_pair, Aggregate.total?_sum_swap]
  rw [get?_aggregate, get?_aggregate, htotal]
  exact if_congr (or_congr_right (Eq.congr_left hlength)) rfl rfl

/-- **The order of the sources does not matter** to a combination by minimum or maximum, and neither
does how often one of them is listed: two lists in which the same sources occur are combined to the
same members with the same scores.  A sum of two sources is the very same either way. -/
theorem aggregate_orderless (mode : StoreMode) :
    (∀ op sources sources', op ≠ .sum → (∀ source, source ∈ sources ↔ source ∈ sources') →
        SameScores (aggregate mode op sources) (aggregate mode op sources')) ∧
      ∀ source source',
        aggregate mode .sum [source, source'] = aggregate mode .sum [source', source] :=
  ⟨fun _ _ _ hop hsame => aggregate_of_mem_iff mode hop hsame, aggregate_sum_swap mode⟩

/-- A zero of either sign: which of them is kept is up to the order, that it is zero is not. -/
theorem aggregate_orderless_zeros :
    let a : Score × ByteMap Score := (.ofNat 1, .ofList [([0x6d], .zero false)])
    let b : Score × ByteMap Score :=
      (.ofNat 1, .ofList [([0x6d], .zero true), ([0x6e], .inf false)])
    let once := aggregate .intersection .min [a, b]
    let twice := aggregate .intersection .min [b, a, b]
    (∀ source, source ∈ [a, b] ↔ source ∈ [b, a, b]) ∧ once.entries = [([0x6d], .zero false)] ∧
      twice.entries = [([0x6d], .zero true)] ∧ SameScores once twice := by
  intro a b once twice
  have hop : Aggregate.min ≠ .sum := by decide
  have hsame : ∀ source, source ∈ [a, b] ↔ source ∈ [b, a, b] := by
    intro source
    simp only [List.mem_cons, List.not_mem_nil, or_false]
    tauto
  exact ⟨hsame, by decide +kernel, by decide +kernel,
    (aggregate_orderless .intersection).1 .min _ _ hop hsame⟩

end KeyWalk
