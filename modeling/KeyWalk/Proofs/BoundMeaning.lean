import KeyWalk.Proofs.Binary64
import KeyWalk.Proofs.BoundText

/-!
What a bound admits where it is read.

A score bound is sent as a text, and the store reads a bound from that text.  Whichever variant it
is, a bound is at a score, its `limit`, and it is strict or not; as a lower and as an upper limit it
admits what these two say (`admitsFromBelow_iff`, `admitsFromAbove_iff`).  The text keeps the limit
(`limit_received`), and it keeps strictness at finite scores only (`strict_received`).  So:

* `ScoreBound.received_admitsFromBelow`, `ScoreBound.received_admitsFromAbove`: what is received
  admits what was meant, and an infinity that the sent bound excludes,
* `ScoreBound.parse_render`: the same through the text and the reader of arguments,
* `ScoreRange.received_contains`: a range selects the same finite scores on both sides.
-/

namespace KeyWalk

namespace ScoreBound

open Binary64

variable {b : ScoreBound} {s v : Score}

/-! ### The limit of a bound -/

/-- The score that the bound is at. -/
def limit : ScoreBound → Score
  | inclusive v | exclusive v => v
  | negInf => inf true
  | posInf => inf false

/-- The bound excludes the score it is at. -/
def Strict : ScoreBound → Prop
  | exclusive _ => True
  | inclusive _ | negInf | posInf => False

theorem numeric_iff : b.Numeric ↔ b.limit.isNaN = false := by
  cases b with
  | inclusive v | exclusive v => exact Iff.rfl
  | negInf | posInf => exact iff_of_true trivial rfl

theorem Numeric.limit (h : b.Numeric) : b.limit.isNaN = false := numeric_iff.1 h

theorem strict_iff : b.Strict ↔ b = exclusive b.limit := by
  cases b with
  | exclusive v => exact iff_of_true trivial rfl
  | inclusive v | negInf | posInf => exact iff_of_false id (by simp)

theorem admitsFromBelow_iff (hb : b.Numeric) (hs : s.isNaN = false) :
    b.admitsFromBelow s = true ↔
      b.limit.key ≤ s.key ∧ (b.Strict → b.limit.key ≠ s.key) := by
  cases b with
  | inclusive v =>
    have hv : v.isNaN = false := hb
    rw [admitsFromBelow, le_iff hv hs]
    simp [limit, Strict]
  | exclusive v =>
    have hv : v.isNaN = false := hb
    rw [admitsFromBelow, lt_iff hv hs, Int.lt_iff_le_and_ne]
    simp [limit, Strict]
  | negInf =>
    -- nothing is below the limit
    have hends := key_bounds hs
    simp only [admitsFromBelow, limit, Strict, key_inf, if_true, true_iff]
    exact ⟨hends.1, False.elim⟩
  | posInf =>
    have hends := key_bounds hs
    rw [admitsFromBelow, isPosInf_iff]
    constructor
    · rintro rfl
      exact ⟨Int.le_refl _, False.elim⟩
    · rintro ⟨hle, -⟩
      have hkey : (inf false).key = s.key := by
        rw [limit, key_inf] at hle
        rw [key_inf]
        exact Int.le_antisymm hle hends.2
      exact (eq_inf_of_key hs hkey).symm

theorem admitsFromAbove_iff (hb : b.Numeric) (hs : s.isNaN = false) :
    b.admitsFromAbove s = true ↔
      s.key ≤ b.limit.key ∧ (b.Strict → b.limit.key ≠ s.key) := by
  cases b with
  | inclusive v =>
    have hv : v.isNaN = false := hb
    rw [admitsFromAbove, le_iff hs hv]
    simp [limit, Strict]
  | exclusive v =>
    have hv : v.isNaN = false := hb
    rw [admitsFromAbove, lt_iff hs hv, Int.lt_iff_le_and_ne]
    simp [limit, Strict, eq_comm]
  | negInf =>
    have hends := key_bounds hs
    rw [admitsFromAbove, isNegInf_iff]
    constructor
    · rintro rfl
      exact ⟨Int.le_refl _, False.elim⟩
    · rintro ⟨hle, -⟩
      have hkey : (inf true).key = s.key := by
        rw [limit, key_inf] at hle
        rw [key_inf]
        exact Int.le_antisymm hends.1 hle
      exact (eq_inf_of_key hs hkey).symm
  | posInf =>
    -- nothing is above the limit
    have hends := key_bounds hs
    simp only [admitsFromAbove, limit, Strict, key_inf, Bool.false_eq_true, if_false, true_iff]
    exact ⟨hends.2, False.elim⟩

/-! ### Sent and received -/

theorem limit_ofScore (v : Score) : (ofScore v).limit = v := by
  rw [ofScore]
  by_cases hneg : v.isNegInf = true
  · rw [if_pos hneg]
    exact (isNegInf_iff.1 hneg).symm
  · rw [if_neg hneg]
    by_cases hpos : v.isPosInf = true
    · rw [if_pos hpos]
      exact (isPosInf_iff.1 hpos).symm
    · rw [if_neg hpos]
      rfl

theorem not_strict_ofScore (v : Score) : ¬(ofScore v).Strict := by
  rw [ofScore]
  by_cases hneg : v.isNegInf = true
  · rw [if_pos hneg]
    exact id
  · rw [if_neg hneg]
    by_cases hpos : v.isPosInf = true
    · rw [if_pos hpos]
      exact id
    · rw [if_neg hpos]
      exact id

/-- A bound that excludes an infinity is received as the inclusive one; any other exclusive bound
is received as it is. -/
theorem received_exclusive (hv : v.isNaN = false) :
    (exclusive v).received = if v.isFinite then exclusive v else ofScore v := by
  rw [received, ofScore]
  by_cases hfinite : v.isFinite = true
  · have hends : ∀ negative, v ≠ inf negative := by
      rintro negative rfl
      exact absurd hfinite (by simp [isFinite_inf])
    rw [if_pos hfinite, if_neg (hends true ∘ isNegInf_iff.1),
      if_neg (hends false ∘ isPosInf_iff.1)]
  · obtain ⟨negative, rfl⟩ := eq_inf_of_not_finite hv (by simpa using hfinite)
    cases negative <;> rfl

theorem limit_received (hb : b.Numeric) : b.received.limit = b.limit := by
  cases b with
  | negInf | posInf => rfl
  | inclusive v => exact limit_ofScore v
  | exclusive v =>
    rw [received_exclusive hb]
    by_cases hfinite : v.isFinite = true
    · rw [if_pos hfinite]
    · rw [if_neg hfinite]
      exact limit_ofScore v

theorem strict_received (hb : b.Numeric) :
    b.received.Strict ↔ b.Strict ∧ b.limit.isFinite = true := by
  cases b with
  | negInf | posInf => exact iff_of_false id fun h => h.1
  | inclusive v => exact iff_of_false (not_strict_ofScore v) fun h => h.1
  | exclusive v =>
    rw [received_exclusive hb]
    by_cases hfinite : v.isFinite = true
    · rw [if_pos hfinite]
      exact iff_of_true trivial ⟨trivial, hfinite⟩
    · rw [if_neg hfinite]
      exact iff_of_false (not_strict_ofScore v) fun h => hfinite h.2

theorem numeric_received (hb : b.Numeric) : b.received.Numeric := by
  rw [numeric_iff, limit_received hb]
  exact hb.limit

/-- The score that the text no longer excludes. -/
theorem readmitted_iff (hb : b.Numeric) (hs : s.isNaN = false) :
    b = exclusive s ∧ s.isFinite = false ↔
      b.Strict ∧ b.limit.isFinite = false ∧ b.limit.key = s.key := by
  rw [strict_iff]
  constructor
  · rintro ⟨rfl, hfinite⟩
    exact ⟨rfl, hfinite, rfl⟩
  · rintro ⟨hstrict, hfinite, hkey⟩
    obtain ⟨negative, hlimit⟩ := eq_inf_of_not_finite hb.limit hfinite
    obtain rfl : inf negative = s := eq_inf_of_key hs (hlimit ▸ hkey)
    rw [hlimit] at hstrict
    exact ⟨hstrict, isFinite_inf negative⟩

/-- As a lower limit, what is received admits one score more at most. -/
theorem received_admitsFromBelow (hb : b.Numeric) (hs : s.isNaN = false) :
    b.received.admitsFromBelow s = true ↔
      b.admitsFromBelow s = true ∨ b = exclusive s ∧ s.isFinite = false := by
  rw [admitsFromBelow_iff (numeric_received hb) hs, admitsFromBelow_iff hb hs,
    readmitted_iff hb hs, limit_received hb, strict_received hb, ← Bool.not_eq_true]
  have hle : b.limit.key = s.key → b.limit.key ≤ s.key := Int.le_of_eq
  grind

/-- As an upper limit, what is received admits one score more at most. -/
theorem received_admitsFromAbove (hb : b.Numeric) (hs : s.isNaN = false) :
    b.received.admitsFromAbove s = true ↔
      b.admitsFromAbove s = true ∨ b = exclusive s ∧ s.isFinite = false := by
  rw [admitsFromAbove_iff (numeric_received hb) hs, admitsFromAbove_iff hb hs,
    readmitted_iff hb hs, limit_received hb, strict_received hb, ← Bool.not_eq_true]
  have hle : b.limit.key = s.key → s.key ≤ b.limit.key := fun h => Int.le_of_eq h.symm
  grind

/-- **What the text of a bound means**: it is read, also in front of other arguments, and what is
read admits what the bound admits, as a lower and as an upper limit, but for an infinity that the
bound excludes. -/
theorem parse_render (hb : b.Numeric) :
    ∃ b', parse (String.ofList b.render) = .ok b' ∧
      (∀ r, Arguments.scoreBound (b.token :: r) = .ok (b', r)) ∧
      ∀ s : Score, s.isNaN = false →
        (b'.admitsFromBelow s = true ↔
          b.admitsFromBelow s = true ∨ b = exclusive s ∧ s.isFinite = false) ∧
        (b'.admitsFromAbove s = true ↔
          b.admitsFromAbove s = true ∨ b = exclusive s ∧ s.isFinite = false) := by
  have hparse : parse (String.ofList b.render) = .ok b.received := by
    rw [parse, String.toList_ofList, hb.ofText?_render]
  exact ⟨b.received, hparse, Arguments.scoreBound_token hb, fun s hs =>
    ⟨received_admitsFromBelow hb hs, received_admitsFromAbove hb hs⟩⟩

theorem parse_render_excluded_infinity :
    Numeric (exclusive (inf true)) ∧
      ∃ b', parse (String.ofList (render (exclusive (inf true)))) = .ok b' ∧
        (∀ r, Arguments.scoreBound (token (exclusive (inf true)) :: r) = .ok (b', r)) ∧
        ∀ s : Score, s.isNaN = false →
          (b'.admitsFromBelow s = true ↔ (exclusive (inf true)).admitsFromBelow s = true ∨
            exclusive (inf true) = exclusive s ∧ s.isFinite = false) ∧
          (b'.admitsFromAbove s = true ↔ (exclusive (inf true)).admitsFromAbove s = true ∨
            exclusive (inf true) = exclusive s ∧ s.isFinite = false) :=
  ⟨rfl, parse_render rfl⟩

/-- Not every bound is read as one that admits the same: above plus infinity there is no score, and
the text of that bound is read as plus infinity itself. -/
theorem parse_render_not_same :
    ¬ ∀ b : ScoreBound, b.Numeric → ∃ b', parse (String.ofList b.render) = .ok b' ∧
      ∀ s : Score, s.isNaN = false →
        b'.admitsFromBelow s = b.admitsFromBelow s ∧
        b'.admitsFromAbove s = b.admitsFromAbove s := by
  intro h
  obtain ⟨b', hparse, hsame⟩ := h (exclusive (inf false)) rfl
  have hread : parse (String.ofList (render (exclusive (inf false)))) = .ok posInf := rfl
  obtain rfl : posInf = b' := Except.ok.inj (hread.symm.trans hparse)
  have hbelow : posInf.admitsFromBelow (inf false) =
      (exclusive (inf false)).admitsFromBelow (inf false) := (hsame (inf false) rfl).1
  exact absurd hbelow (by decide)

end ScoreBound

/-- A range selects the same finite scores where it is sent and where it is read. -/
theorem ScoreRange.received_contains {range : ScoreRange} {s : Score}
    (hmin : range.min.Numeric) (hmax : range.max.Numeric) (hs : s.isFinite = true) :
    range.received.contains s = range.contains s := by
  have hnumber : s.isNaN = false := Binary64.isNaN_of_isFinite hs
  have hbelow : range.min.received.admitsFromBelow s = range.min.admitsFromBelow s := by
    rw [Bool.eq_iff_iff, ScoreBound.received_admitsFromBelow hmin hnumber]
    simp [hs]
  have habove : range.max.received.admitsFromAbove s = range.max.admitsFromAbove s := by
    rw [Bool.eq_iff_iff, ScoreBound.received_admitsFromAbove hmax hnumber]
    simp [hs]
  rw [contains, contains]
  show (range.min.received.admitsFromBelow s && range.max.received.admitsFromAbove s) = _
  rw [hbelow, habove]

end KeyWalk
