import KeyWalk.Number.Binary64

/-!
The order of the numbers of 64 bits.

The tests `le` and `lt` compare keys, and the infinities are the ends of that order.  `-0` and `0`
have one key: `SameNumber a b` says that two values are the same number.

* `le_iff`, `lt_iff`, `key_bounds`, `eq_inf_of_key`: the order, and its ends,
* `le_trans`, `le_refl`: numbers are ordered,
* `min_cases`, `max_cases`: the lesser and the greater of two numbers are one of them,
* `add_comm`: a sum does not depend on the order of its summands.
-/

namespace KeyWalk

namespace Binary64

variable {a b c : Binary64}

theorem isPosInf_iff : a.isPosInf = true ↔ a = inf false := beq_iff_eq

theorem isNegInf_iff : a.isNegInf = true ↔ a = inf true := beq_iff_eq

theorem isNaN_iff : a.isNaN = true ↔ a = nan := by
  cases a with
  | nan => exact iff_of_true rfl rfl
  | signed negative m bounded => exact iff_of_false (by simp [isNaN]) (by simp)

theorem le_iff (ha : a.isNaN = false) (hb : b.isNaN = false) :
    a.le b = true ↔ a.key ≤ b.key := by
  simp [le, ha, hb]

theorem lt_iff (ha : a.isNaN = false) (hb : b.isNaN = false) :
    a.lt b = true ↔ a.key < b.key := by
  simp [lt, ha, hb]

theorem key_inf (negative : Bool) :
    (inf negative).key = if negative then -(infMagnitude : Int) else infMagnitude := by
  cases negative <;> rfl

theorem isFinite_inf (negative : Bool) : (inf negative).isFinite = false := by
  show decide (infMagnitude < infMagnitude) = false
  exact decide_eq_false (Nat.lt_irrefl _)

/-- The infinities are the ends of the order. -/
theorem key_bounds (h : a.isNaN = false) :
    -(infMagnitude : Int) ≤ a.key ∧ a.key ≤ infMagnitude := by
  cases a with
  | nan => exact absurd h (by decide)
  | signed negative m bounded =>
    cases negative with
    | false =>
      show -(infMagnitude : Int) ≤ m ∧ (m : Int) ≤ infMagnitude
      omega
    | true =>
      show -(infMagnitude : Int) ≤ -m ∧ -(m : Int) ≤ infMagnitude
      omega

/-- The place of `nan` is behind all numbers. -/
theorem key_lt_nan (h : a.isNaN = false) : a.key < nan.key :=
  Int.lt_of_le_of_lt (key_bounds h).2 (by decide)

theorem eq_inf_of_not_finite (h : a.isNaN = false) (hfinite : a.isFinite = false) :
    ∃ negative, a = inf negative := by
  cases a with
  | nan => exact absurd h (by decide)
  | signed negative m bounded =>
    have hm : ¬m < infMagnitude := of_decide_eq_false hfinite
    obtain rfl : m = infMagnitude := by omega
    exact ⟨negative, rfl⟩

/-- An infinity is alone with its key. -/
theorem eq_inf_of_key {negative : Bool} (h : a.isNaN = false)
    (hkey : (inf negative).key = a.key) : inf negative = a := by
  rw [key_inf] at hkey
  cases a with
  | nan => exact absurd h (by decide)
  | signed sign m bounded =>
    have hpos : 0 < infMagnitude := by decide
    cases negative with
    | false =>
      cases sign with
      | false =>
        have hm : (infMagnitude : Int) = m := hkey
        obtain rfl : infMagnitude = m := Int.ofNat_inj.1 hm
        rfl
      | true =>
        have hm : (infMagnitude : Int) = -m := hkey
        omega
    | true =>
      cases sign with
      | false =>
        have hm : -(infMagnitude : Int) = m := hkey
        omega
      | true =>
        have hm : -(infMagnitude : Int) = -m := hkey
        obtain rfl : infMagnitude = m := Int.ofNat_inj.1 (Int.neg_inj.1 hm)
        rfl

/-! ### Comparisons -/

/-- The same number.  Neither of the two is `nan`; `-0` and `0` are one number. -/
def SameNumber (a b : Binary64) : Prop := a.le b = true ∧ b.le a = true

instance : Decidable (SameNumber a b) := inferInstanceAs (Decidable (_ ∧ _))

theorem isNaN_of_le (h : a.le b = true) : a.isNaN = false ∧ b.isNaN = false := by
  simp only [le, Bool.and_eq_true, Bool.not_eq_true'] at h
  exact h.1

theorem le_trans (hab : a.le b = true) (hbc : b.le c = true) : a.le c = true := by
  obtain ⟨ha, hb⟩ := isNaN_of_le hab
  obtain ⟨-, hc⟩ := isNaN_of_le hbc
  rw [le_iff ha hb] at hab
  rw [le_iff hb hc] at hbc
  exact (le_iff ha hc).2 (Int.le_trans hab hbc)

theorem le_refl (ha : a.isNaN = false) : a.le a = true := (le_iff ha ha).2 (Int.le_refl _)

/-- The same number has the same key. -/
theorem SameNumber.key_eq (h : a.SameNumber b) : a.key = b.key := by
  obtain ⟨ha, hb⟩ := isNaN_of_le h.1
  exact Int.le_antisymm ((le_iff ha hb).1 h.1) ((le_iff hb ha).1 h.2)

/-- The lesser of two numbers. -/
theorem min_cases (ha : a.isNaN = false) (hb : b.isNaN = false) :
    a.min b = a ∧ a.le b = true ∨ a.min b = b ∧ b.le a = true := by
  rw [le_iff ha hb, le_iff hb ha]
  simp only [min, ha, hb, Bool.false_eq_true, if_false]
  by_cases hlt : b.key < a.key
  · exact .inr ⟨if_pos hlt, Int.le_of_lt hlt⟩
  · exact .inl ⟨if_neg hlt, Int.not_lt.1 hlt⟩

/-- The greater of two numbers. -/
theorem max_cases (ha : a.isNaN = false) (hb : b.isNaN = false) :
    a.max b = a ∧ b.le a = true ∨ a.max b = b ∧ a.le b = true := by
  rw [le_iff ha hb, le_iff hb ha]
  simp only [max, ha, hb, Bool.false_eq_true, if_false]
  by_cases hlt : a.key < b.key
  · exact .inr ⟨if_pos hlt, Int.le_of_lt hlt⟩
  · exact .inl ⟨if_neg hlt, Int.not_lt.1 hlt⟩

/-! ### Sums -/

theorem add_comm (a b : Binary64) : a.add b = b.add a := by
  cases a with
  | nan => cases b <;> rfl
  | signed s m hm =>
    cases b with
    | nan => rfl
    | signed t n hn =>
      simp only [add]
      by_cases hs : m = infMagnitude
      · by_cases ht : n = infMagnitude
        · -- two infinities have a sum just if they are the same one
          by_cases hst : s = t
          · simp [hs, ht, hst]
          · simp [hs, ht, hst, Ne.symm hst]
        · simp only [if_pos hs, ht, false_and, if_false]
      · by_cases ht : n = infMagnitude
        · simp only [if_pos ht, hs, false_and, if_false]
        · simp only [if_neg hs, if_neg ht, Int.add_comm (signedUnits s m), Bool.and_comm s]

end Binary64

end KeyWalk
