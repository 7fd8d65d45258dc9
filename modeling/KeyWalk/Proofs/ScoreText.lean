import KeyWalk.Proofs.Numerals
import KeyWalk.Score

/-!
Written scores read back.

The text of a score is the shortest decimal that denotes it, and reading rounds a decimal to the
nearest representable number.  That the two fit together rests on three facts:

* `Binary64.nearest_units`: a representable number is the one nearest to itself,
* `Shortest.denotes_decimal`: the decimal that is written denotes the number,
* `Decimal.parse?_positional`: a numeral without an exponent keeps its value when it is read.

The main statements are `Score.ofText?_render` and, for tokens, `Score.ofToken?_token`; in the
other direction `Score.isNaN_of_ofText?` says that no text spells `nan`.
-/

namespace KeyWalk

theorem Binary64.isNaN_of_isFinite {a : Binary64} (h : a.isFinite = true) : a.isNaN = false := by
  cases a with
  | nan => exact absurd h (by decide)
  | signed negative m bounded => rfl

/-! ### Rounding a representable number -/

namespace Binary64

theorem units_of_lt {m : Nat} (h : m < 2 * stretch) : units m = m := if_pos h

theorem units_of_le {m : Nat} (h : 2 * stretch ≤ m) :
    units m = (m % stretch + stretch) * Nat.pow 2 (m / stretch - 1) :=
  if_neg (Nat.not_lt.2 h)

theorem units_pos {m : Nat} (h : 0 < m) : 0 < units m := by
  by_cases hm : m < 2 * stretch
  · rwa [units_of_lt hm]
  · rw [units_of_le (Nat.le_of_not_lt hm)]
    exact Nat.mul_pos (Nat.add_pos_right _ (by decide)) (Nat.pow_pos (by decide))

theorem log2_eq {n k : Nat} (hl : Nat.pow 2 k ≤ n) (hr : n < Nat.pow 2 (k + 1)) : n.log2 = k :=
  (Nat.log2_eq_iff (Nat.ne_of_gt (Nat.lt_of_lt_of_le (Nat.pow_pos (by decide)) hl))).2 ⟨hl, hr⟩

theorem log2_le_log2 {a b : Nat} (ha : a ≠ 0) (h : a ≤ b) : a.log2 ≤ b.log2 :=
  (Nat.le_log2 (by omega)).2 (Nat.le_trans (Nat.log2_self_le ha) h)

/-- An exact quotient is not changed by rounding. -/
theorem roundDiv_mul (q : Nat) {d : Nat} (hd : 0 < d) : roundDiv (q * d) d = q := by
  simp only [roundDiv]
  rw [Nat.mul_mod_left, Nat.mul_div_cancel q hd, if_pos (by omega)]

theorem log2_units_of_lt {m : Nat} (h : m < 2 * stretch) : (units m).log2 - 52 = 0 := by
  rw [units_of_lt h]
  by_cases hm : m = 0
  · subst hm
    rfl
  · have : m.log2 < 53 := (Nat.log2_lt hm).2 h
    omega

theorem log2_units_of_le {m : Nat} (h : 2 * stretch ≤ m) :
    (units m).log2 - 52 = m / stretch - 1 := by
  have hlow : Nat.pow 2 52 ≤ m % stretch + stretch := Nat.le_add_left _ _
  have hhigh : m % stretch + stretch < Nat.pow 2 53 := by
    have hmod : m % stretch < stretch := Nat.mod_lt _ (by decide)
    have htwo : Nat.pow 2 53 = stretch + stretch := rfl
    rw [htwo]
    exact Nat.add_lt_add_right hmod _
  have hpow : ∀ k, Nat.pow 2 (k + (m / stretch - 1)) = Nat.pow 2 k * Nat.pow 2 (m / stretch - 1) :=
    fun k => Nat.pow_add 2 k _
  have hlog : (units m).log2 = 52 + (m / stretch - 1) := by
    rw [units_of_le h]
    refine log2_eq ?_ ?_
    · rw [hpow]
      exact Nat.mul_le_mul_right _ hlow
    · rw [show 52 + (m / stretch - 1) + 1 = 53 + (m / stretch - 1) by omega, hpow]
      exact Nat.mul_lt_mul_of_pos_right hhigh (Nat.pow_pos (by decide))
  omega

/-- **A representable number is nearest to itself**, over any common denominator. -/
theorem nearest_units {m d : Nat} (hd : 0 < d) (hm : m ≤ infMagnitude) :
    nearest (units m * d) d = m := by
  simp only [nearest]
  rw [Nat.mul_div_cancel _ hd]
  by_cases h : m < 2 * stretch
  · rw [log2_units_of_lt h, units_of_lt h, show d * Nat.pow 2 0 = d from Nat.mul_one d,
      roundDiv_mul m hd]
    omega
  · have h := Nat.le_of_not_lt h
    have hpos : 0 < d * Nat.pow 2 (m / stretch - 1) := Nat.mul_pos hd (Nat.pow_pos (by decide))
    -- the denominator of the stretch cancels the power of two in the value
    have hround : roundDiv (units m * d) (d * Nat.pow 2 (m / stretch - 1)) =
        m % stretch + stretch := by
      rw [units_of_le h, Nat.mul_assoc, Nat.mul_comm (Nat.pow 2 _) d]
      exact roundDiv_mul _ hpos
    rw [log2_units_of_le h, hround]
    have hdiv := Nat.div_add_mod m stretch
    have hmul : (m / stretch - 1) * stretch + stretch = stretch * (m / stretch) := by
      have : 2 ≤ m / stretch := (Nat.le_div_iff_mul_le (by decide)).2 h
      obtain ⟨k, hk⟩ : ∃ k, m / stretch = k + 1 := ⟨m / stretch - 1, by omega⟩
      rw [hk, Nat.add_sub_cancel, Nat.mul_comm stretch, Nat.succ_mul]
    omega

end Binary64

/-! ### The decimal that is written -/

namespace Decimal

/-- The sign of a decimal is the sign of its number and touches nothing else. -/
theorem toBinary64_eq_signed (d : Decimal) :
    ∃ m, ∃ h : m ≤ infMagnitude, ∀ negative, d.toBinary64 negative = .signed negative m h := by
  unfold toBinary64
  split
  · exact ⟨0, Nat.zero_le _, fun _ => rfl⟩
  · split
    · split
      · exact ⟨infMagnitude, Nat.le_refl _, fun _ => rfl⟩
      · exact ⟨_, Binary64.nearest_le _ _, fun _ => rfl⟩
    · split
      · exact ⟨0, Nat.zero_le _, fun _ => rfl⟩
      · exact ⟨_, Binary64.nearest_le _ _, fun _ => rfl⟩

end Decimal

namespace Shortest

open Decimal

theorem denotes_iff {m : Nat} (hm : m ≤ infMagnitude) (d : Decimal) :
    denotes m d = true ↔ ∀ negative, d.toBinary64 negative = .signed negative m hm := by
  obtain ⟨n, hn, h⟩ := toBinary64_eq_signed d
  simp only [denotes, h, beq_iff_eq]
  constructor
  · rintro rfl negative
    rfl
  · intro hs
    exact (Binary64.signed.inj (hs false)).2

theorem denotes_of_onGrid? {m : Nat} {k : Int} {d : Decimal} (h : onGrid? m k = some d) :
    denotes m d = true := by
  simp only [onGrid?] at h
  split at h
  · rename_i hb ha
    split at h
    · exact Option.some.inj h ▸ hb
    · exact Option.some.inj h ▸ ha
  · rename_i hb _
    exact Option.some.inj h ▸ hb
  · rename_i _ ha
    exact Option.some.inj h ▸ ha
  · exact absurd h (by simp)

theorem denotes_of_search {m n : Nat} {k : Int} {d : Decimal} (h : search m n k = some d) :
    denotes m d = true := by
  induction n generalizing k with
  | zero => exact absurd h (by simp [search])
  | succ n ih =>
    rw [search, Option.or_eq_some_iff] at h
    rcases h with h | ⟨_, h⟩
    · exact denotes_of_onGrid? h
    · exact ih h

/-- The number times a power of five, as many decimal places lower, denotes the number. -/
theorem denotes_of_mul_one {m p : Nat} (h : 0 < m) (hm : m ≤ infMagnitude) (hp : 2200 ≤ p.log2)
    (hone : p * Binary64.one = Nat.pow 10 (1073 + 1)) :
    denotes m ⟨Binary64.units m * p, .negSucc 1073⟩ = true := by
  have hp0 : p ≠ 0 := by
    rintro rfl
    exact absurd hp (by decide)
  have hpos : 0 < Binary64.units m * p :=
    Nat.mul_pos (Binary64.units_pos h) (Nat.pos_of_ne_zero hp0)
  have hlog : 2200 ≤ (Binary64.units m * p).log2 :=
    Nat.le_trans hp
      (Binary64.log2_le_log2 hp0 (Nat.le_mul_of_pos_left _ (Binary64.units_pos h)))
  have hval : toBinary64 false ⟨Binary64.units m * p, .negSucc 1073⟩ =
      .round false (Binary64.units m * p * Binary64.one) (Nat.pow 10 (1073 + 1)) := by
    rw [toBinary64, if_neg (Nat.ne_of_gt hpos)]
    refine if_neg (Nat.not_lt.2 ?_)
    show 3 * (1073 + 1) ≤ (Binary64.units m * p).log2 + 1100
    omega
  have hnear :
      Binary64.nearest (Binary64.units m * p * Binary64.one) (Nat.pow 10 (1073 + 1)) = m := by
    have hden : 0 < Nat.pow 10 (1073 + 1) := by decide +kernel
    rw [Nat.mul_assoc, hone]
    exact Binary64.nearest_units hden hm
  rw [denotes, hval, Binary64.round]
  exact beq_iff_eq.2 hnear

/-- All digits of the number denote it, should no grid be fine enough. -/
theorem denotes_exact {m : Nat} (h : 0 < m) (hm : m ≤ infMagnitude) :
    denotes m (exact m) = true :=
  denotes_of_mul_one h hm (by decide +kernel) (by decide +kernel)

/-- **The decimal that is written denotes the number.** -/
theorem denotes_decimal {m : Nat} (hm : m ≤ infMagnitude) : denotes m (decimal m) = true := by
  rw [decimal]
  split
  · rename_i h
    subst h
    rfl
  · rename_i h
    cases hs : search m 24 (coarse (Binary64.units m)) with
    | none => exact denotes_exact (Nat.pos_of_ne_zero h) hm
    | some d => exact denotes_of_search hs

end Shortest

/-! ### Reading a positional numeral -/

namespace Decimal

theorem takeWhile_isDigit {cs : List Char} (h : ∀ c ∈ cs, c.isDigit = true) (rest : List Char)
    (hr : ∀ c ∈ rest.head?, c.isDigit = false) :
    (cs ++ rest).takeWhile Char.isDigit = cs ∧ (cs ++ rest).dropWhile Char.isDigit = rest := by
  have hrest : rest.takeWhile Char.isDigit = [] ∧ rest.dropWhile Char.isDigit = rest := by
    cases rest with
    | nil => exact ⟨rfl, rfl⟩
    | cons c r =>
      have hc := hr c rfl
      exact ⟨List.takeWhile_cons_of_neg (by simp [hc]), List.dropWhile_cons_of_neg (by simp [hc])⟩
  rw [List.takeWhile_append_of_pos h, List.dropWhile_append_of_pos h, hrest.1, hrest.2,
    List.append_nil]
  exact ⟨rfl, rfl⟩

/-- Digits without a point are a whole number. -/
theorem parse?_digits {cs : List Char} (h : ∀ c ∈ cs, c.isDigit = true) (hne : cs ≠ []) :
    parse? cs = some ⟨Nat.ofDigitChars 10 cs 0, 0⟩ := by
  obtain ⟨ht, hd⟩ := takeWhile_isDigit h [] (by simp)
  rw [List.append_nil] at ht hd
  simp only [parse?, ht, hd, fraction, exponent?, List.append_nil]
  rw [if_neg fun hc => hne hc.1]
  rfl

/-- Digits on both sides of a point count as many tenths as there are behind it. -/
theorem parse?_point {cs ds : List Char} (hc : ∀ c ∈ cs, c.isDigit = true)
    (hd : ∀ c ∈ ds, c.isDigit = true) (hne : cs ≠ []) :
    parse? (cs ++ '.' :: ds) = some ⟨Nat.ofDigitChars 10 (cs ++ ds) 0, -(ds.length : Int)⟩ := by
  obtain ⟨ht, hr⟩ := takeWhile_isDigit hc ('.' :: ds) (by simp)
  obtain ⟨ht', hr'⟩ := takeWhile_isDigit hd [] (by simp)
  rw [List.append_nil] at ht' hr'
  simp only [parse?, ht, hr, fraction, ht', hr', exponent?]
  rw [if_neg fun hc => hne hc.1]
  simp

theorem isDigit_zero_of_mem_replicate {n : Nat} {c : Char} (h : c ∈ List.replicate n '0') :
    c.isDigit = true := by
  rw [List.eq_of_mem_replicate h]
  decide

section Positional

variable {digits e places : Nat}

/-- The digits with so many zeros before them that there is one more than `places`. -/
def padded (digits places : Nat) : List Char :=
  List.replicate (places + 1 - (Nat.toDigits 10 digits).length) '0' ++ Nat.toDigits 10 digits

/-- The digits before the point. -/
def wholePart (digits places : Nat) : List Char :=
  (padded digits places).take ((padded digits places).length - places)

/-- The digits behind the point. -/
def fractionPart (digits places : Nat) : List Char :=
  (padded digits places).drop ((padded digits places).length - places)

theorem positional_ofNat (digits e : Nat) :
    positional ⟨digits, .ofNat e⟩ = Nat.toDigits 10 digits ++ List.replicate e '0' := rfl

theorem positional_negSucc (digits e : Nat) :
    positional ⟨digits, .negSucc e⟩ =
      wholePart digits (e + 1) ++ '.' :: fractionPart digits (e + 1) := rfl

theorem isDigit_of_mem_zeros {c : Char}
    (h : c ∈ Nat.toDigits 10 digits ++ List.replicate e '0') : c.isDigit = true := by
  rcases List.mem_append.1 h with h | h
  · exact Integral.isDigit_of_mem_toDigits h
  · exact isDigit_zero_of_mem_replicate h

theorem isDigit_of_mem_padded {c : Char} (h : c ∈ padded digits places) : c.isDigit = true := by
  rcases List.mem_append.1 h with h | h
  · exact isDigit_zero_of_mem_replicate h
  · exact Integral.isDigit_of_mem_toDigits h

theorem isDigit_of_mem_wholePart {c : Char} (h : c ∈ wholePart digits places) : c.isDigit = true :=
  isDigit_of_mem_padded (List.mem_of_mem_take h)

theorem isDigit_of_mem_fractionPart {c : Char} (h : c ∈ fractionPart digits places) :
    c.isDigit = true :=
  isDigit_of_mem_padded (List.mem_of_mem_drop h)

theorem lt_length_padded (digits places : Nat) : places < (padded digits places).length := by
  rw [padded, List.length_append, List.length_replicate]
  omega

theorem wholePart_ne_nil (digits places : Nat) : wholePart digits places ≠ [] := by
  intro hnil
  have hlen := congrArg List.length hnil
  rw [wholePart, List.length_take, List.length_nil] at hlen
  have := lt_length_padded digits places
  omega

theorem length_fractionPart (digits places : Nat) :
    (fractionPart digits places).length = places := by
  rw [fractionPart, List.length_drop]
  have := lt_length_padded digits places
  omega

/-- The padding counts nothing. -/
theorem ofDigitChars_parts (digits places : Nat) :
    Nat.ofDigitChars 10 (wholePart digits places ++ fractionPart digits places) 0 = digits := by
  rw [wholePart, fractionPart, List.take_append_drop, padded, Nat.ofDigitChars_append,
    Nat.ofDigitChars_replicate_zero, Nat.mul_zero, Nat.ofDigitChars_ten_toDigits]

/-- A positional numeral begins with a digit. -/
theorem exists_positional_eq_cons (d : Decimal) :
    ∃ c cs, d.positional = c :: cs ∧ c.isDigit = true := by
  obtain ⟨digits, exponent⟩ := d
  cases exponent with
  | ofNat e =>
    obtain ⟨c, cs, h⟩ := List.exists_cons_of_ne_nil (Nat.toDigits_ne_nil (n := digits) (b := 10))
    refine ⟨c, cs ++ List.replicate e '0', ?_, ?_⟩
    · rw [positional_ofNat, h, List.cons_append]
    · exact Integral.isDigit_of_mem_toDigits (h ▸ List.mem_cons_self)
  | negSucc e =>
    obtain ⟨c, cs, h⟩ := List.exists_cons_of_ne_nil (wholePart_ne_nil digits (e + 1))
    refine ⟨c, cs ++ '.' :: fractionPart digits (e + 1), ?_, ?_⟩
    · rw [positional_negSucc, h, List.cons_append]
    · exact isDigit_of_mem_wholePart (h ▸ List.mem_cons_self)

/-- The zeros at the end take the place of the exponent. -/
theorem parse?_positional_ofNat (digits e : Nat) :
    parse? (positional ⟨digits, .ofNat e⟩) = some ⟨digits * Nat.pow 10 e, 0⟩ := by
  rw [positional_ofNat, parse?_digits (fun _ => isDigit_of_mem_zeros)
    (List.append_ne_nil_of_left_ne_nil Nat.toDigits_ne_nil _), Nat.ofDigitChars_append,
    Nat.ofDigitChars_ten_toDigits, Nat.ofDigitChars_replicate_zero, Nat.mul_comm]
  rfl

/-- What is read is the decimal itself. -/
theorem parse?_positional_negSucc (digits e : Nat) :
    parse? (positional ⟨digits, .negSucc e⟩) = some ⟨digits, .negSucc e⟩ := by
  rw [positional_negSucc, parse?_point (fun _ => isDigit_of_mem_wholePart)
    (fun _ => isDigit_of_mem_fractionPart) (wholePart_ne_nil digits (e + 1)), ofDigitChars_parts,
    length_fractionPart]
  rfl

/-- A decimal that is finite has the value of the whole number that it spells. -/
theorem toBinary64_mul_pow (hz : digits ≠ 0) (he : ¬310 < e) (negative : Bool) :
    toBinary64 negative ⟨digits * Nat.pow 10 e, 0⟩ = toBinary64 negative ⟨digits, .ofNat e⟩ := by
  have hpos : 0 < digits * Nat.pow 10 e :=
    Nat.mul_pos (Nat.pos_of_ne_zero hz) (Nat.pow_pos (by decide))
  rw [toBinary64, toBinary64, if_neg (Nat.ne_of_gt hpos), if_neg hz]
  show Binary64.round negative (digits * Nat.pow 10 e * 1 * Binary64.one) 1 =
    if 310 < e then _ else _
  rw [if_neg he, Nat.mul_one]

theorem not_lt_of_toBinary64 {m : Nat} (hm : m < infMagnitude) (hz : digits ≠ 0)
    (h : toBinary64 false ⟨digits, .ofNat e⟩ = .signed false m (Nat.le_of_lt hm)) : ¬310 < e := by
  intro he
  rw [toBinary64, if_neg hz] at h
  have hinf : Binary64.inf false = .signed false m (Nat.le_of_lt hm) := (if_pos he).symm.trans h
  exact absurd (Binary64.signed.inj hinf).2 (Nat.ne_of_gt hm)

end Positional

/-- **A positional numeral keeps its value when it is read**, as long as it is finite. -/
theorem parse?_positional (d : Decimal) {m : Nat} (hm : m < infMagnitude)
    (h : Shortest.denotes m d = true) :
    ∃ d', parse? d.positional = some d' ∧ ∀ negative, d'.toBinary64 negative =
      .signed negative m (Nat.le_of_lt hm) := by
  rw [Shortest.denotes_iff (Nat.le_of_lt hm)] at h
  obtain ⟨digits, exponent⟩ := d
  cases exponent with
  | ofNat e =>
    refine ⟨_, parse?_positional_ofNat digits e, fun negative => ?_⟩
    rw [← h negative]
    by_cases hz : digits = 0
    · subst hz
      rw [toBinary64, toBinary64, if_pos (Nat.zero_mul _), if_pos rfl]
    · exact toBinary64_mul_pow hz (not_lt_of_toBinary64 hm hz (h false)) negative
  | negSucc e =>
    -- a point keeps the exponent, so nothing is left to compare
    exact ⟨_, parse?_positional_negSucc digits e, h⟩

end Decimal

/-! ### Texts of scores -/

namespace Score

/-- The characters in the text of a number. -/
def IsPlain (c : Char) : Prop := c.isDigit = true ∨ c ∈ ['.', '+', '-', 'i', 'n', 'f']

theorem isPlain_of_mem_positional {d : Decimal} {c : Char} (h : c ∈ d.positional) :
    IsPlain c := by
  obtain ⟨digits, exponent⟩ := d
  cases exponent with
  | ofNat e => exact .inl (Decimal.isDigit_of_mem_zeros h)
  | negSucc e =>
    rcases List.mem_append.1 h with h | h
    · exact .inl (Decimal.isDigit_of_mem_wholePart h)
    · rcases List.mem_cons.1 h with rfl | h
      · exact .inr (by simp)
      · exact .inl (Decimal.isDigit_of_mem_fractionPart h)

theorem isPlain_of_mem_render {s : Score} (hs : s.isNaN = false) {c : Char} (h : c ∈ render s) :
    IsPlain c := by
  have hinf : ∀ {c}, c ∈ ['i', 'n', 'f'] → IsPlain c := by
    intro c hc
    refine .inr ?_
    simp only [List.mem_cons, List.not_mem_nil, or_false] at hc ⊢
    exact .inr (.inr (.inr hc))
  rw [render] at h
  split at h
  · rcases List.mem_cons.1 h with rfl | h
    · exact .inr (by simp)
    · exact hinf h
  · cases s with
    | nan => exact absurd hs (by decide)
    | signed negative m bounded =>
      have hbody : ∀ {c}, c ∈ (if m = infMagnitude then ['i', 'n', 'f']
          else (Shortest.decimal m).positional) → IsPlain c := by
        intro c hc
        split at hc
        · exact hinf hc
        · exact isPlain_of_mem_positional hc
      simp only [Shortest.render] at h
      split at h
      · rcases List.mem_cons.1 h with rfl | h
        · exact .inr (by simp)
        · exact hbody h
      · exact hbody h

theorem IsPlain.isAscii {c : Char} (h : IsPlain c) : Utf8.IsAscii c := by
  rcases h with h | h
  · exact Utf8.isAscii_of_isDigit h
  · show c.toNat < 0x80
    simp only [List.mem_cons, List.not_mem_nil, or_false] at h
    rcases h with rfl | rfl | rfl | rfl | rfl | rfl <;> decide

theorem IsPlain.isBlank {c : Char} (h : IsPlain c) : Text.isBlank c = false := by
  rcases h with h | h
  · simp only [Char.isDigit, Bool.and_eq_true, decide_eq_true_eq, UInt32.le_iff_toNat_le] at h
    have h₁ : 48 ≤ c.toNat := h.1
    have h₂ : c.toNat ≤ 57 := h.2
    simp only [Text.isBlank, Bool.or_eq_false_iff, Bool.and_eq_false_iff, decide_eq_false_iff_not,
      beq_eq_false_iff_ne]
    omega
  · simp only [List.mem_cons, List.not_mem_nil, or_false] at h
    rcases h with rfl | rfl | rfl | rfl | rfl | rfl <;> decide

theorem IsPlain.toLower {c : Char} (h : IsPlain c) : c.toLower = c := by
  rcases h with h | h
  · simp only [Char.isDigit, Bool.and_eq_true, decide_eq_true_eq, UInt32.le_iff_toNat_le] at h
    have h₂ : c.val.toNat ≤ 57 := h.2
    refine dif_neg ?_
    rintro ⟨hA, -⟩
    have : 65 ≤ c.val.toNat := hA
    omega
  · simp only [List.mem_cons, List.not_mem_nil, or_false] at h
    rcases h with rfl | rfl | rfl | rfl | rfl | rfl <;> decide

theorem trim_of_isPlain {cs : List Char} (h : ∀ c ∈ cs, IsPlain c) : Text.trim cs = cs := by
  have hdrop : ∀ {l : List Char}, (∀ c ∈ l, IsPlain c) → l.dropWhile Text.isBlank = l := by
    intro l hl
    cases l with
    | nil => rfl
    | cons c r =>
      exact List.dropWhile_cons_of_neg (by simp [(hl c List.mem_cons_self).isBlank])
  rw [Text.trim, hdrop h, hdrop fun c hc => h c (List.mem_reverse.1 hc), List.reverse_reverse]

theorem lower_of_isPlain {cs : List Char} (h : ∀ c ∈ cs, IsPlain c) : Text.lower cs = cs := by
  rw [Text.lower, List.map_congr_left fun c hc => (h c hc).toLower, List.map_id']

/-- The body of a finite number behind its sign. -/
theorem unsignedText?_positional {m : Nat} (hm : m < infMagnitude) (negative : Bool) :
    unsignedText? negative (Shortest.decimal m).positional =
      some (.signed negative m (Nat.le_of_lt hm)) := by
  obtain ⟨d, hparse, hval⟩ := Decimal.parse?_positional (Shortest.decimal m) hm
    (Shortest.denotes_decimal (Nat.le_of_lt hm))
  obtain ⟨c, cs, hcons, hc⟩ := Decimal.exists_positional_eq_cons (Shortest.decimal m)
  -- a digit at the front is no word for infinity
  have hword : ¬((Shortest.decimal m).positional = ['i', 'n', 'f'] ∨
      (Shortest.decimal m).positional = ['i', 'n', 'f', 'i', 'n', 'i', 't', 'y']) := by
    rw [hcons]
    rintro (h | h) <;>
      exact absurd ((List.cons.inj h).1 ▸ hc) (by decide)
  rw [unsignedText?, if_neg hword, hparse, Option.map_some, hval]

theorem signedText?_render {s : Score} (hs : s.isNaN = false) :
    signedText? (render s) = some s := by
  cases s with
  | nan => exact absurd hs (by decide)
  | signed negative m bounded =>
    by_cases hm : m = infMagnitude
    · subst hm
      show signedText? (render (Binary64.inf negative)) = some (Binary64.inf negative)
      cases negative <;> decide
    · have hlt : m < infMagnitude := Nat.lt_of_le_of_ne bounded hm
      have hbody := unsignedText?_positional hlt negative
      have hpos : Binary64.isPosInf (.signed negative m bounded) = false :=
        beq_eq_false_iff_ne.2 fun h => hm (Binary64.signed.inj h).2
      rw [render, hpos, if_neg Bool.false_ne_true, Shortest.render, if_neg hm]
      cases negative with
      | true => exact hbody
      | false =>
        obtain ⟨c, cs, hcons, hc⟩ := Decimal.exists_positional_eq_cons (Shortest.decimal m)
        rw [hcons] at hbody
        rw [if_neg Bool.false_ne_true, hcons]
        unfold signedText?
        split
        · rename_i h
          exact absurd ((List.cons.inj h).1 ▸ hc) (by decide)
        · rename_i h
          exact absurd ((List.cons.inj h).1 ▸ hc) (by decide)
        · exact hbody

/-- **Every score but `nan` is recovered from its text**, bit for bit. -/
theorem ofText?_render {s : Score} (hs : s.isNaN = false) : ofText? (render s) = some s := by
  have hplain : ∀ c ∈ render s, IsPlain c := fun _ => isPlain_of_mem_render hs
  rw [ofText?, trim_of_isPlain hplain, lower_of_isPlain hplain, signedText?_render hs]

theorem decode?_token {s : Score} (hs : s.isNaN = false) :
    Utf8.decode? (token s) = some (render s) :=
  Utf8.decode?_encode fun _ hc => (isPlain_of_mem_render hs hc).isAscii

theorem ofToken?_token {s : Score} (hs : s.isNaN = false) : ofToken? (token s) = some s := by
  rw [ofToken?, decode?_token hs, Option.bind_eq_bind, Option.bind_some, ofText?_render hs]

theorem ofToken_token {s : Score} (hs : s.isNaN = false) (command : String) :
    ofToken command (token s) = .ok s := by
  simp only [ofToken, decode?_token hs, ofText?_render hs]

/-! ### No text spells `nan` -/

theorem isNaN_of_unsignedText? {negative : Bool} {cs : List Char} {s : Score}
    (h : unsignedText? negative cs = some s) : s.isNaN = false := by
  rw [unsignedText?] at h
  split at h
  · exact Option.some.inj h ▸ rfl
  · obtain ⟨d, -, rfl⟩ := Option.map_eq_some_iff.1 h
    obtain ⟨m, hm, hd⟩ := d.toBinary64_eq_signed
    rw [hd]
    rfl

theorem isNaN_of_ofText? {cs : List Char} {s : Score} (h : ofText? cs = some s) :
    s.isNaN = false := by
  rw [ofText?] at h
  unfold signedText? at h
  split at h <;> exact isNaN_of_unsignedText? h

theorem isNaN_of_ofToken? {b : Bytes} {s : Score} (h : ofToken? b = some s) : s.isNaN = false := by
  obtain ⟨cs, -, hs⟩ := Option.bind_eq_some_iff.1 h
  exact isNaN_of_ofText? hs

end Score

end KeyWalk
