import KeyWalk.Number.Integral

/-!
Written whole numbers read back.

* `Utf8.decode?_encode`: a text of ASCII characters is recovered from its bytes,
* `Integral.ofToken?_token`: a 64-bit integer is recovered from its token,
* `Integral.unsigned?_token`: so is an unsigned one, which is what a cursor is.
-/

namespace KeyWalk

namespace Utf8

/-- The character takes one byte. -/
def IsAscii (c : Char) : Prop := c.toNat < 0x80

theorem encode_cons (c : Char) (cs : List Char) :
    encode (c :: cs) = String.utf8EncodeChar c ++ encode cs := List.flatMap_cons

theorem utf8EncodeChar_of_isAscii {c : Char} (h : IsAscii c) :
    String.utf8EncodeChar c = [c.toUInt8] := by
  rw [String.utf8EncodeChar_eq_singleton, Char.toUInt8_val]
  rw [Char.utf8Size_eq_one_iff, UInt32.le_iff_toNat_le]
  exact Nat.le_of_lt_succ h

theorem toNat_toUInt8 {c : Char} (h : IsAscii c) : c.toUInt8.toNat = c.toNat := by
  rw [← Char.toUInt8_val, UInt32.toNat_toUInt8]
  exact Nat.mod_eq_of_lt (Nat.lt_trans h (by decide))

theorem pieces_cons {a : UInt8} (h : a < 0x80) (r : Bytes) :
    pieces (a :: r) = some (Char.ofNat a.toNat) :: pieces r := by
  rw [pieces.eq_def]
  exact if_pos h

theorem pieces_encode {cs : List Char} (h : ∀ c ∈ cs, IsAscii c) :
    pieces (encode cs) = cs.map some := by
  induction cs with
  | nil => rfl
  | cons c r ih =>
    have hc : IsAscii c := h c List.mem_cons_self
    have hlt : c.toUInt8 < 0x80 := UInt8.lt_iff_toNat_lt.2 (toNat_toUInt8 hc ▸ hc)
    rw [encode_cons, utf8EncodeChar_of_isAscii hc, List.singleton_append, pieces_cons hlt,
      toNat_toUInt8 hc, Char.ofNat_toNat, ih fun d hd => h d (List.mem_cons_of_mem _ hd),
      List.map_cons]

theorem decode?_encode {cs : List Char} (h : ∀ c ∈ cs, IsAscii c) :
    decode? (encode cs) = some cs := by
  rw [decode?, pieces_encode h]
  induction cs with
  | nil => rfl
  | cons c r ih => simp [ih fun d hd => h d (List.mem_cons_of_mem _ hd)]

theorem isAscii_of_isDigit {c : Char} (h : c.isDigit = true) : IsAscii c := by
  simp only [Char.isDigit, Bool.and_eq_true, decide_eq_true_eq, UInt32.le_iff_toNat_le] at h
  have : c.val.toNat ≤ 57 := by simpa using h.2
  show c.val.toNat < 0x80
  omega

end Utf8

namespace Integral

theorem isDigit_of_mem_toDigits {n : Nat} {c : Char} (h : c ∈ Nat.toDigits 10 n) :
    c.isDigit = true :=
  Nat.isDigit_of_mem_toDigits (by decide) (by decide) h

theorem digits?_toDigits (n : Nat) : digits? (Nat.toDigits 10 n) = some n := by
  rw [digits?, if_pos, Nat.ofDigitChars_ten_toDigits]
  exact ⟨Nat.toDigits_ne_nil, List.all_eq_true.2 fun _ => isDigit_of_mem_toDigits⟩

/-- Decimal digits begin with no sign. -/
theorem signedDigits?_toDigits (n : Nat) : signedDigits? (Nat.toDigits 10 n) = some (n : Int) := by
  unfold signedDigits?
  split
  · rename_i cs h
    exact absurd (isDigit_of_mem_toDigits (h ▸ List.mem_cons_self : '-' ∈ _)) (by decide)
  · rename_i cs h
    exact absurd (isDigit_of_mem_toDigits (h ▸ List.mem_cons_self : '+' ∈ _)) (by decide)
  · rw [digits?_toDigits]
    rfl

theorem signedDigits?_render (n : Int) : signedDigits? (render n) = some n := by
  cases n with
  | ofNat n => exact signedDigits?_toDigits n
  | negSucc n =>
    rw [render, signedDigits?, digits?_toDigits]
    rfl

theorem isAscii_of_mem_render {n : Int} {c : Char} (h : c ∈ render n) : Utf8.IsAscii c := by
  cases n with
  | ofNat n => exact Utf8.isAscii_of_isDigit (isDigit_of_mem_toDigits h)
  | negSucc n =>
    rcases List.mem_cons.1 h with rfl | h
    · show '-'.toNat < 0x80
      decide
    · exact Utf8.isAscii_of_isDigit (isDigit_of_mem_toDigits h)

theorem decode?_token (n : Int) : Utf8.decode? (token n) = some (render n) :=
  Utf8.decode?_encode fun _ => isAscii_of_mem_render

theorem ofToken?_token {n : Int} (h : fits n = true) : ofToken? (token n) = some n := by
  rw [ofToken?, decode?_token, Option.bind_eq_bind, Option.bind_some, signed?,
    signedDigits?_render, Option.filter_some, if_pos h]

theorem fits_of_le_greatest {n : Nat} (h : (n : Int) ≤ greatest) : fits n = true := by
  rw [fits, Bool.and_eq_true, decide_eq_true_eq, decide_eq_true_eq]
  refine ⟨?_, h⟩
  unfold least
  omega

theorem unsigned?_render {n : Nat} (h : n < unsignedBound) : unsigned? (render n) = some n := by
  show unsigned? (Nat.toDigits 10 n) = some n
  unfold unsigned?
  split
  · rename_i r hp
    exact absurd (isDigit_of_mem_toDigits (hp ▸ List.mem_cons_self : '+' ∈ _)) (by decide)
  · show (digits? (Nat.toDigits 10 n)).filter (· < unsignedBound) = some n
    rw [digits?_toDigits, Option.filter_some, if_pos (decide_eq_true h)]

theorem unsigned?_token {n : Nat} (h : n < unsignedBound) :
    (Utf8.decode? (token n) >>= unsigned?) = some n := by
  rw [decode?_token, Option.bind_eq_bind, Option.bind_some, unsigned?_render h]

/-- Different integers have different tokens. -/
theorem token_injective {m n : Int} (h : token m = token n) : m = n := by
  have hr : some (render m) = some (render n) := by rw [← decode?_token, h, decode?_token]
  have hs : some m = some n := by
    rw [← signedDigits?_render, Option.some.inj hr, signedDigits?_render]
  exact Option.some.inj hs

end Integral

end KeyWalk
