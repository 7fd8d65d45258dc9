import KeyWalk.Proofs.BoundText

/-!
The notation of bounds of names.

A bound of names is written as bytes, and it is read in two places: by a client from a text, by the
store from an argument whose name may be any bytes.  The notation has one spelling for each bound:

* `LexBound.ofToken?_eq_some_iff`: the bytes that are read as a bound are its token and no others,
* `LexBound.parse_eq_ok_iff`: a text is read as a bound just if its bytes are the token of it,
* `LexBound.read_iff_token`: both readers, and what the store makes of other arguments.

The reader of texts looks at characters and the other one at bytes.  They meet in
`Utf8.exists_of_encode_eq_append`: characters in front of the bytes of a text are in front of the
text.
-/

namespace KeyWalk

/-! ### Texts and their bytes -/

namespace Utf8

theorem toByteArray_encode (cs : List Char) : (encode cs).toByteArray = cs.utf8Encode := rfl

theorem encode_eq_nil_iff {cs : List Char} : encode cs = [] ↔ cs = [] := by
  cases cs with
  | nil => exact iff_of_true rfl rfl
  | cons c r =>
    refine iff_of_false (fun h => ?_) (List.cons_ne_nil c r)
    rw [encode_cons, List.append_eq_nil_iff] at h
    exact String.utf8EncodeChar_ne_nil h.1

/-- Characters in front of the bytes of a text are in front of the text. -/
theorem exists_of_encode_eq_append {cs front : List Char} {rest : Bytes}
    (h : encode cs = encode front ++ rest) : ∃ back, cs = front ++ back ∧ rest = encode back := by
  have harray : front.utf8Encode ++ rest.toByteArray = cs.utf8Encode := by
    rw [← toByteArray_encode, ← toByteArray_encode, h, List.toByteArray_append]
  obtain ⟨back, rfl⟩ := List.isPrefix_of_utf8Encode_append_eq_utf8Encode _ harray
  refine ⟨back, rfl, ?_⟩
  rw [encode, List.flatMap_append] at h
  exact (List.append_cancel_left h).symm

theorem encode_injective : Function.Injective encode := by
  intro cs front h
  obtain ⟨back, rfl, hback⟩ := exists_of_encode_eq_append (h.trans (List.append_nil _).symm)
  rw [encode_eq_nil_iff.1 hback.symm, List.append_nil]

end Utf8

/-- The bytes of a string are those of its characters. -/
theorem Bytes.ofString_eq_encode (text : String) : ofString text = Utf8.encode text.toList := by
  rw [ofString, ← String.utf8Encode_toList, ← Utf8.toByteArray_encode]
  exact congrArg Array.toList (List.data_toByteArray)

/-! ### Tokens of bounds -/

namespace LexBound

variable {a : Bytes} {b : LexBound} {text : String}

/-- **What is read as a bound is its token.** -/
theorem ofToken?_eq_some_iff : ofToken? a = some b ↔ a = b.token := by
  refine ⟨fun h => ?_, fun h => h ▸ ofToken?_token b⟩
  cases a with
  | nil => cases h
  | cons c name =>
    rw [ofToken?] at h
    split at h
    · rename_i hc
      cases h
      rw [hc, token]
    · split at h
      · rename_i hc
        cases h
        rw [hc, token]
      · split at h
        · rename_i hc
          cases h
          rw [hc.1, hc.2, token]
        · split at h
          · rename_i hc
            cases h
            rw [hc.1, hc.2, token]
          · cases h

theorem token_injective : Function.Injective token := by
  intro b b' h
  have hread : some b = some b' := by rw [← ofToken?_token, h, ofToken?_token]
  exact Option.some.inj hread

/-- **A text is read as a bound just if its bytes are the token of the bound.** -/
theorem parse_eq_ok_iff : parse text = .ok b ↔ Bytes.ofString text = b.token := by
  rw [Bytes.ofString_eq_encode]
  constructor
  · intro h
    unfold parse at h
    split at h
    · rename_i htext
      cases h
      rw [htext]
      rfl
    · rename_i htext
      cases h
      rw [htext]
      rfl
    · rename_i name htext
      cases h
      rw [htext]
      rfl
    · rename_i name htext
      cases h
      rw [htext]
      rfl
    · cases h
  · intro h
    cases b with
    | inclusive name =>
      have hfront : Utf8.encode text.toList = Utf8.encode ['['] ++ name := h
      obtain ⟨back, htext, rfl⟩ := Utf8.exists_of_encode_eq_append hfront
      rw [parse, htext]
      rfl
    | exclusive name =>
      have hfront : Utf8.encode text.toList = Utf8.encode ['('] ++ name := h
      obtain ⟨back, htext, rfl⟩ := Utf8.exists_of_encode_eq_append hfront
      rw [parse, htext]
      rfl
    | least =>
      have htext : text.toList = ['-'] := Utf8.encode_injective h
      rw [parse, htext]
      rfl
    | greatest =>
      have htext : text.toList = ['+'] := Utf8.encode_injective h
      rw [parse, htext]
      rfl

theorem lexBound_eq_ok_iff {r left : List Bytes} :
    Arguments.lexBound (a :: r) = .ok (b, left) ↔ a = b.token ∧ left = r := by
  simp only [Arguments.lexBound, Arguments.bind_eq_ok_iff, Arguments.next_eq_ok_iff,
    Arguments.require_eq_ok_iff, ofToken?_eq_some_iff]
  constructor
  · rintro ⟨token, between, hnext, hread, rfl⟩
    cases hnext
    exact ⟨hread, rfl⟩
  · rintro ⟨hread, rfl⟩
    exact ⟨a, left, rfl, hread, rfl⟩

theorem lexBound_eq_error_iff {r : List Bytes} :
    Arguments.lexBound (a :: r) = .error .lexRange ↔ ∀ b : LexBound, a ≠ b.token := by
  rw [Arguments.lexBound, Arguments.bind_of_ok (Arguments.next_cons _ _)]
  cases hread : ofToken? a with
  | none =>
    refine iff_of_true rfl fun b hb => ?_
    rw [ofToken?_eq_some_iff.2 hb] at hread
    cases hread
  | some b =>
    refine iff_of_false (fun h => ?_) fun hnone => hnone b (ofToken?_eq_some_iff.1 hread)
    cases h

/-- **Bounds of names have one notation.**  The store reads the token of every bound as that bound,
whatever bytes its name has, and any other argument is no bound to it; so different bounds have
different tokens.  A client reads a text just as the store reads the bytes of the text. -/
theorem read_iff_token :
    (∀ (a : Bytes) (b : LexBound) (r left : List Bytes),
      Arguments.lexBound (a :: r) = .ok (b, left) ↔ a = b.token ∧ left = r) ∧
    (∀ (a : Bytes) (r : List Bytes),
      Arguments.lexBound (a :: r) = .error .lexRange ↔ ∀ b : LexBound, a ≠ b.token) ∧
    Function.Injective token ∧
    ∀ (text : String) (b : LexBound) (r : List Bytes),
      parse text = .ok b ↔ Arguments.lexBound (Bytes.ofString text :: r) = .ok (b, r) := by
  refine ⟨fun _ _ _ _ => lexBound_eq_ok_iff, fun _ _ => lexBound_eq_error_iff, token_injective,
    fun text b r => ?_⟩
  rw [parse_eq_ok_iff, lexBound_eq_ok_iff]
  exact (and_iff_left rfl).symm

/-- A sign with something behind it is no bound, on either side. -/
example : (Arguments.lexBound [[0x2D, 0x78]]).isOk = false ∧ (parse "-x").isOk = false := by decide

end LexBound

end KeyWalk
