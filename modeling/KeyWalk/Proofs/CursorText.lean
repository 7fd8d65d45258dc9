import KeyWalk.Cursor.Json
import KeyWalk.Json.Text
import KeyWalk.Proofs.ScoreText

/-!
A cursor that was put on paper is read back.

What a cursor asks of a codec is `JsonCodec.ListsByteNumbers`: a record of bytes and a flag is read
as an object in which the bytes are the list of their numbers.  Then `Cursor.ofJson?_toJson`: the
cursor is read back, whatever bytes its position has.

The codec for compact texts is one.  Each part of its text is read back in front of whatever
follows:

* `JsonValue.readValue_toDigits`: a number in decimal,
* `JsonValue.readItems_numbers`, `JsonValue.readValue_numbers`: numbers with commas between them,
* `JsonValue.parse?_compactText`: the record.

Design notes.  The depth that a reader may go to is bounded by twice the length of the text, and
each item of an array takes a level of it but also at least one character.
-/

namespace KeyWalk

/-! ### Cursors -/

/-- The plain numeral of a natural number. -/
def JsonValue.ofNat (n : Nat) : JsonValue := .number ⟨false, ⟨n, 0⟩, true⟩

namespace Cursor

/-- The names of the members. -/
def positionName : JsonText := ⟨"position".toList.map Char.toNat, false⟩

def finishedName : JsonText := ⟨"finished".toList.map Char.toNat, false⟩

end Cursor

/-- What is relied on of a codec: the bytes of a cursor are written as the list of their numbers,
and what was written is read. -/
def JsonCodec.ListsByteNumbers [JsonCodec] : Prop :=
  ∀ position finished, read? (write [("position", .bytes position), ("finished", .flag finished)]) =
    some (.object [(Cursor.positionName, .array (position.map fun x => .ofNat x.toNat)),
      (Cursor.finishedName, .bool finished)])

namespace Cursor

theorem byteOf?_ofNat (x : UInt8) : byteOf? (.ofNat x.toNat) = some x := by
  show (if x.toNat < 256 then some (UInt8.ofNat x.toNat) else none) = _
  rw [if_pos x.toNat_lt, UInt8.ofNat_toNat]

theorem positionOf?_array (b : Bytes) :
    positionOf? (.array (b.map fun x => .ofNat x.toNat)) = some b := by
  rw [positionOf?]
  induction b with
  | nil => rfl
  | cons x b ih =>
    rw [List.map_cons, List.mapM_cons, byteOf?_ofNat, ih]
    rfl

/-- **A cursor that was put on paper is read back**, whatever its position is. -/
theorem ofJson?_toJson [JsonCodec] (hcodec : JsonCodec.ListsByteNumbers) (c : Cursor) :
    ofJson? c.toJson = some c := by
  rw [ofJson?, toJson, hcodec]
  show ofParts? (.array (c.position.map fun x => .ofNat x.toNat)) (.bool c.finished) = some c
  simp only [ofParts?, positionOf?_array]

end Cursor

/-! ### Compact texts -/

/-- Only zero starts with a zero. -/
theorem Integral.eq_zero_of_head?_toDigits {n : Nat}
    (h : (Nat.toDigits 10 n).head? = some '0') : n = 0 := by
  induction n using Nat.strongRecOn with
  | ind n ih =>
    rw [Nat.toDigits_eq_if (by decide)] at h
    by_cases hlt : n < 10
    · rw [if_pos hlt] at h
      have hdigit : ∀ k < 10, Nat.digitChar k = '0' → k = 0 := by decide
      exact hdigit n hlt (Option.some.inj h)
    · -- the first digit is that of a smaller number, which is not zero
      rw [if_neg hlt, List.head?_append, List.head?_eq_some_head Nat.toDigits_ne_nil,
        Option.some_or, ← List.head?_eq_some_head] at h
      have hzero : n / 10 = 0 := ih (n / 10) (by omega) h
      omega

namespace JsonValue

open Cursor JsonMember

/-! ### Numbers -/

/-- The text goes on with a comma or the end of an array. -/
def EndsItem (rest : List Char) : Prop := ∃ c r, rest = c :: r ∧ (c = ',' ∨ c = ']')

theorem readUnsigned_toDigits (n : Nat) {rest : List Char} (hrest : EndsItem rest) :
    readUnsigned false (Nat.toDigits 10 n ++ rest) = some (⟨false, ⟨n, 0⟩, true⟩, rest) := by
  obtain ⟨c, r, rfl, hc⟩ := hrest
  have hdigit : ∀ d ∈ (c :: r).head?, d.isDigit = false := by
    intro d hd
    cases hd
    rcases hc with rfl | rfl <;> decide
  have hdigits : ∀ d ∈ Nat.toDigits 10 n, d.isDigit = true :=
    fun _ => Integral.isDigit_of_mem_toDigits
  obtain ⟨htake, hdrop⟩ := Decimal.takeWhile_isDigit hdigits (c :: r) hdigit
  have hfraction : readFraction (c :: r) = some ([], c :: r) := by
    rcases hc with rfl | rfl <;> rfl
  have hexponent : readExponent (c :: r) = some (0, c :: r) := by
    rcases hc with rfl | rfl <;> rfl
  have hzero : ¬(Nat.toDigits 10 n = [] ∨
      (Nat.toDigits 10 n).head? = some '0' ∧ Nat.toDigits 10 n ≠ ['0']) := by
    rintro (hnil | ⟨hhead, hne⟩)
    · exact Nat.toDigits_ne_nil hnil
    · rw [Integral.eq_zero_of_head?_toDigits hhead] at hne
      exact hne rfl
  simp only [readUnsigned, htake, hdrop, if_neg hzero, hfraction, hexponent, Option.bind_eq_bind,
    Option.bind_some, List.append_nil, Nat.ofDigitChars_ten_toDigits]
  rfl

section Digit

variable {d : Char} (hd : d.isDigit = true) (r : List Char)

include hd

theorem isSpace_of_isDigit : isSpace d = false := by
  cases hspace : isSpace d with
  | false => rfl
  | true =>
    simp only [isSpace, Bool.or_eq_true, decide_eq_true_eq] at hspace
    rcases hspace with ((rfl | rfl) | rfl) | rfl <;> exact absurd hd (by decide)

theorem readNumber_digit : readNumber (d :: r) = readUnsigned false (d :: r) := by
  unfold readNumber
  split
  · rename_i h
    cases h
    exact absurd hd (by decide)
  · rfl

theorem readToken_digit :
    readToken (d :: r) = (readNumber (d :: r)).map fun n => (number n.1, n.2) := by
  unfold readToken
  split
  · rename_i h
    cases h
    exact absurd hd (by decide)
  · rename_i h
    cases h
    exact absurd hd (by decide)
  · rename_i h
    cases h
    exact absurd hd (by decide)
  · rename_i h
    cases h
    exact absurd hd (by decide)
  · rfl

theorem skip_digit : skip (d :: r) = d :: r :=
  List.dropWhile_cons_of_neg (by rw [isSpace_of_isDigit hd]; decide)

/-- A digit begins a number. -/
theorem readValue_digit (k : Nat) :
    readValue (k + 1) (d :: r) = (readUnsigned false (d :: r)).map fun n => (number n.1, n.2) := by
  rw [readValue, skip_digit hd]
  split
  · rename_i h
    cases h
    exact absurd hd (by decide)
  · rename_i h
    cases h
    exact absurd hd (by decide)
  · rw [readToken_digit hd, readNumber_digit hd]

/-- An array that begins with a number has items. -/
theorem readValue_bracket (k : Nat) :
    readValue (k + 1) ('[' :: d :: r) =
      (readItems k (d :: r)).map fun l => (array l.1, l.2) := by
  have hskip : skip ('[' :: d :: r) = '[' :: d :: r := rfl
  rw [readValue, hskip]
  simp only [skip_digit hd]
  split
  · rename_i h
    cases h
    exact absurd hd (by decide)
  · rfl

end Digit

/-- The decimal form of a number begins with a digit. -/
theorem exists_digit (n : Nat) : ∃ d r, Nat.toDigits 10 n = d :: r ∧ d.isDigit = true := by
  obtain ⟨d, r, h⟩ := List.exists_cons_of_ne_nil (Nat.toDigits_ne_nil (n := n) (b := 10))
  exact ⟨d, r, h, Integral.isDigit_of_mem_toDigits (h ▸ List.mem_cons_self)⟩

/-- **A number in decimal** is read back. -/
theorem readValue_toDigits (n k : Nat) {rest : List Char} (hrest : EndsItem rest) :
    readValue (k + 1) (Nat.toDigits 10 n ++ rest) = some (ofNat n, rest) := by
  have hread := readUnsigned_toDigits n hrest
  obtain ⟨d, r, hdigits, hd⟩ := exists_digit n
  rw [hdigits, List.cons_append] at hread ⊢
  rw [readValue_digit hd, hread]
  rfl

/-! ### Arrays of numbers -/

theorem numbersText_cons_cons (n m : Nat) (ns : List Nat) :
    numbersText (n :: m :: ns) = Nat.toDigits 10 n ++ ',' :: numbersText (m :: ns) := by
  rw [numbersText, List.map_cons, List.map_cons, List.intercalate_cons_cons, List.append_assoc]
  rfl

theorem numbersText_singleton (n : Nat) : numbersText [n] = Nat.toDigits 10 n := by
  rw [numbersText, List.map_cons, List.map_nil, List.intercalate_singleton]

/-- Every number takes a character at least, and so does every comma. -/
theorem length_le_numbersText (ns : List Nat) : ns.length ≤ (numbersText ns).length := by
  induction ns with
  | nil => exact Nat.zero_le _
  | cons n ns ih =>
    have hpos : 0 < (Nat.toDigits 10 n).length := Nat.length_toDigits_pos
    cases ns with
    | nil =>
      rw [numbersText_singleton]
      exact hpos
    | cons m ns =>
      simp only [numbersText_cons_cons, List.length_append, List.length_cons] at ih ⊢
      omega

theorem readItems_numbers (n : Nat) (ns : List Nat) (r : List Char) {k : Nat}
    (hk : ns.length + 2 ≤ k) :
    readItems k (numbersText (n :: ns) ++ ']' :: r) = some ((n :: ns).map ofNat, r) := by
  induction ns generalizing n k with
  | nil =>
    obtain ⟨k, rfl⟩ : ∃ l, k = l + 2 := ⟨k - 2, by omega⟩
    rw [numbersText_singleton, readItems, readValue_toDigits n k ⟨']', r, rfl, .inr rfl⟩]
    rfl
  | cons m ns ih =>
    obtain ⟨k, rfl⟩ : ∃ l, k = l + 2 := ⟨k - 2, by omega⟩
    have hrest : readItems (k + 1) (numbersText (m :: ns) ++ ']' :: r) =
        some ((m :: ns).map ofNat, r) := ih m (by rw [List.length_cons] at hk; omega)
    rw [numbersText_cons_cons, List.append_assoc, List.cons_append, readItems,
      readValue_toDigits n k ⟨',', _, rfl, .inl rfl⟩]
    show (readItems (k + 1) (numbersText (m :: ns) ++ ']' :: r) >>= fun l =>
      some (ofNat n :: l.1, l.2)) = _
    rw [hrest]
    rfl

/-- **An array of numbers** is read back. -/
theorem readValue_numbers (ns : List Nat) (r : List Char) {k : Nat} (hk : ns.length + 2 ≤ k) :
    readValue k ('[' :: (numbersText ns ++ ']' :: r)) = some (array (ns.map ofNat), r) := by
  obtain ⟨k, rfl⟩ : ∃ l, k = l + 1 := ⟨k - 1, by omega⟩
  cases ns with
  | nil => rfl
  | cons n ns =>
    have hitems := @readItems_numbers n ns r k (by rw [List.length_cons] at hk; omega)
    obtain ⟨t, ht⟩ : ∃ t, numbersText (n :: ns) = Nat.toDigits 10 n ++ t := by
      cases ns with
      | nil => exact ⟨[], by rw [numbersText_singleton, List.append_nil]⟩
      | cons m ns => exact ⟨_, numbersText_cons_cons n m ns⟩
    obtain ⟨d, ds, hdigits, hd⟩ := exists_digit n
    rw [ht, hdigits, List.cons_append, List.cons_append] at hitems ⊢
    rw [readValue_bracket hd, hitems]
    rfl

/-! ### Records -/

theorem readMembers_finished (b : Bool) (k : Nat) :
    readMembers (k + 2) ("\"finished\":".toList ++ (flag b).text ++ ['\x7d']) =
      some ([(finishedName, .bool b)], []) := by
  cases b <;> rfl

theorem readMembers_position (ns : List Nat) {members : List (JsonText × JsonValue)}
    {more rest : List Char} {k : Nat} (hk : ns.length + 2 ≤ k)
    (hmore : readMembers k more = some (members, rest)) :
    readMembers (k + 1)
        ("\"position\":[".toList ++ (numbersText ns ++ ']' :: ',' :: more)) =
      some ((positionName, .array (ns.map ofNat)) :: members, rest) := by
  have hskip : skip ("\"position\":[".toList ++ (numbersText ns ++ ']' :: ',' :: more)) =
      "\"position\":[".toList ++ (numbersText ns ++ ']' :: ',' :: more) := rfl
  have htext : readText ("position\":[".toList ++ (numbersText ns ++ ']' :: ',' :: more)) =
      some (positionName, ':' :: '[' :: (numbersText ns ++ ']' :: ',' :: more)) := rfl
  have hcolon : skip (':' :: '[' :: (numbersText ns ++ ']' :: ',' :: more)) =
      ':' :: '[' :: (numbersText ns ++ ']' :: ',' :: more) := rfl
  have hcomma : skip (',' :: more) = ',' :: more := rfl
  rw [readMembers, hskip]
  show (readText ("position\":[".toList ++ _) >>= _) = _
  rw [htext]
  simp only [Option.bind_eq_bind, Option.bind_some, hcolon, readValue_numbers ns _ hk, hcomma,
    hmore]
  rfl

/-- The compact text of a cursor. -/
def compactText (b : Bytes) (finished : Bool) : List Char :=
  record [("position", .bytes b), ("finished", .flag finished)]

theorem compactText_eq (b : Bytes) (finished : Bool) :
    compactText b finished =
      '\x7b' :: ("\"position\":[".toList ++ (numbersText (b.map UInt8.toNat) ++ ']' :: ',' ::
        ("\"finished\":".toList ++ (flag finished).text ++ ['\x7d']))) := by
  have hbytes : (bytes b).text = '[' :: numbersText (b.map UInt8.toNat) ++ [']'] := rfl
  rw [compactText, record, List.map_cons, List.map_cons, List.map_nil,
    List.intercalate_cons_cons, List.intercalate_singleton, hbytes]
  simp only [List.append_assoc, List.cons_append]
  rfl

theorem length_add_two_le_compactText (b : Bytes) (finished : Bool) :
    b.length + 2 ≤ (compactText b finished).length := by
  have hnumbers := length_le_numbersText (b.map UInt8.toNat)
  rw [compactText_eq]
  simp only [List.length_cons, List.length_append, List.length_map] at hnumbers ⊢
  omega

/-- **The compact text of a cursor** is read as an object of two members. -/
theorem parse?_compactText (b : Bytes) (finished : Bool) :
    parse? (compactText b finished) = some (.object
      [(positionName, .array (b.map fun x => ofNat x.toNat)), (finishedName, .bool finished)]) := by
  -- the depth is bounded by the length of the text, to which every number adds
  have hlength := length_add_two_le_compactText b finished
  obtain ⟨k, hk⟩ : ∃ k, 2 * (compactText b finished).length + 2 = k + 4 :=
    ⟨2 * (compactText b finished).length - 2, by omega⟩
  have hnumbers : (b.map UInt8.toNat).length + 2 ≤ k + 2 := by
    rw [List.length_map]
    omega
  have hread : readValue (k + 4) (compactText b finished) = some (.object
      [(positionName, .array ((b.map UInt8.toNat).map ofNat)), (finishedName, .bool finished)],
        []) := by
    rw [compactText_eq, readValue]
    show (readMembers (k + 3) _).map (fun l => (JsonValue.object l.1, l.2)) = _
    rw [readMembers_position _ hnumbers (readMembers_finished finished k)]
    rfl
  rw [parse?, hk, hread, List.map_map]
  rfl

end JsonValue

/-- **The codec for compact texts** lists the numbers of bytes. -/
theorem JsonCodec.listsByteNumbers_compact : @ListsByteNumbers compact :=
  JsonValue.parse?_compactText

end KeyWalk
