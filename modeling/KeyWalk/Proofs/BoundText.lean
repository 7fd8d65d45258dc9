import KeyWalk.Proofs.Request

/-!
Written bounds read back.

Every score bound whose number is not `nan` has a token that can be read, and `b.received` is what
is read there (`Numeric.ofText?_render`).  A bound that comes from a text or from a number
(`ScoreBound.Given`) excludes only finite scores, and it is received as it is (`Given.received_eq`);
any bound of names is spelled by its token (`LexBound.ofToken?_token`).  The rest is what the
readers of arguments make of this:

* `Arguments.scoreBound_token`, `Arguments.lexBound_token`: one bound,
* `Arguments.scoreRange_tokens`, `Arguments.lexRange_tokens`: the two bounds of a range, in the
  order in which a request names them.

Design notes.  A bound that excludes an infinity has no notation: `(inf` spells the bound
without the parenthesis.
-/

namespace KeyWalk

/-! ### Score bounds -/

namespace ScoreBound

variable {b : ScoreBound}

/-- The bound was read from a text or made of a number. -/
inductive Given : ScoreBound → Prop
  | parsed {b : ScoreBound} {text : String} (h : parse text = .ok b) : Given b
  | number {s : Score} (h : s.isNaN = false) : Given (ofScore s)

/-- The bound is at one of the infinities, or at a finite score. -/
inductive Plain : ScoreBound → Prop
  | negInf : Plain negInf
  | posInf : Plain posInf
  | inclusive {s : Score} (hs : s.isNaN = false) (hneg : s.isNegInf = false)
      (hpos : s.isPosInf = false) : Plain (inclusive s)
  | exclusive {s : Score} (hs : s.isNaN = false) (hneg : s.isNegInf = false)
      (hpos : s.isPosInf = false) : Plain (exclusive s)

theorem plain_ofScore {s : Score} (hs : s.isNaN = false) : Plain (ofScore s) := by
  rw [ofScore]
  by_cases hneg : s.isNegInf = true
  · rw [if_pos hneg]
    exact .negInf
  · rw [if_neg hneg]
    by_cases hpos : s.isPosInf = true
    · rw [if_pos hpos]
      exact .posInf
    · rw [if_neg hpos]
      exact .inclusive hs (by simpa using hneg) (by simpa using hpos)

theorem plain_of_ofText? {cs : List Char} (h : ofText? cs = some b) : Plain b := by
  unfold ofText? at h
  split at h
  · -- behind a parenthesis
    obtain ⟨s, hs, rfl⟩ := Option.map_eq_some_iff.1 h
    have hnan : s.isNaN = false := Score.isNaN_of_ofText? hs
    by_cases hneg : s.isNegInf = true
    · rw [if_pos hneg]
      exact .negInf
    · rw [if_neg hneg]
      by_cases hpos : s.isPosInf = true
      · rw [if_pos hpos]
        exact .posInf
      · rw [if_neg hpos]
        exact .exclusive hnan (by simpa using hneg) (by simpa using hpos)
  · obtain ⟨s, hs, rfl⟩ := Option.map_eq_some_iff.1 h
    exact plain_ofScore (Score.isNaN_of_ofText? hs)

theorem Given.plain (h : Given b) : Plain b := by
  cases h with
  | parsed h =>
    unfold parse at h
    split at h
    · rename_i b' hb'
      exact Except.ok.inj h ▸ plain_of_ofText? hb'
    · exact absurd h (by simp [refuse, fail])
  | number h => exact plain_ofScore h

/-- A text without a parenthesis in front spells an inclusive bound. -/
theorem ofText?_of_head {cs : List Char} (h : ∀ r, cs ≠ '(' :: r) :
    ofText? cs = (Score.ofText? cs).map ofScore := by
  unfold ofText?
  split
  · rename_i r
    exact absurd rfl (h r)
  · rfl

theorem render_ne_cons {s : Score} (hs : s.isNaN = false) (r : List Char) :
    Score.render s ≠ '(' :: r := by
  intro h
  have hplain : Score.IsPlain '(' :=
    Score.isPlain_of_mem_render hs (h ▸ List.mem_cons_self)
  rcases hplain with hdigit | hmem
  · exact absurd hdigit (by decide)
  · exact absurd hmem (by decide)

/-- The number of the bound, if it has one, is not `nan`. -/
def Numeric : ScoreBound → Prop
  | inclusive s | exclusive s => s.isNaN = false
  | negInf | posInf => True

/-- What is read where the bound was written: an infinity loses its parenthesis. -/
def received : ScoreBound → ScoreBound
  | inclusive s => ofScore s
  | exclusive s => if s.isNegInf then negInf else if s.isPosInf then posInf else exclusive s
  | negInf => negInf
  | posInf => posInf

theorem Plain.numeric (h : Plain b) : b.Numeric := by
  cases h with
  | negInf | posInf => exact trivial
  | inclusive hs | exclusive hs => exact hs

theorem Plain.received_eq (h : Plain b) : b.received = b := by
  cases h with
  | negInf | posInf => rfl
  | inclusive hs hneg hpos | exclusive hs hneg hpos => simp [received, ofScore, hneg, hpos]

theorem Given.numeric (h : Given b) : b.Numeric := h.plain.numeric

theorem Given.received_eq (h : Given b) : b.received = b := h.plain.received_eq

/-- **The text of a bound can be read**, and says what is received. -/
theorem Numeric.ofText?_render (h : b.Numeric) : ofText? b.render = some b.received := by
  cases b with
  | negInf => rfl
  | posInf => rfl
  | inclusive s =>
    have hs : s.isNaN = false := h
    rw [render, ofText?_of_head (render_ne_cons hs), Score.ofText?_render hs]
    rfl
  | exclusive s =>
    have hs : s.isNaN = false := h
    rw [render, ofText?, Score.ofText?_render hs]
    rfl

theorem Numeric.isAscii (h : b.Numeric) {c : Char} (hc : c ∈ b.render) : Utf8.IsAscii c := by
  -- but for a parenthesis in front, each bound is written like a score
  have hscore : ∀ {s : Score}, s.isNaN = false → c ∈ Score.render s → Utf8.IsAscii c :=
    fun hs hc => (Score.isPlain_of_mem_render hs hc).isAscii
  cases b with
  | negInf => exact hscore (s := Binary64.inf true) rfl hc
  | posInf => exact hscore (s := Binary64.inf false) rfl hc
  | inclusive s => exact hscore h hc
  | exclusive s =>
    rcases List.mem_cons.1 hc with rfl | hc
    · show '('.toNat < 0x80
      decide
    · exact hscore h hc

theorem Numeric.decode?_token (h : b.Numeric) :
    (Utf8.decode? b.token >>= ofText?) = some b.received := by
  have hascii : ∀ c ∈ b.render, Utf8.IsAscii c := fun _ => h.isAscii
  rw [token, Utf8.decode?_encode hascii, Option.bind_eq_bind, Option.bind_some,
    h.ofText?_render]

end ScoreBound

/-- The range that is read where this one was written. -/
def ScoreRange.received (range : ScoreRange) : ScoreRange :=
  ⟨range.min.received, range.max.received⟩

/-- **A bound of names is recovered from its token**, whatever bytes its name has. -/
theorem LexBound.ofToken?_token (b : LexBound) : ofToken? b.token = some b := by
  cases b with
  | inclusive name => rfl
  | exclusive name => rfl
  | least => rfl
  | greatest => rfl

/-! ### The two bounds of a range -/

/-- The tokens of two bounds, the upper one first if `reverse`. -/
def boundTokens {β : Type} (token : β → Bytes) (reverse : Bool) (lower upper : β) : List Bytes :=
  if reverse then [token upper, token lower] else [token lower, token upper]

namespace Arguments

theorem scoreBound_token {b : ScoreBound} (h : b.Numeric) (r : List Bytes) :
    scoreBound (b.token :: r) = .ok (b.received, r) := by
  rw [scoreBound, h.decode?_token]

theorem lexBound_token (b : LexBound) (r : List Bytes) :
    lexBound (b.token :: r) = .ok (b, r) := by
  rw [lexBound, bind_of_ok (next_cons _ _), LexBound.ofToken?_token]
  rfl

theorem scoreRange_tokens {range : ScoreRange} (hmin : range.min.Numeric)
    (hmax : range.max.Numeric) (reverse : Bool) (r : List Bytes) :
    scoreRange reverse (boundTokens ScoreBound.token reverse range.min range.max ++ r) =
      .ok (range.received, r) := by
  cases reverse with
  | true =>
    show scoreRange true (range.max.token :: range.min.token :: r) = _
    rw [scoreRange, bind_of_ok (scoreBound_token hmax _), bind_of_ok (scoreBound_token hmin _)]
    rfl
  | false =>
    show scoreRange false (range.min.token :: range.max.token :: r) = _
    rw [scoreRange, bind_of_ok (scoreBound_token hmin _), bind_of_ok (scoreBound_token hmax _)]
    rfl

theorem lexRange_tokens (range : LexRange) (reverse : Bool) (r : List Bytes) :
    lexRange reverse (boundTokens LexBound.token reverse range.min range.max ++ r) =
      .ok (range, r) := by
  cases reverse with
  | true =>
    show lexRange true (range.max.token :: range.min.token :: r) = _
    rw [lexRange, bind_of_ok (lexBound_token _ _), bind_of_ok (lexBound_token _ _)]
    rfl
  | false =>
    show lexRange false (range.min.token :: range.max.token :: r) = _
    rw [lexRange, bind_of_ok (lexBound_token _ _), bind_of_ok (lexBound_token _ _)]
    rfl

theorem integer_token {n : Int} (h : Integral.fits n = true) (r : List Bytes) :
    integer (Integral.token n :: r) = .ok (n, r) := by
  rw [integer, bind_of_ok (next_cons _ _), Integral.ofToken?_token h]
  rfl

end Arguments

end KeyWalk
