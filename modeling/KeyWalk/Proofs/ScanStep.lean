import KeyWalk.Proofs.Delivery
import KeyWalk.Proofs.Reachable
import KeyWalk.Proofs.StepRequest

/-!
One step of a walk over a store.

`s.listing key t` is what there is to walk: the entries under the key in ascending order of names,
each with the element that stands for it.  `ScanArgs.Accepted args count glob` says what the
arguments of a step ask for.

* `Accepted.encodes`: the tokens of accepted arguments, and how they are read back,
* `Store.apply_scan`: the reply to a step, the window at the cursor over the listing,
* `Walk.StandsAt.step`: one step of a walk, from the offset where it stands,
* `stepsFor n count`: the number of steps over `n` entries.

Design notes.  A cursor is an offset in decimal, and only the offset zero has the text of the start
token.  So the walk is over exactly when the store hands back zero.
-/

namespace KeyWalk

/-! ### What is walked -/

/-- The types of collections that can be walked. -/
inductive CollectionType where
  | hash
  | sortedSet

namespace CollectionType

/-- What the walk yields. -/
abbrev Element : CollectionType → Type
  | hash => KeyValue
  | sortedSet => ScoredValue

/-- The walk. -/
def scan : (t : CollectionType) → ScanKind t.Element
  | hash => hashScan
  | sortedSet => sortedSetScan

end CollectionType

namespace Store

variable {s : Store} {key : Bytes} {t : CollectionType} {es : List (Bytes × t.Element)}

/-- The entries under a key by name, each with its element; an absent key has none. -/
def listing (s : Store) (key : Bytes) :
    (t : CollectionType) → Except Fault (List (Bytes × t.Element))
  | .hash => (s.read .hash key).map fun h => h.entries.map fun e => (e.1, ⟨e.1, e.2⟩)
  | .sortedSet => (s.read .sortedSet key).map fun z => z.members.map fun e => (e.1, ⟨e.2, e.1⟩)

theorem listing_hash_eq_ok_iff {es : List (Bytes × KeyValue)} :
    s.listing key .hash = .ok es ↔
      ∃ h, s.read .hash key = .ok h ∧ h.entries.map (fun e => (e.1, ⟨e.1, e.2⟩)) = es := by
  rw [listing]
  cases s.read .hash key <;> simp [Except.map]

theorem listing_sortedSet_eq_ok_iff {es : List (Bytes × ScoredValue)} :
    s.listing key .sortedSet = .ok es ↔
      ∃ z, s.read .sortedSet key = .ok z ∧ z.members.map (fun e => (e.1, ⟨e.2, e.1⟩)) = es := by
  rw [listing]
  cases s.read .sortedSet key <;> simp [Except.map]

theorem pairwise_listing (h : s.listing key t = .ok es) : es.Pairwise fun a b => a.1 < b.1 := by
  cases t with
  | hash =>
    obtain ⟨m, -, rfl⟩ := listing_hash_eq_ok_iff.1 h
    exact List.pairwise_map.2 m.ascending
  | sortedSet =>
    obtain ⟨z, -, rfl⟩ := listing_sortedSet_eq_ok_iff.1 h
    exact List.pairwise_map.2 z.scores.ascending

end Store

/-! ### The request of a step -/

section Accepted

variable [GlobEngine]

/-- The scan arguments ask for pages of `count` positions, ten where they say nothing, and for the
names that `glob` admits; the store accepts them. -/
structure ScanArgs.Accepted (args : Option ScanArgs) (count : Nat) (glob : Option Matcher) :
    Prop where
  count_eq : (args.bind (·.count)).getD 10 = count
  count_pos : 0 < count
  count_le : (count : Int) ≤ Integral.greatest
  pattern :
    (args.bind (·.pattern)).mapM (fun p => GlobEngine.compile (Utf8.lossy p)) = .ok glob

namespace ScanWindow

/-- The option of the count, in any ASCII case and with the number in any spelling. -/
theorem readOptions_counted {w : ScanWindow} {word token : Bytes} {n : Nat}
    (hword : Bytes.isWord "COUNT" word = true) (hn : Integral.ofToken? token = some (n : Int))
    (hpos : 0 < n) (r : List Bytes) :
    w.readOptions (word :: token :: r) = { w with count := n }.readOptions r := by
  have hmatch : Bytes.isWord "MATCH" word = false := by
    rw [Bytes.isWord, beq_iff_eq.1 hword]
    decide
  have hle : ¬((n : Int) < 1) := by omega
  rw [readOptions]
  simp only [hmatch, hword, Bool.false_eq_true, if_false, if_true, hn, hle, Int.toNat_natCast]

theorem readOptions_count {w : ScanWindow} {n : Nat} (hpos : 0 < n)
    (hle : (n : Int) ≤ Integral.greatest) (r : List Bytes) :
    w.readOptions (Bytes.ofString "COUNT" :: Integral.token n :: r) =
      { w with count := n }.readOptions r :=
  readOptions_counted (by decide) (Integral.ofToken?_token (Integral.fits_of_le_greatest hle)) hpos
    r

theorem readOptions_pattern {w : ScanWindow} {p : Bytes} {g : Matcher}
    (hg : GlobEngine.compile (Utf8.lossy p) = .ok g) (r : List Bytes) :
    w.readOptions (Bytes.ofString "MATCH" :: p :: r) =
      { w with pattern := some g }.readOptions r := by
  have hword : Bytes.isWord "MATCH" (Bytes.ofString "MATCH") = true := by decide
  rw [readOptions]
  simp only [hword, if_true, hg]

end ScanWindow

namespace ScanArgs

/-- A pattern comes first, and what stands behind it is read with its glob. -/
theorem readOptions_patternTokens (pattern : Option Bytes) {glob : Option Matcher}
    (h : pattern.mapM (fun p => GlobEngine.compile (Utf8.lossy p)) = .ok glob) (o : Nat)
    (r : List Bytes) :
    ({ offset := o } : ScanWindow).readOptions (patternTokens pattern ++ r) =
      ({ offset := o, pattern := glob } : ScanWindow).readOptions r := by
  cases pattern with
  | none =>
    have hglob : none = glob := Except.ok.inj h
    exact hglob ▸ rfl
  | some p =>
    change some <$> GlobEngine.compile (Utf8.lossy p) = .ok glob at h
    cases hg : GlobEngine.compile (Utf8.lossy p) with
    | error reason =>
      rw [hg] at h
      exact absurd h (by simp [Functor.map, Except.map])
    | ok g =>
      rw [hg] at h
      have hglob : some g = glob := Except.ok.inj h
      exact hglob ▸ ScanWindow.readOptions_pattern hg r

/-- The tokens of accepted arguments read back as what the arguments ask for. -/
theorem Accepted.tokens {args : ScanArgs} {count : Nat} {glob : Option Matcher}
    (h : Accepted (some args) count glob) :
    ∃ clauses, args.tokens = .ok clauses ∧
      ∀ o, ({ offset := o } : ScanWindow).readOptions clauses = .ok ⟨o, count, glob⟩ := by
  obtain ⟨pattern, hint⟩ := args
  obtain ⟨rfl, hpos, hle, hpattern⟩ := h
  cases hint with
  | none =>
    refine ⟨patternTokens pattern, rfl, fun o => ?_⟩
    rw [← List.append_nil (patternTokens pattern),
      readOptions_patternTokens pattern hpattern]
    rfl
  | some n =>
    replace hpos : 0 < n := hpos
    replace hle : (n : Int) ≤ Integral.greatest := hle
    have hn : n ≠ 0 := by omega
    have hn' : ¬Integral.greatest < (n : Int) := by omega
    refine ⟨patternTokens pattern ++ [Bytes.ofString "COUNT", Integral.token n],
      by simp only [ScanArgs.tokens, if_neg hn, if_neg hn'], fun o => ?_⟩
    rw [readOptions_patternTokens pattern hpattern,
      ScanWindow.readOptions_count hpos hle]
    rfl

/-- Accepted arguments are valid. -/
theorem Accepted.encodes {args : Option ScanArgs} {count : Nat} {glob : Option Matcher}
    (h : Accepted args count glob) :
    ∃ clauses, Encodes args clauses ∧
      ∀ o, ({ offset := o } : ScanWindow).readOptions clauses = .ok ⟨o, count, glob⟩ := by
  cases args with
  | none =>
    obtain ⟨rfl, -, -, hpattern⟩ := h
    have hglob : none = glob := Except.ok.inj hpattern
    exact ⟨[], rfl, fun o => hglob ▸ rfl⟩
  | some args => exact h.tokens

end ScanArgs

end Accepted

/-! ### The reply to a step -/

namespace ScanWindow

variable {β γ : Type}

/-- **Where the next window begins**, over entries that a word counts: the sum that is cut off at
the greatest word is cut off behind the end. -/
theorem next_eq (w : ScanWindow) {n : Nat} (hn : n < Integral.unsignedBound) :
    w.next n = if n ≤ w.offset + w.count then 0 else w.offset + w.count := by
  have hstop : n ≤ w.stop ↔ n ≤ w.offset + w.count := by
    rw [stop, Integral.saturatingAdd, Nat.le_min]
    exact ⟨And.left, fun h => ⟨h, by omega⟩⟩
  rw [next]
  by_cases hend : n ≤ w.offset + w.count
  · rw [if_pos (hstop.2 hend), if_pos hend]
  · rw [if_neg fun h => hend (hstop.1 h), if_neg hend, stop, Integral.saturatingAdd]
    omega

/-- The page of entries that are shown in another way. -/
theorem page_map (w : ScanWindow) (f : Bytes × β → γ) (l : List (Bytes × β)) :
    w.page (l.map fun e => (e.1, f e)) = (w.page l).map fun e => (e.1, f e) := by
  rw [page, page, ← List.map_drop, ← List.map_take, List.filter_map]
  rfl

/-- The cursor after the step, and the elements of its page. -/
theorem scanPage_reply {ε : Type} {kind : ScanKind ε} {w : ScanWindow} {value : β → Bytes}
    {element : Bytes × β → ε} {l : List (Bytes × β)}
    {read : String → Reply → Reply → Outcome ε} (hkind : kind.reader = .paired read)
    (h : ∀ e ∈ l, read kind.command.name (.value e.1) (.value (value e.2)) = .ok (element e)) :
    scanPage kind (w.reply value l) =
      .ok ⟨.ofToken (Integral.token (w.next l.length)), (w.page l).map element⟩ := by
  have hcollect : collect kind.reader kind.command.name
      ((w.page l).flatMap fun e => [.value e.1, .value (value e.2)]) =
        .ok ((w.page l).map element) := by
    rw [hkind]
    refine collect_pairs fun e he => h e ?_
    exact List.mem_of_mem_drop (List.mem_of_mem_take (List.mem_filter.1 he).1)
  show (collect kind.reader kind.command.name _ >>= fun elements => Except.ok _) = _
  rw [hcollect]
  rfl

theorem scanPage_entries (w : ScanWindow) (h : Hash) :
    scanPage hashScan (w.reply id h.entries) =
      .ok ⟨.ofToken (Integral.token (w.next h.entries.length)),
        (w.page h.entries).map fun e => ⟨e.1, e.2⟩⟩ :=
  scanPage_reply rfl fun _ _ => rfl

/-- Scores are sent as text and read back. -/
theorem scanPage_members (w : ScanWindow) {z : SortedSet} (hnumeric : z.Numeric) :
    scanPage sortedSetScan (w.reply Score.token z.members) =
      .ok ⟨.ofToken (Integral.token (w.next z.members.length)),
        (w.page z.members).map fun e => ⟨e.2, e.1⟩⟩ := by
  refine scanPage_reply rfl fun e he => ?_
  have hscore : e.2.isNaN = false := hnumeric e.1 e.2 (ByteMap.get?_eq_some_iff.2 he)
  simp only [Reply.readRequiredScore_token hscore]
  rfl

end ScanWindow

/-- The token spells the offset, in whatever way. -/
def Cursor.Spells (token : Bytes) (o : Nat) : Prop :=
  (Utf8.decode? token >>= Integral.unsigned?) = some o

theorem Cursor.spells_token {o : Nat} (ho : o < Integral.unsignedBound) :
    Spells (Integral.token o) o := Integral.unsigned?_token ho

namespace Request

variable [GlobEngine] {key token : Bytes} {o : Nat} {clauses : List Bytes} {w : ScanWindow}

/-- A cursor, and the options behind it, which are read or have a fault. -/
theorem scanWindow_token (ho : Cursor.Spells token o) (clauses : List Bytes) :
    Arguments.scanWindow (token :: clauses) =
      (({ offset := o } : ScanWindow).readOptions clauses).map fun w => (w, []) := by
  have hoffset : (Utf8.decode? token >>= Integral.unsigned?) = some o := ho
  rw [Arguments.scanWindow, Arguments.bind_of_ok (Arguments.next_cons _ _), hoffset,
    Arguments.bind_of_ok (Arguments.require_some _ _ _)]

/-- What a scan step asks of the collection under the key. -/
def ofWindow (key : Bytes) (w : ScanWindow) : CollectionType → Request
  | .hash => .askHash key (.scan w)
  | .sortedSet => .askSet key (.scan w)

theorem ofCommand_scan (t : CollectionType) (ho : Cursor.Spells token o)
    (hread : ({ offset := o } : ScanWindow).readOptions clauses = .ok w) :
    ofCommand ⟨t.scan.command, key :: token :: clauses⟩ = .ok (ofWindow key w t) := by
  have hwindow : Arguments.scanWindow (token :: clauses) = .ok (w, []) := by
    rw [scanWindow_token ho, hread]
    rfl
  cases t with
  | hash => exact ofCommand_about .askHash rfl (Arguments.bind_of_ok hwindow)
  | sortedSet => exact ofCommand_about .askSet rfl (Arguments.bind_of_ok hwindow)

theorem ofCommand_scan_error (t : CollectionType) {fault : Fault}
    (hread : Arguments.scanWindow (token :: clauses) = .error fault) :
    ofCommand ⟨t.scan.command, key :: token :: clauses⟩ = .error fault := by
  cases t with
  | hash => exact ofCommand_about_error .askHash rfl (Arguments.bind_of_error hread)
  | sortedSet => exact ofCommand_about_error .askSet rfl (Arguments.bind_of_error hread)

end Request

/-- **The reply to a step**: the store stays as it is, and the reply holds the window of the
entries under the key. -/
theorem Store.apply_scan [GlobEngine] {s : Store} {key token : Bytes} {t : CollectionType}
    {es : List (Bytes × t.Element)} {o : Nat} {clauses : List Bytes} {w : ScanWindow}
    (hs : s.WellFormed) (hl : s.listing key t = .ok es) (ho : Cursor.Spells token o)
    (hread : ({ offset := o } : ScanWindow).readOptions clauses = .ok w) :
    (s.apply ⟨t.scan.command, key :: token :: clauses⟩).2 = s ∧
      scanPage t.scan (s.apply ⟨t.scan.command, key :: token :: clauses⟩).1 =
        .ok ⟨.ofToken (Integral.token (w.next es.length)), (w.page es).map (·.2)⟩ := by
  have hrequest : Request.ofCommand ⟨t.scan.command, key :: token :: clauses⟩ =
      .ok (.ofWindow key w t) := Request.ofCommand_scan t ho hread
  rw [apply_of_ofCommand hrequest]
  cases t with
  | hash =>
    obtain ⟨h, hh, rfl⟩ := listing_hash_eq_ok_iff.1 hl
    have ha : s.answer (.ofWindow key w .hash) = (.ok (w.reply id h.entries), s) := by
      rw [Request.ofWindow, answer, hh]
      rfl
    rw [ha, ScanWindow.page_map, List.length_map, List.map_map]
    exact ⟨rfl, w.scanPage_entries h⟩
  | sortedSet =>
    obtain ⟨z, hz, rfl⟩ := listing_sortedSet_eq_ok_iff.1 hl
    have ha : s.answer (.ofWindow key w .sortedSet) = (.ok (w.reply Score.token z.members), s) := by
      rw [Request.ofWindow, answer, hz]
      rfl
    have hnumeric : z.Numeric := (hs.read hz).2
    rw [ha, ScanWindow.page_map, List.length_map, List.map_map]
    exact ⟨rfl, w.scanPage_members hnumeric⟩

/-! ### Walks -/

namespace Walk

variable {ε : Type} {kind : ScanKind ε} {key : Bytes} {w : Walk ε} {o n : Nat}

/-- The walk over the key goes on at offset `o`, or starts there. -/
structure StandsAt (w : Walk ε) (kind : ScanKind ε) (key : Bytes) (o : Nat) : Prop where
  kind_eq : w.kind = kind
  key_eq : w.key = key
  state : w.state = .initial ∧ o = 0 ∨ w.state = .inProgress ⟨Integral.token o, false⟩

theorem standsAt_start (kind : ScanKind ε) (key : Bytes) (args : Option ScanArgs) :
    (start kind key args).StandsAt kind key 0 := ⟨rfl, rfl, .inl ⟨rfl, rfl⟩⟩

/-- The walk goes on with other arguments. -/
theorem StandsAt.withArgs (h : w.StandsAt kind key o) (args : Option ScanArgs) :
    StandsAt { w with args := args } kind key o := ⟨h.kind_eq, h.key_eq, h.state⟩

/-- The store hands back an offset to go on from. -/
theorem StandsAt.record (h : w.StandsAt kind key o) (hn : n ≠ 0) :
    (w.record (.ofToken (Integral.token n))).StandsAt kind key n := by
  have hne : Integral.token n ≠ Cursor.startToken := fun heq =>
    hn (Int.ofNat_inj.1 (Integral.token_injective (n := 0) heq))
  have hof : Cursor.ofToken (Integral.token n) = ⟨Integral.token n, false⟩ := by
    rw [Cursor.ofToken, beq_eq_false_iff_ne.2 hne]
  exact ⟨h.kind_eq, h.key_eq, .inr (by rw [hof]; rfl)⟩

/-- The store hands back the token `0`. -/
theorem isDone_record_zero (w : Walk ε) :
    (w.record (.ofToken (Integral.token (0 : Nat)))).isDone = true := rfl

theorem nextCommand?_of_isDone (h : w.isDone = true) : w.nextCommand? = .ok none := by
  rw [nextCommand?, if_pos h]

/-- An offset is asked for by its text, and the start token is the text of offset zero. -/
theorem StandsAt.asks (h : w.StandsAt kind key o) :
    w.Asks kind key w.args (Integral.token o) := by
  refine ⟨h.kind_eq, h.key_eq, rfl, h.state.imp ?_ id⟩
  rintro ⟨hstate, rfl⟩
  exact ⟨hstate, rfl⟩

/-- The request of a walk that is not over. -/
theorem StandsAt.nextCommand? [GlobEngine] {count : Nat} {glob : Option Matcher}
    (h : w.StandsAt kind key o) (hargs : ScanArgs.Accepted w.args count glob) :
    ∃ clauses, ({ offset := o } : ScanWindow).readOptions clauses = .ok ⟨o, count, glob⟩ ∧
      w.nextCommand? = .ok (some (kind.request key clauses (Integral.token o))) := by
  obtain ⟨clauses, hencodes, hread⟩ := hargs.encodes
  exact ⟨clauses, hread o, h.asks.nextCommand? hencodes⟩

/-- **One step of a walk**: it asks for the window at its offset, the store stays as it is, and
the walk takes the elements of the window. -/
theorem StandsAt.step [GlobEngine] {t : CollectionType} {w : Walk t.Element} {s : Store}
    {es : List (Bytes × t.Element)} {count : Nat} {glob : Option Matcher}
    (h : w.StandsAt t.scan key o) (hargs : ScanArgs.Accepted w.args count glob)
    (hs : s.WellFormed) (hl : s.listing key t = .ok es) (ho : o < Integral.unsignedBound) :
    ∃ c, w.nextCommand? = .ok (some c) ∧ (s.apply c).2 = s ∧
      w.advance (s.apply c).1 =
        (.ok (((⟨o, count, glob⟩ : ScanWindow).page es).map (·.2)),
          w.record (.ofToken
            (Integral.token ((⟨o, count, glob⟩ : ScanWindow).next es.length)))) := by
  obtain ⟨clauses, hread, hc⟩ := h.nextCommand? hargs
  obtain ⟨hstore, hpage⟩ := Store.apply_scan hs hl (Cursor.spells_token ho) hread
  refine ⟨_, hc, hstore, ?_⟩
  rw [advance, h.kind_eq, ScanKind.request, hpage]

end Walk

/-! ### The number of steps -/

/-- The number of steps over `n` entries, `count` positions at a time; there is at least one. -/
def stepsFor (n count : Nat) : Nat := max 1 ((n + count - 1) / count)

theorem stepsFor_of_le {n count : Nat} (h : n ≤ count) : stepsFor n count = 1 := by
  have hdiv : (n + count - 1) / count ≤ 1 := by
    rcases Nat.eq_zero_or_pos count with rfl | hpos
    · simp
    · exact Nat.le_of_lt_succ ((Nat.div_lt_iff_lt_mul hpos).2 (by omega))
  rw [stepsFor]
  omega

theorem stepsFor_of_lt {n count : Nat} (hpos : 0 < count) (h : count < n) :
    stepsFor n count = stepsFor (n - count) count + 1 := by
  have hdiv : (n + count - 1) / count = (n - count + count - 1) / count + 1 := by
    rw [← Nat.add_div_right _ hpos]
    congr 1
    omega
  have hrest : 1 ≤ (n - count + count - 1) / count := (Nat.one_le_div_iff hpos).2 (by omega)
  rw [stepsFor, stepsFor, hdiv]
  omega

end KeyWalk
