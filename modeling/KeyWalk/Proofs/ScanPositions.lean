import KeyWalk.Glob
import KeyWalk.Proofs.ScanStep

/-!
The window of a scan step, told by positions.

A step may ask for any offset that a machine word counts, in whatever way its cursor spells the
number, also far behind the last entry.  It is answered by the entries at the positions from the
offset on, as many as the count says, and by the position behind them, or by the start token where
that is the end.

* `positions first stop l`: the part of a list between two positions,
* `ScanWindow.Hints`: the options of a step without a pattern,
* `Store.answer_window`: what a step is answered, token by token,
* `ScanWindow.next_spec`: when the cursor of the answer is the start token,
* `Store.apply_scan_positions`: all of it together.

Design notes.  Here the offset and the count are added without a bound.  A word cannot hold every
such sum, but no collection has more entries than a word counts, so a sum that is cut off at the
greatest word has reached the end either way.
-/

namespace KeyWalk

/-! ### Positions -/

section Positions

variable {β γ : Type}

/-- The entries at the positions from `first` on and in front of `stop`. -/
def positions (first stop : Nat) (l : List β) : List β :=
  (l.zipIdx.filter fun e => first ≤ e.2 && e.2 < stop).map (·.1)

theorem positions_zipIdx (first stop : Nat) (l : List β) (place : Nat) :
    ((l.zipIdx place).filter fun e => first ≤ e.2 && e.2 < stop).map (·.1) =
      (l.take (stop - place)).drop (first - place) := by
  induction l generalizing place with
  | nil => simp
  | cons a r ih =>
    rw [List.zipIdx_cons, List.filter_cons]
    -- the entry at this place is in front of the window, in it, or behind it
    by_cases hstop : place < stop
    · have htake : stop - place = stop - (place + 1) + 1 := by omega
      rw [htake, List.take_succ_cons]
      by_cases hfirst : first ≤ place
      · have hdrop : first - place = 0 := by omega
        have hdrop' : first - (place + 1) = 0 := by omega
        simp [hfirst, hstop, ih, hdrop, hdrop']
      · have hdrop : first - place = first - (place + 1) + 1 := by omega
        simp [hfirst, ih, hdrop]
    · have htake : stop - place = 0 := by omega
      have htake' : stop - (place + 1) = 0 := by omega
      simp [hstop, ih, htake, htake']

/-- A number of entries from an offset on. -/
theorem positions_eq (offset count : Nat) (l : List β) :
    positions offset (offset + count) l = (l.drop offset).take count := by
  rw [positions, positions_zipIdx, Nat.sub_zero, Nat.sub_zero, List.drop_take,
    Nat.add_sub_cancel_left]

/-- Without a pattern the page of a window is all that the window covers. -/
theorem ScanWindow.page_eq_positions (offset count : Nat) (l : List (Bytes × β)) :
    (⟨offset, count, none⟩ : ScanWindow).page l = positions offset (offset + count) l := by
  rw [positions_eq, page]
  exact List.filter_eq_self.2 fun _ _ => rfl

end Positions

/-! ### The cursor behind a window -/

namespace ScanWindow

variable {w : ScanWindow} {n : Nat}

/-- **When a step hands back the start token**, and what it hands back else. -/
theorem next_spec (hcount : 0 < w.count) (hn : n < Integral.unsignedBound) :
    (Integral.token (w.next n) = Cursor.startToken ↔ n ≤ w.offset + w.count) ∧
      (w.offset + w.count < n →
        Integral.token (w.next n) = Integral.token (w.offset + w.count : Nat) ∧
          Cursor.Spells (Integral.token (w.next n)) (w.offset + w.count)) := by
  rw [next_eq w hn]
  by_cases hend : n ≤ w.offset + w.count
  · rw [if_pos hend]
    exact ⟨⟨fun _ => hend, fun _ => rfl⟩, fun hlt => absurd hend (Nat.not_le.2 hlt)⟩
  · rw [if_neg hend]
    -- the sum is not zero, because the count is not, and only zero is written as the start token
    have hne : Integral.token (w.offset + w.count : Nat) ≠ Cursor.startToken := by
      intro hstart
      have hzero : ((w.offset + w.count : Nat) : Int) = (0 : Nat) :=
        Integral.token_injective hstart
      omega
    exact ⟨⟨fun h => absurd h hne, fun h => absurd h hend⟩,
      fun hlt => ⟨rfl, Cursor.spells_token (Nat.lt_trans hlt hn)⟩⟩

end ScanWindow

/-! ### Options without a pattern -/

namespace ScanWindow

/-- The options of a step that has no pattern, and how they change the count: the word in any ASCII
case and the number in any spelling, once, more than once, or not at all. -/
inductive Hints : Nat → List Bytes → Nat → Prop
  | done (count : Nat) : Hints count [] count
  | named {word token : Bytes} {clauses : List Bytes} {before named count : Nat}
      (hword : Bytes.isWord "COUNT" word = true)
      (hnamed : Integral.ofToken? token = some (named : Int)) (hpos : 0 < named)
      (hrest : Hints named clauses count) : Hints before (word :: token :: clauses) count

namespace Hints

variable {clauses : List Bytes} {before count : Nat}

theorem count_pos (h : Hints before clauses count) (hbefore : 0 < before) : 0 < count := by
  induction h with
  | done => exact hbefore
  | named _ _ hpos _ ih => exact ih hpos

/-- **Such options are read**, and the last one counts. -/
theorem readOptions [GlobEngine] (h : Hints before clauses count) (offset : Nat) :
    (⟨offset, before, none⟩ : ScanWindow).readOptions clauses = .ok ⟨offset, count, none⟩ := by
  induction h with
  | done => rw [ScanWindow.readOptions]
  | named hword hnamed hpos _ ih => rw [readOptions_counted hword hnamed hpos, ih]

end Hints

end ScanWindow

/-! ### The answer to a step -/

/-- The two tokens of an element: the name, then what is stored for it. -/
def CollectionType.tokens : (t : CollectionType) → t.Element → List Reply
  | .hash, e => [.value e.key, .value e.value]
  | .sortedSet, e => [.value e.value, .value (Score.token e.score)]

namespace Store

variable {s : Store} {key token : Bytes} {t : CollectionType} {es : List (Bytes × t.Element)}

/-- **What a step is answered**: the cursor to go on with, and the elements of the page. -/
theorem answer_window (hl : s.listing key t = .ok es) (w : ScanWindow) :
    s.answer (.ofWindow key w t) =
      (.ok (.array [.value (Integral.token (w.next es.length)),
        .array ((w.page es).flatMap fun e => t.tokens e.2)]), s) := by
  cases t with
  | hash =>
    obtain ⟨h, hh, rfl⟩ := listing_hash_eq_ok_iff.1 hl
    rw [Request.ofWindow, answer, hh, ScanWindow.page_map, List.length_map, List.flatMap_map]
    rfl
  | sortedSet =>
    obtain ⟨z, hz, rfl⟩ := listing_sortedSet_eq_ok_iff.1 hl
    rw [Request.ofWindow, answer, hz, ScanWindow.page_map, List.length_map, List.flatMap_map]
    rfl

/-- **A scan step without a pattern, at any offset and with any count.**  The reply holds exactly
the entries at the positions from the offset on and in front of the sum of offset and count, in
order of names, and a client reads them.  The cursor of the reply is the start token just if that
sum reaches the end; else it is the sum in decimal, which the store reads back.  This is the cursor
that the store comes to with words, whose sums stop at the greatest one.

The entries of one key are counted by a machine word. -/
theorem apply_scan_positions [GlobEngine] (hs : s.WellFormed) (hl : s.listing key t = .ok es)
    (hsize : es.length < Integral.unsignedBound) {offset : Nat} (ho : Cursor.Spells token offset)
    {clauses : List Bytes} {count : Nat} (hcount : ScanWindow.Hints 10 clauses count) :
    let c : Command := ⟨t.scan.command, key :: token :: clauses⟩
    let window := positions offset (offset + count) es
    es.Pairwise (fun a b => a.1 < b.1) ∧ ∃ next : Bytes,
      s.apply c = (.array [.value next, .array (window.flatMap fun e => t.tokens e.2)], s) ∧
      scanPage t.scan (s.apply c).1 = .ok ⟨.ofToken next, window.map (·.2)⟩ ∧
      (next = Cursor.startToken ↔ es.length ≤ offset + count) ∧
      (offset + count < es.length →
        next = Integral.token (offset + count : Nat) ∧ Cursor.Spells next (offset + count)) ∧
      next = Integral.token ((⟨offset, count, none⟩ : ScanWindow).next es.length) := by
  intro c window
  let w : ScanWindow := ⟨offset, count, none⟩
  have hread : ({ offset } : ScanWindow).readOptions clauses = .ok w := hcount.readOptions offset
  have hwindow : w.page es = window := ScanWindow.page_eq_positions offset count es
  have happly : s.apply c = (.array [.value (Integral.token (w.next es.length)),
      .array (window.flatMap fun e => t.tokens e.2)], s) := by
    rw [apply_of_ofCommand (Request.ofCommand_scan t ho hread), answer_window hl, hwindow]
    rfl
  obtain ⟨-, hpage⟩ := apply_scan hs hl ho hread
  obtain ⟨hend, hgoes⟩ := w.next_spec (hcount.count_pos (by decide)) hsize
  refine ⟨pairwise_listing hl, Integral.token (w.next es.length), happly, ?_, hend, hgoes, rfl⟩
  rw [hpage, hwindow]

attribute [local instance] Glob.engine

/-- A step far behind the last of three members, and a step that ends in front of it. -/
theorem apply_scan_positions_far :
    let s := Store.empty.run
      [.apply ⟨.zadd, ["z", "-inf", "a", "inf", "b", "inf", "c"].map Bytes.ofString⟩]
    let step (cursor count : String) : Command :=
      ⟨.zscan, ["z", cursor, "count", count].map Bytes.ofString⟩
    s.apply (step "18446744073709551615" "9223372036854775807") =
        (.array [.value Cursor.startToken, .array []], s) ∧
      s.apply (step "+01" "1") = (.array [.value (Bytes.ofString "2"),
        .array [.value (Bytes.ofString "b"), .value (Bytes.ofString "+inf")]], s) := by
  intro s step
  have hs : s.WellFormed := Reachable.wellFormed ⟨_, rfl⟩
  have hl : s.listing (Bytes.ofString "z") .sortedSet = .ok
      [(Bytes.ofString "a", ⟨.inf true, Bytes.ofString "a"⟩),
        (Bytes.ofString "b", ⟨.inf false, Bytes.ofString "b"⟩),
        (Bytes.ofString "c", ⟨.inf false, Bytes.ofString "c"⟩)] := rfl
  have hfar : Cursor.Spells (Bytes.ofString "18446744073709551615") 0xFFFFFFFFFFFFFFFF := by
    unfold Cursor.Spells
    decide +kernel
  have hnear : Cursor.Spells (Bytes.ofString "+01") 1 := rfl
  have hmany : ScanWindow.Hints 10 (["count", "9223372036854775807"].map Bytes.ofString)
      0x7FFFFFFFFFFFFFFF := .named (by decide) (by decide +kernel) (by decide) (.done _)
  have hone : ScanWindow.Hints 10 (["count", "1"].map Bytes.ofString) 1 :=
    .named (by decide) (by decide) (by decide) (.done _)
  obtain ⟨-, next, happly, -, hend, -, -⟩ := apply_scan_positions hs hl (by decide) hfar hmany
  obtain ⟨-, next', happly', -, -, hgoes, -⟩ := apply_scan_positions hs hl (by decide) hnear hone
  rw [hend.2 (by decide)] at happly
  rw [(hgoes (by decide)).1] at happly'
  exact ⟨happly, happly'⟩

end Store

end KeyWalk
