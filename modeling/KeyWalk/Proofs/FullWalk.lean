import KeyWalk.Client
import KeyWalk.Glob
import KeyWalk.Proofs.ScanStep

/-!
A full walk over a store that does not change.

The walk of a client goes through the entries window by window.  Whatever the windows filter out,
the offset moves on by the whole window, so the elements of all pages are the admitted entries in
order, and the number of steps depends on the number of entries alone.

* `ScanWindow.admitted_drop`: a window and what is behind it are all that is left,
* `Client.gather_standsAt`: so the rest of a walk takes all that is left, from any offset.
-/

namespace KeyWalk

namespace ScanWindow

variable {β : Type} {o count : Nat} {glob : Option Matcher}

/-- What a walk with a pattern keeps. -/
def admitted (glob : Option Matcher) (l : List (Bytes × β)) : List (Bytes × β) :=
  l.filter fun e => glob.all fun g => g (Utf8.lossy e.1)

theorem page_eq_admitted (l : List (Bytes × β)) :
    (⟨o, count, glob⟩ : ScanWindow).page l = admitted glob ((l.drop o).take count) := by
  cases glob <;> rfl

/-- A window, and all that is behind it. -/
theorem admitted_drop (o count : Nat) (glob : Option Matcher) (l : List (Bytes × β)) :
    admitted glob (l.drop o) =
      (⟨o, count, glob⟩ : ScanWindow).page l ++ admitted glob (l.drop (o + count)) := by
  rw [page_eq_admitted, admitted, admitted, admitted, ← List.filter_append, ← List.drop_drop,
    List.take_append_drop]

end ScanWindow

namespace Client

open ScanWindow

section Engine

variable [GlobEngine] {s : Store} {key : Bytes} {t : CollectionType}
  {es : List (Bytes × t.Element)} {count : Nat} {glob : Option Matcher} {options : ClientOptions}

/-- One step of a walk that is not over, with a client that records what it sends. -/
theorem gather_step {w : Walk t.Element} {c : Command} {page : List t.Element}
    {w' : Walk t.Element} (hc : w.nextCommand? = .ok (some c)) (hs : (s.apply c).2 = s)
    (hpage : w.advance (s.apply c).1 = (.ok page, w')) (limit : Nat) (taken : List t.Element)
    (log : List Command) :
    (blocking Transport.store.recording options).gather (limit + 1) w taken (s, log) =
      (blocking Transport.store.recording options).gather limit w' (taken ++ page)
        (s, log ++ [c]) := by
  have hsend : (blocking Transport.store.recording options).sendStep c (s, log) =
      (.ok (s.apply c).1, s, log ++ [c]) := by
    show (Except.ok (s.apply c).1, (s.apply c).2, log ++ [c]) = _
    rw [hs]
  rw [gather]
  simp only [hc, hsend, hpage]

/-- **The rest of a walk** from any offset: it takes what is admitted from there on, in the number
of steps that the entries from there on need. -/
theorem gather_standsAt (hs : s.WellFormed) (hl : s.listing key t = .ok es)
    (hsize : es.length < Integral.unsignedBound) {w : Walk t.Element} {o : Nat}
    (hw : w.StandsAt t.scan key o) (hargs : ScanArgs.Accepted w.args count glob)
    (ho : o < Integral.unsignedBound) {limit : Nat}
    (hlimit : stepsFor (es.length - o) count ≤ limit) (taken : List t.Element)
    (log : List Command) :
    ∃ sent, sent.length = stepsFor (es.length - o) count ∧
      (blocking Transport.store.recording options).gather limit w taken (s, log) =
        (some (.ok (taken ++ (admitted glob (es.drop o)).map (·.2))), s, log ++ sent) := by
  have hpos : 0 < count := hargs.count_pos
  induction limit generalizing w o taken log with
  | zero =>
    rw [stepsFor] at hlimit
    omega
  | succ limit ih =>
    obtain ⟨c, hc, hstore, hadvance⟩ := hw.step hargs hs hl ho
    rw [gather_step hc hstore hadvance, admitted_drop o count, List.map_append,
      ← List.append_assoc]
    by_cases hend : es.length ≤ o + count
    · -- the last window: the store hands back the token `0`
      have hnext : (⟨o, count, glob⟩ : ScanWindow).next es.length = 0 := by
        rw [next_eq _ hsize, if_pos hend]
      refine ⟨[c], (stepsFor_of_le (by omega)).symm, ?_⟩
      rw [hnext, gather, Walk.nextCommand?_of_isDone (w.isDone_record_zero),
        List.drop_eq_nil_of_le hend]
      simp [admitted]
    · -- the walk stands one window further on, which is one step less to make
      have hnext : (⟨o, count, glob⟩ : ScanWindow).next es.length = o + count := by
        rw [next_eq _ hsize, if_neg hend]
      have hsteps : stepsFor (es.length - o) count =
          stepsFor (es.length - (o + count)) count + 1 := by
        rw [stepsFor_of_lt hpos (by omega), Nat.sub_sub]
      obtain ⟨sent, hsent, hrest⟩ := ih (hw.record (n := o + count) (by omega)) hargs
        (by omega) (by omega) (taken ++ ((⟨o, count, glob⟩ : ScanWindow).page es).map (·.2))
        (log ++ [c])
      refine ⟨c :: sent, by rw [List.length_cons, hsent, hsteps], ?_⟩
      rw [hnext, hrest, List.append_assoc log [c] sent]
      rfl

/-- **A full walk over a store that does not change** ends well after one step for every `count`
entries and at least one.  It gives exactly the entries under the key whose names the pattern
admits, in ascending order of names, each once and with what is stored for it.

The entries of one key are counted by a machine word. -/
theorem scanAll_of_reachable (hs : s.Reachable) (hl : s.listing key t = .ok es)
    (hsize : es.length < Integral.unsignedBound) {args : Option ScanArgs}
    (hargs : ScanArgs.Accepted (options.scanArgs args) count glob) {limit : Nat}
    (hlimit : stepsFor es.length count ≤ limit) (log : List Command) :
    es.Pairwise (fun a b => a.1 < b.1) ∧
      ∃ sent, sent.length = max 1 ((es.length + count - 1) / count) ∧
        (blocking Transport.store.recording options).scanAll limit t.scan key args (s, log) =
          (some (.ok ((es.filter fun e =>
              glob.all fun g => g (Utf8.lossy e.1)).map (·.2))),
            s, log ++ sent) :=
  ⟨Store.pairwise_listing hl,
    gather_standsAt hs.wellFormed hl hsize (Walk.standsAt_start t.scan key _) hargs (by decide)
      hlimit [] log⟩

end Engine

attribute [local instance] Glob.engine

/-- Two steps through three members, of which the pattern admits the first and the last. -/
theorem scanAll_three_members :
    let s := Store.empty.run
      [.apply ⟨.zadd, ["z", "-inf", "a", "inf", "b", "inf", "c"].map Bytes.ofString⟩]
    let args : ScanArgs := { pattern := some (Bytes.ofString "[ac]"), count := some 2 }
    ∃ sent, sent.length = 2 ∧
      (blocking Transport.store.recording {}).scanAll 2 CollectionType.sortedSet.scan
          (Bytes.ofString "z") (some args) (s, []) =
        (some (.ok [⟨.inf true, Bytes.ofString "a"⟩, ⟨.inf false, Bytes.ofString "c"⟩]), s,
          sent) := by
  intro s args
  have hl : s.listing (Bytes.ofString "z") .sortedSet = .ok
      [(Bytes.ofString "a", ⟨.inf true, Bytes.ofString "a"⟩),
        (Bytes.ofString "b", ⟨.inf false, Bytes.ofString "b"⟩),
        (Bytes.ofString "c", ⟨.inf false, Bytes.ofString "c"⟩)] := rfl
  have hargs : ScanArgs.Accepted (({} : ClientOptions).scanArgs (some args)) 2
      (some fun name => Glob.admits ⟨[.oneOf false [('a', 'a'), ('c', 'c')]]⟩ (Utf8.encode name)) :=
    ⟨rfl, by decide, by decide, rfl⟩
  exact (scanAll_of_reachable ⟨_, rfl⟩ hl (by decide) hargs (by decide) []).2

end Client

end KeyWalk
