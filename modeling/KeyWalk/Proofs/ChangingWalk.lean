import Mathlib.Data.List.Perm.Subperm
import KeyWalk.Glob
import KeyWalk.Proofs.ScanStep

/-!
Walks over a collection that others change meanwhile.

A `Turn` is one step of a walk and whatever happens to the store behind it.  The cursor is an
offset, so what a walk reports depends on the places of the names: `Bytes.place x l` is the number
of names of `l` before `x`, and a window at offset `o` holds exactly the names with a place from
`o` on.  Places only rise while names are added, so no name falls back behind the offset; they
only fall while names are removed, so no name that was reported comes before the offset again.

* `amid_sweep`: the steps of a walk are windows over the names of the stores that it meets,
* `Sweep.mem_page_of_grows`: no name is missed while the names only grow,
* `Sweep.nodup_of_shrinks`, `Sweep.length_le`: none is repeated while they only shrink, and the end
  comes in time.
-/

namespace KeyWalk

/-! ### Places in a sorted list -/

namespace Bytes

variable {x a : Bytes} {l l' : List Bytes}

/-- The number of names in the list that are before `x`. -/
def place (x : Bytes) (l : List Bytes) : Nat := l.countP fun y => y < x

theorem nodup_of_pairwise (h : l.Pairwise (· < ·)) : l.Nodup := by
  refine h.imp fun {a b} hab => ?_
  rintro rfl
  exact List.lt_irrefl a hab

theorem place_cons_self (hl : (a :: l).Pairwise (· < ·)) : place a (a :: l) = 0 := by
  rw [place, List.countP_eq_zero]
  intro b hb
  rcases List.mem_cons.1 hb with rfl | hb
  · simp
  · simpa using List.lt_asymm (List.rel_of_pairwise_cons hl hb)

theorem place_cons_of_mem (hl : (a :: l).Pairwise (· < ·)) (hx : x ∈ l) :
    place x (a :: l) = place x l + 1 := by
  rw [place, List.countP_cons_of_pos (by simpa using List.rel_of_pairwise_cons hl hx)]
  rfl

/-- Of a sorted list the first `count` names are those with a place below `count`. -/
theorem mem_take_iff (hl : l.Pairwise (· < ·)) {count : Nat} :
    x ∈ l.take count ↔ x ∈ l ∧ place x l < count := by
  induction l generalizing count with
  | nil => simp
  | cons a r ih =>
    cases count with
    | zero => simp
    | succ count =>
      rw [List.take_succ_cons, List.mem_cons, List.mem_cons, ih (List.Pairwise.of_cons hl)]
      constructor
      · rintro (rfl | ⟨hmem, hlt⟩)
        · exact ⟨.inl rfl, by rw [place_cons_self hl]; omega⟩
        · exact ⟨.inr hmem, by rw [place_cons_of_mem hl hmem]; omega⟩
      · rintro ⟨rfl | hmem, hlt⟩
        · exact .inl rfl
        · rw [place_cons_of_mem hl hmem] at hlt
          exact .inr ⟨hmem, by omega⟩

/-- Of a sorted list the window from `o` on holds the names with a place from `o` on. -/
theorem mem_window_iff (hl : l.Pairwise (· < ·)) {o count : Nat} :
    x ∈ (l.drop o).take count ↔ x ∈ l ∧ o ≤ place x l ∧ place x l < o + count := by
  induction o generalizing l with
  | zero =>
    rw [List.drop_zero, mem_take_iff hl, Nat.zero_add]
    simp
  | succ o ih =>
    cases l with
    | nil => simp
    | cons a r =>
      rw [List.drop_succ_cons, ih (List.Pairwise.of_cons hl), List.mem_cons]
      constructor
      · rintro ⟨hmem, hle, hlt⟩
        rw [place_cons_of_mem hl hmem]
        exact ⟨.inr hmem, by omega, by omega⟩
      · rintro ⟨rfl | hmem, hle, hlt⟩
        · rw [place_cons_self hl] at hle
          omega
        · rw [place_cons_of_mem hl hmem] at hle hlt
          exact ⟨hmem, by omega, by omega⟩

theorem place_lt_length (hx : x ∈ l) : place x l < l.length := by
  refine Nat.lt_of_le_of_ne List.countP_le_length fun h => ?_
  exact absurd (List.countP_eq_length.1 h x hx) (by simp)

/-- More names, higher places. -/
theorem place_mono (hl : l.Pairwise (· < ·)) (h : l ⊆ l') : place x l ≤ place x l' :=
  (List.subperm_of_subset (nodup_of_pairwise hl) h).countP_le _

theorem length_le_of_subset (hl : l.Pairwise (· < ·)) (h : l ⊆ l') : l.length ≤ l'.length :=
  (List.subperm_of_subset (nodup_of_pairwise hl) h).length_le

end Bytes

/-! ### The names under a key -/

/-- The name of an element. -/
def CollectionType.name : (t : CollectionType) → t.Element → Bytes
  | hash => KeyValue.key
  | sortedSet => ScoredValue.value

/-- The fields or members under a key, ascending. -/
def Store.names (s : Store) (key : Bytes) : List Bytes :=
  match s.get? key with
  | none => []
  | some (.hash h) => h.keys
  | some (.sortedSet z) => z.scores.keys

namespace Store

variable {s : Store} {key : Bytes} {t : CollectionType} {es : List (Bytes × t.Element)}

theorem pairwise_names (s : Store) (key : Bytes) : (s.names key).Pairwise (· < ·) := by
  rw [names]
  split
  · exact .nil
  · rename_i h _
    exact List.pairwise_map.2 h.ascending
  · rename_i z _
    exact List.pairwise_map.2 z.scores.ascending

/-- The names of the elements, in the order of the listing. -/
theorem map_name_listing (hl : s.listing key t = .ok es) :
    es.map (fun e => t.name e.2) = s.names key := by
  cases t with
  | hash =>
    obtain ⟨h, hread, rfl⟩ := listing_hash_eq_ok_iff.1 hl
    rw [List.map_map]
    rcases read_eq_ok_iff.1 hread with ⟨hget, rfl⟩ | hget
    · simp only [names, hget]
      rfl
    · simp only [names, hget]
      rfl
  | sortedSet =>
    obtain ⟨z, hread, rfl⟩ := listing_sortedSet_eq_ok_iff.1 hl
    rw [List.map_map]
    rcases read_eq_ok_iff.1 hread with ⟨hget, rfl⟩ | hget
    · simp only [names, hget]
      rfl
    · simp only [names, hget]
      rfl

end Store

theorem ScanWindow.page_without_pattern {β : Type} (o count : Nat) (l : List (Bytes × β)) :
    (⟨o, count, none⟩ : ScanWindow).page l = (l.drop o).take count :=
  List.filter_eq_self.2 fun _ _ => rfl

/-! ### Steps among changes -/

/-- The arguments of one step of a walk, and what happens to the store behind it. -/
structure Turn where
  args : Option ScanArgs
  others : List Store.Event

/-- What one step of a walk met and took. -/
structure Round (ε : Type) where
  store : Store
  page : List ε

/-- The stores that steps meet, if one is made at each turn. -/
def Store.seen [GlobEngine] (s : Store) : List Turn → List Store
  | [] => []
  | turn :: rest => s :: (s.run turn.others).seen rest

/-- The rounds of a walk, one step at each turn until it is over, and the walk behind them. -/
def Walk.amid [GlobEngine] {ε : Type} (w : Walk ε) (s : Store) :
    List Turn → Outcome (List (Round ε) × Walk ε)
  | [] => .ok ([], w)
  | turn :: rest =>
    match { w with args := turn.args }.nextCommand? with
    | .error f => .error f
    | .ok none => .ok ([], w)
    | .ok (some c) =>
      match { w with args := turn.args }.advance (s.apply c).1 with
      | (.error f, _) => .error f
      | (.ok page, w₁) => do
        let (rounds, w₂) ← w₁.amid ((s.apply c).2.run turn.others) rest
        return (⟨s, page⟩ :: rounds, w₂)

/-- The rounds from offset `o` on are windows over the names under the key, each behind the one
before; `allowed` are the sizes of the windows, and the last argument says that the end was
reached. -/
inductive Sweep (t : CollectionType) (key : Bytes) (allowed : Nat → Prop) :
    Nat → List (Round t.Element) → Bool → Prop
  | paused {o} : Sweep t key allowed o [] false
  | last {o count r} (size : allowed count)
    (page : r.page.map t.name = ((r.store.names key).drop o).take count)
    (finish : (r.store.names key).length ≤ o + count) : Sweep t key allowed o [r] true
  | more {o count r rest done} (size : allowed count)
    (page : r.page.map t.name = ((r.store.names key).drop o).take count)
    (unfinished : o + count < (r.store.names key).length)
    (behind : Sweep t key allowed (o + count) rest done) : Sweep t key allowed o (r :: rest) done

variable {t : CollectionType} {key : Bytes} {allowed : Nat → Prop} {s : Store} {o : Nat}

theorem Walk.amid_of_isDone [GlobEngine] {ε : Type} {w : Walk ε} (h : w.isDone = true) (s : Store)
    (turns : List Turn) : w.amid s turns = .ok ([], w) := by
  cases turns with
  | nil => rfl
  | cons turn rest =>
    have hnext : { w with args := turn.args }.nextCommand? = .ok none := nextCommand?_of_isDone h
    simp only [amid, hnext]

/-- One step takes the window of the names at its offset, and is sent on by its size or to the
end. -/
theorem Walk.StandsAt.window [GlobEngine] {w : Walk t.Element} {es : List (Bytes × t.Element)}
    {count : Nat} (hw : w.StandsAt t.scan key o) (hargs : ScanArgs.Accepted w.args count none)
    (hs : s.WellFormed) (hl : s.listing key t = .ok es)
    (hsize : es.length < Integral.unsignedBound) (ho : o < Integral.unsignedBound) :
    ∃ c page, w.nextCommand? = .ok (some c) ∧ (s.apply c).2 = s ∧
      w.advance (s.apply c).1 = (.ok page, w.record (.ofToken (Integral.token
        ((if (s.names key).length ≤ o + count then 0 else o + count : Nat) : Int)))) ∧
      page.map t.name = ((s.names key).drop o).take count := by
  obtain ⟨c, hc, hstore, hadvance⟩ := hw.step hargs hs hl ho
  have hlength : es.length = (s.names key).length := by
    rw [← Store.map_name_listing hl, List.length_map]
  have hpage : (((⟨o, count, none⟩ : ScanWindow).page es).map (·.2)).map t.name =
      ((s.names key).drop o).take count := by
    rw [← Store.map_name_listing hl, ← List.map_drop, ← List.map_take, List.map_map,
      ScanWindow.page_without_pattern]
    rfl
  rw [ScanWindow.next_eq _ hsize, hlength] at hadvance
  exact ⟨c, _, hc, hstore, hadvance, hpage⟩

/-- **The steps of a walk are windows** over the names of the stores that it meets.  A walk that is
not over has made a step at every turn, the first one at the store where it started. -/
theorem amid_sweep [GlobEngine] (allowed : Nat → Prop) (hs : s.Reachable) {w : Walk t.Element}
    (hw : w.StandsAt t.scan key o) (ho : o < Integral.unsignedBound) {turns : List Turn}
    (hargs : ∀ turn ∈ turns, ∃ count, allowed count ∧ ScanArgs.Accepted turn.args count none)
    (hkey : ∀ s' ∈ s.seen turns, ∃ es, s'.listing key t = .ok es ∧
      es.length < Integral.unsignedBound) :
    ∃ rounds w', w.amid s turns = .ok (rounds, w') ∧
      Sweep t key allowed o rounds w'.isDone ∧
      (w'.isDone = false → rounds.length = turns.length) ∧ ∀ r ∈ rounds.head?, r.store = s := by
  induction turns generalizing s w o with
  | nil =>
    have hdone : w.isDone = false := by
      rcases hw.state with ⟨h, -⟩ | h <;> rw [Walk.isDone, h] <;> rfl
    exact ⟨[], w, rfl, hdone ▸ .paused, fun _ => rfl, by simp⟩
  | cons turn rest ih =>
    obtain ⟨count, hallowed, hcount⟩ := hargs turn List.mem_cons_self
    obtain ⟨es, hl, hsize⟩ := hkey s List.mem_cons_self
    have hw' := hw.withArgs turn.args
    obtain ⟨c, page, hc, hstore, hadvance, hpage⟩ := hw'.window hcount hs.wellFormed hl hsize ho
    by_cases hend : (s.names key).length ≤ o + count
    · -- the walk is over, and no later turn makes a step
      rw [if_pos hend] at hadvance
      have hover := Walk.isDone_record_zero { w with args := turn.args }
      refine ⟨[⟨s, page⟩],
        { w with args := turn.args }.record (.ofToken (Integral.token (0 : Nat))), ?_, ?_,
        fun h => ?_, by simp⟩
      · simp only [Walk.amid, hc, hadvance, Walk.amid_of_isDone hover]
        rfl
      · rw [hover]
        exact .last hallowed hpage hend
      · exact absurd (hover.symm.trans h) (by decide)
    · rw [if_neg hend] at hadvance
      have hpos : 0 < count := hcount.count_pos
      have hlength : (s.names key).length = es.length := by
        rw [← Store.map_name_listing hl, List.length_map]
      obtain ⟨rounds, w', hrounds, hsweep, hlast, -⟩ := ih (Store.reachable_run hs turn.others)
        (hw'.record (n := o + count) (by omega)) (by omega)
        (fun turn' h => hargs turn' (List.mem_cons_of_mem _ h))
        (fun s' h => hkey s' (List.mem_cons_of_mem _ h))
      refine ⟨⟨s, page⟩ :: rounds, w', ?_, .more hallowed hpage (Nat.lt_of_not_le hend) hsweep,
        fun h => by rw [List.length_cons, List.length_cons, hlast h], by simp⟩
      simp only [Walk.amid, hc, hadvance, hstore, hrounds]
      rfl

/-! ### What windows cover -/

/-- Between the steps no name goes from the key. -/
def Grows (key : Bytes) (rounds : List (Round t.Element)) : Prop :=
  rounds.Pairwise fun r r' => r.store.names key ⊆ r'.store.names key

/-- Between the steps no name comes to the key. -/
def Shrinks (key : Bytes) (rounds : List (Round t.Element)) : Prop :=
  rounds.Pairwise fun r r' => r'.store.names key ⊆ r.store.names key

namespace Sweep

variable {rounds : List (Round t.Element)} {done : Bool} {x : Bytes}

/-- While the names only grow, a name that is not behind the offset is reported before the end. -/
theorem mem_page_of_grows (h : Sweep t key allowed o rounds true) (hgrows : Grows key rounds)
    (hx : ∀ r ∈ rounds, x ∈ r.store.names key ∧ o ≤ Bytes.place x (r.store.names key)) :
    ∃ r ∈ rounds, x ∈ r.page.map t.name := by
  generalize hdone : true = done at h
  induction h with
  | paused => exact absurd hdone (by decide)
  | @last o count r _ hpage hfinish =>
    obtain ⟨hmem, hplace⟩ := hx r List.mem_cons_self
    have hlt := Bytes.place_lt_length hmem
    refine ⟨r, List.mem_cons_self, ?_⟩
    rw [hpage, Bytes.mem_window_iff (r.store.pairwise_names key)]
    exact ⟨hmem, hplace, by omega⟩
  | @more o count r rest done _ hpage _ _ ih =>
    obtain ⟨hnext, hrest⟩ := List.pairwise_cons.1 hgrows
    obtain ⟨hmem, hplace⟩ := hx r List.mem_cons_self
    by_cases hin : Bytes.place x (r.store.names key) < o + count
    · refine ⟨r, List.mem_cons_self, ?_⟩
      rw [hpage, Bytes.mem_window_iff (r.store.pairwise_names key)]
      exact ⟨hmem, hplace, hin⟩
    · -- more names only raise its place, so the next window does not pass it either
      have hx' : ∀ r' ∈ rest, x ∈ r'.store.names key ∧
          o + count ≤ Bytes.place x (r'.store.names key) := by
        intro r' hr'
        have := Bytes.place_mono (x := x) (r.store.pairwise_names key) (hnext r' hr')
        exact ⟨hnext r' hr' hmem, by omega⟩
      obtain ⟨r', hr', hpage'⟩ := ih hrest hx' hdone
      exact ⟨r', List.mem_cons_of_mem _ hr', hpage'⟩

/-- A name that is behind the offset wherever it is met is not reported. -/
theorem not_mem_page (h : Sweep t key allowed o rounds done)
    (hx : ∀ r ∈ rounds, x ∈ r.store.names key → Bytes.place x (r.store.names key) < o) :
    ∀ r ∈ rounds, x ∉ r.page.map t.name := by
  induction h with
  | paused => simp
  | @last o count r _ hpage _ =>
    intro r' hr' hmem
    obtain rfl := List.mem_singleton.1 hr'
    rw [hpage, Bytes.mem_window_iff (r'.store.pairwise_names key)] at hmem
    have := hx r' List.mem_cons_self hmem.1
    omega
  | @more o count r rest _ _ hpage _ _ ih =>
    intro r' hr' hmem
    rcases List.mem_cons.1 hr' with rfl | hr'
    · rw [hpage, Bytes.mem_window_iff (r'.store.pairwise_names key)] at hmem
      have := hx r' List.mem_cons_self hmem.1
      omega
    · refine ih (fun r'' hr'' hmem' => ?_) r' hr' hmem
      have := hx r'' (List.mem_cons_of_mem _ hr'') hmem'
      omega

theorem nodup_page {r : Round t.Element} {count : Nat}
    (hpage : r.page.map t.name = ((r.store.names key).drop o).take count) :
    (r.page.map t.name).Nodup := by
  have hnames : (r.store.names key).Nodup := Bytes.nodup_of_pairwise (r.store.pairwise_names key)
  rw [hpage]
  exact hnames.sublist ((List.take_sublist _ _).trans (List.drop_sublist _ _))

/-- While the names only shrink, none is reported twice. -/
theorem nodup_of_shrinks (h : Sweep t key allowed o rounds done) (hshrinks : Shrinks key rounds) :
    (rounds.flatMap fun r => r.page.map t.name).Nodup := by
  induction h with
  | paused => exact .nil
  | last _ hpage _ => simpa using nodup_page hpage
  | @more o count r rest _ _ hpage _ hbehind ih =>
    obtain ⟨hnext, hrest⟩ := List.pairwise_cons.1 hshrinks
    rw [List.flatMap_cons, List.nodup_append]
    refine ⟨nodup_page hpage, ih hrest, fun x hx y hy => ?_⟩
    rintro rfl
    rw [hpage, Bytes.mem_window_iff (r.store.pairwise_names key)] at hx
    obtain ⟨r', hr', hy⟩ := List.mem_flatMap.1 hy
    -- fewer names only lower its place, so it stays behind the next window
    refine hbehind.not_mem_page (fun r'' hr'' _ => ?_) r' hr' hy
    have := Bytes.place_mono (x := x) (r''.store.pairwise_names key) (hnext r'' hr'')
    omega

/-- As long as there are at most `n` names, windows of one size reach the end in time. -/
theorem length_le {n count : Nat} (hpos : 0 < count) (h : Sweep t key (· = count) o rounds done)
    (hn : ∀ r ∈ rounds, (r.store.names key).length ≤ n) :
    rounds.length + (if done then 0 else 1) ≤ stepsFor (n - o) count := by
  induction h with
  | paused => exact Nat.le_max_left 1 _
  | last => exact Nat.le_max_left 1 _
  | @more o c r rest done hc _ hmore _ ih =>
    obtain rfl : c = count := hc
    have hlength := hn r List.mem_cons_self
    have hrest := ih fun r' hr' => hn r' (List.mem_cons_of_mem _ hr')
    rw [stepsFor_of_lt hpos (by omega), Nat.sub_sub, List.length_cons]
    omega

end Sweep

/-! ### A whole walk -/

/-- While the names only shrink, no step meets more of them than the first one. -/
theorem Shrinks.length_names_le {rounds : List (Round t.Element)} (h : Shrinks key rounds)
    (hfirst : ∀ r ∈ rounds.head?, r.store = s) :
    ∀ r ∈ rounds, (r.store.names key).length ≤ (s.names key).length := by
  cases rounds with
  | nil => simp
  | cons r₀ rest =>
    have hstore : r₀.store = s := hfirst r₀ rfl
    intro r hr
    rcases List.mem_cons.1 hr with rfl | hr
    · exact hstore ▸ Nat.le_refl _
    · rw [← hstore]
      exact Bytes.length_le_of_subset (r.store.pairwise_names key)
        ((List.pairwise_cons.1 h).1 r hr)

/-- While the names only grow, every step meets all that the first one met. -/
theorem Grows.names_subset {rounds : List (Round t.Element)} (h : Grows key rounds)
    (hfirst : ∀ r ∈ rounds.head?, r.store = s) : ∀ r ∈ rounds, s.names key ⊆ r.store.names key := by
  cases rounds with
  | nil => simp
  | cons r₀ rest =>
    have hstore : r₀.store = s := hfirst r₀ rfl
    intro r hr
    rcases List.mem_cons.1 hr with rfl | hr
    · rw [hstore]
      exact List.Subset.refl _
    · rw [← hstore]
      exact (List.pairwise_cons.1 h).1 r hr

/-- **A walk among changes.**  From its start, with any count hint at each step and no pattern, the
walk goes on without failing as long as the key keeps its type or is absent.

* While the names under the key only grow, a walk that is over has reported every name that was
  there at its start.
* While they only shrink, no name is reported twice, and with one count hint for all steps the
  walk is over after one step for every `count` names that were there at its start, or one step.

The entries of one key are counted by a machine word. -/
theorem Walk.amid_start [GlobEngine] (hs : s.Reachable) (t : CollectionType) (key : Bytes)
    {turns : List Turn} (hargs : ∀ turn ∈ turns, ∃ count, ScanArgs.Accepted turn.args count none)
    (hkey : ∀ s' ∈ s.seen turns, ∃ es, s'.listing key t = .ok es ∧
      es.length < Integral.unsignedBound) :
    ∃ rounds w, (Walk.start t.scan key none).amid s turns = .ok (rounds, w) ∧
      (Grows key rounds → w.isDone = true →
        ∀ x ∈ s.names key, ∃ r ∈ rounds, x ∈ r.page.map t.name) ∧
      (Shrinks key rounds → (rounds.flatMap fun r => r.page.map t.name).Nodup ∧
        ∀ count, 0 < count → (∀ turn ∈ turns, ScanArgs.Accepted turn.args count none) →
          rounds.length ≤ max 1 (((s.names key).length + count - 1) / count) ∧
            (max 1 (((s.names key).length + count - 1) / count) ≤ turns.length →
              w.isDone = true)) := by
  have hstart : (Walk.start t.scan key none).StandsAt t.scan key 0 := standsAt_start _ _ _
  obtain ⟨rounds, w, hrun, hsweep, hlast, hfirst⟩ := amid_sweep (fun _ => True) hs hstart
    (by decide) (fun turn h => (hargs turn h).imp fun _ hc => ⟨trivial, hc⟩) hkey
  refine ⟨rounds, w, hrun, fun hgrows hdone x hx => ?_, fun hshrinks => ⟨hsweep.nodup_of_shrinks
    hshrinks, fun count hpos hcount => ?_⟩⟩
  · rw [hdone] at hsweep
    exact hsweep.mem_page_of_grows hgrows fun r hr =>
      ⟨hgrows.names_subset hfirst r hr hx, Nat.zero_le _⟩
  · -- the same run, seen as windows of one size
    obtain ⟨rounds', w', hrun', hsweep', -, -⟩ := amid_sweep (· = count) hs hstart
      (by decide) (fun turn h => ⟨count, rfl, hcount turn h⟩) hkey
    obtain ⟨rfl, rfl⟩ := Prod.mk.inj (Except.ok.inj (hrun.symm.trans hrun'))
    have hlength : rounds.length + (if w.isDone then 0 else 1) ≤
        max 1 (((s.names key).length + count - 1) / count) :=
      hsweep'.length_le hpos (hshrinks.length_names_le hfirst)
    refine ⟨by omega, fun henough => ?_⟩
    cases hdone : w.isDone with
    | true => rfl
    | false =>
      have hall := hlast hdone
      rw [hdone, if_neg Bool.false_ne_true] at hlength
      omega

attribute [local instance] Glob.engine

/-- A field is added behind each of the first two steps, once before the offset and once behind. -/
theorem amid_start_two_fields :
    let key := Bytes.ofString "h"
    let s := Store.empty.run [.apply ⟨.hmset, ["h", "b", "1", "d", "2"].map Bytes.ofString⟩]
    let one : Option ScanArgs := some { count := some 1 }
    let turns : List Turn := [⟨one, [.apply ⟨.hset, ["h", "a", "3"].map Bytes.ofString⟩]⟩,
      ⟨one, [.apply ⟨.hset, ["h", "c", "4"].map Bytes.ofString⟩]⟩, ⟨one, []⟩, ⟨one, []⟩]
    ∃ rounds w, (Walk.start CollectionType.hash.scan key none).amid s turns = .ok (rounds, w) ∧
      Grows key rounds ∧ w.isDone = true ∧
        ∀ x ∈ s.names key, ∃ r ∈ rounds, x ∈ r.page.map CollectionType.hash.name := by
  intro key s one turns
  have hmet : ((Walk.start CollectionType.hash.scan key none).amid s turns).toOption.map
      (fun p => (p.1.map fun r => r.store.names key, p.2.isDone)) =
        some ([["b", "d"], ["a", "b", "d"], ["a", "b", "c", "d"], ["a", "b", "c", "d"]].map
          (·.map Bytes.ofString), true) := by decide +kernel +revert
  have hone : ScanArgs.Accepted one 1 none := ⟨rfl, by decide, by decide, rfl⟩
  have hargs : ∀ turn ∈ turns, ∃ count, ScanArgs.Accepted turn.args count none := by
    intro turn h
    have : turn.args = one := by
      simp only [turns, List.mem_cons, List.not_mem_nil, or_false] at h
      rcases h with rfl | rfl | rfl | rfl <;> rfl
    exact ⟨1, this ▸ hone⟩
  have hkey : ∀ s' ∈ s.seen turns, ∃ es, s'.listing key .hash = .ok es ∧
      es.length < Integral.unsignedBound := by
    intro s' h
    simp only [turns, Store.seen, List.mem_cons, List.not_mem_nil, or_false] at h
    rcases h with rfl | rfl | rfl | rfl <;> exact ⟨_, rfl, by decide⟩
  obtain ⟨rounds, w, hrun, hgrow, -⟩ := Walk.amid_start (s := s) ⟨_, rfl⟩ .hash key hargs hkey
  rw [hrun] at hmet
  obtain ⟨hnames, hdone⟩ := Prod.mk.inj (Option.some.inj hmet)
  have hgrows : Grows key rounds := by
    refine List.pairwise_map.1 (?_ : (rounds.map fun r => r.store.names key).Pairwise (· ⊆ ·))
    rw [hnames]
    decide
  exact ⟨rounds, w, hrun, hgrows, hdone, hgrow hgrows hdone⟩

end KeyWalk
