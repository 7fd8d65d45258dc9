import KeyWalk.Aggregate
import KeyWalk.Proofs.ByteMap

/-!
Combined scores are numbers.

A contribution is never `nan`, whatever the weight and the score are, and combining two numbers
gives a number.  So what is gathered holds no `nan` after any number of contributions
(`Numeric.gather`, `Numeric.gatherSource`), and neither does a combination (`isNaN_aggregate`).
-/

namespace KeyWalk

theorem Binary64.isNaN_nanToZero (a : Binary64) : a.nanToZero.isNaN = false := by
  rw [nanToZero]
  split
  · rfl
  · rename_i h
    simpa using h

theorem isNaN_contribution (weight score : Score) : (contribution weight score).isNaN = false :=
  Binary64.isNaN_nanToZero _

theorem Aggregate.isNaN_combine (op : Aggregate) {a c : Score} (ha : a.isNaN = false)
    (hc : c.isNaN = false) : (op.combine a c).isNaN = false := by
  cases op with
  | sum => exact Binary64.isNaN_nanToZero _
  | min =>
    simp only [combine, Binary64.min, ha, hc, Bool.false_eq_true, if_false]
    split <;> assumption
  | max =>
    simp only [combine, Binary64.max, ha, hc, Bool.false_eq_true, if_false]
    split <;> assumption

namespace Gathered

variable {op : Aggregate} {acc : ByteMap Gathered}

/-- No score that was gathered is `nan`. -/
def Numeric (acc : ByteMap Gathered) : Prop := ∀ m g, acc.get? m = some g → g.1.isNaN = false

theorem numeric_empty : Numeric ByteMap.empty := fun m g h => by simp at h

/-- One more contribution. -/
theorem Numeric.gather (h : Numeric acc) (m : Bytes) {c : Score} (hc : c.isNaN = false) :
    Numeric (gather op acc m c) := by
  intro m' g hg
  rw [KeyWalk.gather] at hg
  split at hg
  · rename_i total seen hm
    rw [ByteMap.get?_insert] at hg
    split at hg
    · exact Option.some.inj hg ▸ op.isNaN_combine (h m _ hm) hc
    · exact h m' g hg
  · rw [ByteMap.get?_insert] at hg
    split at hg
    · exact Option.some.inj hg ▸ hc
    · exact h m' g hg

/-- One more source. -/
theorem Numeric.gatherSource (h : Numeric acc) (source : Score × ByteMap Score) :
    Numeric (gatherSource op acc source) := by
  rw [KeyWalk.gatherSource]
  generalize source.2.entries = entries
  induction entries generalizing acc with
  | nil => exact h
  | cons e r ih => exact ih (h.gather e.1 (isNaN_contribution source.1 e.2))

theorem Numeric.gatherSources (h : Numeric acc) (sources : List (Score × ByteMap Score)) :
    Numeric (sources.foldl (KeyWalk.gatherSource op) acc) := by
  induction sources generalizing acc with
  | nil => exact h
  | cons source r ih => exact ih (h.gatherSource source)

end Gathered

/-- **No combined score is `nan`**, whatever the weights and the scores of the sources are. -/
theorem isNaN_aggregate {mode : StoreMode} {op : Aggregate}
    {sources : List (Score × ByteMap Score)} {m : Bytes} {s : Score}
    (h : (aggregate mode op sources).get? m = some s) : s.isNaN = false := by
  rw [aggregate, ByteMap.get?_mapValues, Option.map_eq_some_iff] at h
  obtain ⟨g, hg, rfl⟩ := h
  rw [ByteMap.get?_filter, Option.filter_eq_some_iff] at hg
  exact Gathered.numeric_empty.gatherSources sources m g hg.1

end KeyWalk
