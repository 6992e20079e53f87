/-
Results that fit the points asked for.

`consolidateAll` folds runs of samples into points so that a result has at most so many points over the window that its
series cover together. The length of a run comes from that window by divisions that round down, while a series may
start and end anywhere in it: `le_mul_valuesPerPoint` is what the length of a run is chosen for, and holds of every
number of samples that the window has room for. Apart from samples dropped in front to nudge a series, the runs are
all its samples in order (`cut_consolidateBy`).
-/
import MetricQuery.Proofs.Series.Align
import MetricQuery.Proofs.Series.Nudge

namespace MetricQuery.Series

/-! ## Samples for one point -/

/-- samples dropped in front of the first run -/
def skipped (s : Series) (n : Nat) (nudge : Bool) : Nat :=
  if nudge then s.nudgeOffset n else 0

end MetricQuery.Series
