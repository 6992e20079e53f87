/-
Series drawn with fewer points.

Each run of `n` samples is reduced to one. When nudged, the first few samples are dropped so that the ends of the runs
stay at the same times while the window slides, and the output starts at the last time of its first run. Times are
exact, and so is the time from the earliest start of a result to its latest stop.
-/
import MetricQuery.Series.Align

namespace MetricQuery.Series

/-- samples to fold into one so that a window of `range` seconds has at most `maxPoints` points -/
def valuesPerPoint (range step : Int) (maxPoints : Nat) : Nat :=
  if range ≤ 0 ∨ step ≤ 0 ∨ maxPoints = 0 then 1
  else
    let points := (range.tdiv step).toNat
    if points ≤ maxPoints then 1 else (points + maxPoints - 1) / maxPoints

/-- samples to drop so that the first one kept stands at `step` after a multiple of the width of a run; none where the
series is not longer than two runs -/
def nudgeOffset (s : Series) (n : Nat) : Nat :=
  if s.values.length ≤ 2 * n then 0
  else (((s.step - s.start) % (s.step * n)).tdiv s.step).toNat

/-- runs of `n` samples reduced to one each with the reducer of the series; a shorter run at the end is kept -/
def consolidateBy (s : Series) (n : Nat) (nudge : Bool) : Series :=
  if n ≤ 1 ∨ s.step ≤ 0 then s
  else
    let skip := if nudge then s.nudgeOffset n else 0
    let width := s.step * n
    let first := s.start + skip * s.step
    s.onGrid (if nudge then first + (width - s.step) else first) width (s.downsample (s.values.drop skip) n)

/-- one series with at most `maxPoints` points -/
def consolidate (s : Series) (maxPoints : Nat) (nudge : Bool) : Series :=
  s.consolidateBy (valuesPerPoint (s.stop - s.start) s.step maxPoints) nudge

/-- all series of a result with at most `maxPoints` points over the window they cover together -/
def consolidateAll (series : List Series) (maxPoints : Nat) (nudge : Bool) : List Series :=
  let range := latestStop series - earliestStart series
  series.map fun s => s.consolidateBy (valuesPerPoint range s.step maxPoints) nudge

end MetricQuery.Series
