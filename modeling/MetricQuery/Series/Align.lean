/-
Series brought onto one grid, and combined point by point.

Series from different archives differ in step and window. `scale` brings them to one step, each finer series downsampled
with its own reducer; `align` pads them with missing samples to one window. `aggregate` then reduces the samples at each
index to one.

Steps and times are exact, the common step as well, which a few unlike steps take out of the range of 64 bits.
-/
import MetricQuery.Series.Basic

namespace MetricQuery.Series

/-- consecutive runs of `n` elements, the last one possibly shorter -/
def chunks {α : Type} (n : Nat) (xs : List α) : List (List α) :=
  (List.range ((xs.length + n - 1) / n)).map fun k => (xs.drop (k * n)).take n

def missing (n : Nat) : List Float :=
  List.replicate n Decimal.nan

/-- the least common multiple of two steps -/
def commonStep (a b : Int) : Int :=
  Int.lcm a b

/-- runs of `n` samples of a series reduced to one each, with the reducer of the series -/
def downsample (s : Series) (values : List Float) (n : Nat) : List Float :=
  if n ≤ 1 then values
  else (chunks n values).map fun run => (Reducer.ofNameOrAverage s.reducerName).reduce run s.xFilesFactor

/-- a quotient as a count; where the quotient is negative, more than there are elements -/
def countOf (quotient : Int) (elements : Nat) : Nat :=
  if quotient < 0 then elements + 1 else quotient.toNat

/-- one series on the grid of `step` from `start`, not yet padded at its end -/
def scaleOne (step start : Int) (s : Series) : Series :=
  if step < s.step then s
  else if s.step = step then
    let lead := (s.start - start).tdiv step
    if lead ≤ 0 then s else s.onGrid (s.start - lead * step) step (missing lead.toNat ++ s.values)
  else
    let values := missing ((s.start - start).tdiv s.step).toNat ++ s.values
    s.onGrid start step (s.downsample values (countOf (step.tdiv s.step) values.length))

/-- missing samples behind a series, up to `length` -/
def padTo (length : Nat) (s : Series) : Series :=
  if s.values.length < length then s.withValues (s.values ++ missing (length - s.values.length)) else s

def earliestStart : List Series → Int
  | [] => 0
  | s :: rest => rest.foldl (fun t r => min t r.start) s.start

def latestStop : List Series → Int
  | [] => 0
  | s :: rest => rest.foldl (fun t r => max t r.stop) s.stop

def longest (series : List Series) : Nat :=
  series.foldl (fun n s => max n s.values.length) 0

/-- the step to scale to: the one asked for if positive, otherwise the least common multiple of all steps -/
def targetStep (asked : Int) : List Series → Int
  | [] => asked
  | s :: rest => if 0 < asked then asked else (s :: rest).foldl (fun step r => commonStep step r.step) s.step

/-- every series on one step, and all as long as the longest.

The common start is the earliest start moved back to a multiple of the step. Series coarser than a step that was asked
for are left as they are. -/
def scale (series : List Series) (asked : Int) : List Series :=
  let step := targetStep asked series
  if series = [] ∨ step ≤ 0 then series
  else
    let first := earliestStart series
    let scaled := series.map (scaleOne step (first - first % step))
    scaled.map (padTo (longest scaled))

/-- a series padded with missing samples to a window -/
def padToWindow (start stop : Int) (s : Series) : Series :=
  let lead := ((s.start - start).tdiv s.step).toNat
  let trail := ((stop - s.stop).tdiv s.step).toNat
  if lead = 0 ∧ trail = 0 then s
  else s.onGrid (s.start - lead * s.step) s.step (missing lead ++ s.values ++ missing trail)

/-- whether two series of the list differ in step -/
def stepsDiffer : List Series → Bool
  | [] => false
  | s :: rest => rest.any fun r => r.step != s.step

/-- series with one step and one window -/
def align (series : List Series) : List Series :=
  let scaled := if stepsDiffer series then scale series 0 else series
  scaled.map (padToWindow (earliestStart scaled) (latestStop scaled))

/-- tags that every series has with the same value -/
def commonTags : List Series → Tags
  | [] => []
  | s :: rest => rest.foldl (fun tags r => tags.filter fun (k, v) => r.tags.get? k == some v) s.tags

/-- the samples present at an index, in order of the series -/
def presentAt (series : List Series) (index : Nat) : List Float :=
  Samples.present (series.filterMap (·.values[index]?))

/-- series combined into one: at each index `reducer` is applied to the samples present, if they reach the factor -/
def aggregate (name : String) (series : List Series) (reducer : List Float → Float) (factor : Float32) : List Series :=
  match align series with
  | [] => []
  | first :: rest =>
    let aligned := first :: rest
    let values := (List.range (longest aligned)).map fun i =>
      let present := presentAt aligned i
      if reachesFactor present.length aligned.length factor then reducer present else Decimal.nan
    let tags := commonTags aligned
    let tags := if (tags.get? Tags.nameKey).isSome then tags else tags.insert Tags.nameKey name
    [{ (first.shell name).withValues values with tags := tags }]

end MetricQuery.Series
