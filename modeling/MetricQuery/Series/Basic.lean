/-
Series: samples on a regular grid of time.

The sample at index `i` was taken at `start + i * step`, and `stop` is where the next one would be. A sample that is not
a number is missing. `Consistent` says that the four numbers of the grid agree; every function here that puts samples on
a grid computes `stop` from the other three, and `slice` keeps exactly the samples inside a window.
-/
import MetricQuery.Keyed
import MetricQuery.Text.Split
import MetricQuery.Reducer
import MetricQuery.Time.Timestamp

namespace MetricQuery

/-! ## Tags -/

/-- tags in ascending order of key -/
abbrev Tags := Keyed String

namespace Tags

/-- the tag that holds the metric path -/
def nameKey : String := "name"

/-- the metric path of a name that may carry tags: the text in front of the first semicolon -/
def pathOf (name : String) : String :=
  String.ofList (name.toList.takeWhile (· ≠ ';'))

/-- the tag that a segment `key=value` carries; one without a key carries none -/
def ofSegment (segment : List Char) : Option (String × String) :=
  match Text.splitOnce '=' segment with
  | some (k :: ks, value) => some (String.ofList (k :: ks), String.ofList value)
  | _ => none

/-- the tags of a name such as `path;key=value;key=value` -/
def ofName (name : String) : Tags :=
  let segments := Text.splitAt ';' name.toList
  Keyed.insertAll [(nameKey, String.ofList (segments.headD []))] (segments.tail.filterMap ofSegment)

end Tags

/-! ## Series -/

/-- a named, tagged time series -/
structure Series where
  name : String
  tags : Tags
  /-- samples; one that is not a number is missing -/
  values : List Float
  /-- time of the first sample -/
  start : Int
  /-- end of the covered window, exclusive -/
  stop : Int
  /-- seconds between samples -/
  step : Int
  /-- least share of present samples for a consolidated value -/
  xFilesFactor : Float32
  /-- name of the reducer used when the series is drawn with fewer points -/
  reducerName : String
  /-- pattern that fetched the series -/
  path : String

namespace Series

/-- the reducer of a series that names none -/
def defaultReducerName : String := "average"

/-- a series as it is stored, its tags taken from its name -/
def ofSamples (name : String) (values : List Float) (step start : Int) : Series where
  name := name
  tags := Tags.ofName name
  values := values
  start := start
  stop := start + values.length * step
  step := step
  xFilesFactor := 0
  reducerName := defaultReducerName
  path := name

/-- whether the window covered is as long as its samples, on a grid that moves forward -/
def Consistent (s : Series) : Prop :=
  0 < s.step ∧ s.stop - s.start = s.values.length * s.step

instance (s : Series) : Decidable s.Consistent := by unfold Consistent; infer_instance

/-- time of the sample at an index -/
def timestamp (s : Series) (index : Nat) : Int :=
  s.start + index * s.step

/-- samples with their times -/
def samples (s : Series) : List (Int × Float) :=
  s.values.zipIdx.map fun (v, i) => (s.timestamp i, v)

/-- the metric path, or the name where there is no such tag -/
def nameTag (s : Series) : String :=
  (s.tags.get? Tags.nameKey).getD s.name

/-- the last sample that is present -/
def lastValue? (s : Series) : Option Float :=
  s.values.reverse.find? fun v => !v.isNaN

/-! ### Changed copies -/

/-- the same series under another name, without samples -/
def shell (s : Series) (name : String) : Series :=
  { s with name := name, values := [], stop := s.start }

/-- other samples on the same grid -/
def withValues (s : Series) (values : List Float) : Series :=
  { s with values := values, stop := s.start + values.length * s.step }

/-- the same samples from another time on -/
def withStart (s : Series) (start : Int) : Series :=
  { s with start := start, stop := start + s.values.length * s.step }

/-- other samples on another grid -/
def onGrid (s : Series) (start step : Int) (values : List Float) : Series :=
  { s with values := values, start := start, step := step, stop := start + values.length * step }

def withTag (s : Series) (key value : String) : Series :=
  { s with tags := s.tags.insert key value }

/-- the same samples under another name, with more tags -/
def renamedWithTags (s : Series) (name : String) (extra : List (String × String)) : Series :=
  { (s.shell name).withValues s.values with tags := s.tags.insertAll extra }

/-- the same samples under another name -/
def renamed (s : Series) (name : String) : Series :=
  (s.shell name).withValues s.values

theorem consistent_onGrid (s : Series) (start : Int) {step : Int} (values : List Float) (h : 0 < step) :
    (s.onGrid start step values).Consistent :=
  ⟨h, by simp only [onGrid]; omega⟩

theorem consistent_withValues (s : Series) (values : List Float) (h : 0 < s.step) :
    (s.withValues values).Consistent :=
  ⟨h, by simp only [withValues]; omega⟩

theorem consistent_withStart (s : Series) (start : Int) (h : 0 < s.step) : (s.withStart start).Consistent :=
  ⟨h, by simp only [withStart]; omega⟩

/-! ### Slices -/

/-- `a / b` rounded up, for positive `b` -/
def ceilDiv (a b : Int) : Int :=
  if a % b = 0 then a / b else a / b + 1

/-- index of the first sample at or after `t`, at most the number of samples -/
def indexFrom (s : Series) (t : Int) : Nat :=
  (max 0 (min (s.values.length : Int) (ceilDiv (Time.saturated (t - s.start)) s.step))).toNat

/-- the samples with times in a window; none if there is no such sample -/
def slice (s : Series) (window : Time.Window) : Option Series :=
  let first := s.indexFrom window.start
  let last := s.indexFrom window.stop
  if s.step ≤ 0 ∨ last ≤ first then none
  else some (((s.shell s.name).withStart (s.timestamp first)).withValues ((s.values.drop first).take (last - first)))

end Series

end MetricQuery
