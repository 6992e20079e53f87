/-
Functions that move series in time.

`timeShift` draws a series as it was at another time. `timeShiftByMetric` lines releases up: series are named after major
versions, mark series fire at the points of releases, and each series is moved so that the last release of its version
meets the last release of the newest one.
-/
import MetricQuery.Builtin.Shape
import MetricQuery.Series.Align
import MetricQuery.Text.WordChar

namespace MetricQuery.Builtin

open Target (Call)
open Time (Window)

/-! ## By an interval -/

/-- seconds to shift by; without a sign into the past -/
def shiftOf (c : Call) : Except EvalError Int :=
  c.intervalOr "timeShift" 1 (-1) 0

/-- number of intervals that a span covers, the last one perhaps in part -/
def bucketCount (span interval : Int) : Nat :=
  if span ≤ 0 then 0 else (span.tdiv interval + if span.tmod interval = 0 then 0 else 1).toNat

/-- samples of a grid from `start` on that do not lie beyond `stop` -/
def cutAt (stop start step : Int) (values : List Float) : List Float :=
  if stop < start + values.length * step then values.take (bucketCount (stop - start) step) else values

/-- a series moved by `-shift` seconds; with `resetEnd` nothing of it reaches beyond the window -/
def shiftSeries (text : String) (shift : Int) (resetEnd : Bool) (w : Window) (s : Series) : Series :=
  let start := s.start - shift
  let kept := if resetEnd then cutAt w.stop start s.step s.values else s.values
  (((s.shell s!"timeShift({s.name},'{text}')").withStart start).withValues kept).withTag "timeShift" text

def timeShift : Function :=
  ({ Early := Int × Bool
     early := fun c => do
       let shift ← shiftOf c
       .ok (shift, ← c.boolOr "resetEnd" 2 true)
     window := fun c w => do
       let shift ← shiftOf c
       .ok ⟨← moved w.start shift, ← moved w.stop shift⟩
     finish := fun c (shift, resetEnd) w series =>
       .ok (series.map (shiftSeries (c.plainText "timeShift" 1) shift resetEnd w)) : Mapping }).toFunction
    [{ name := "timeShift", group := "Transform",
       text := "Draw the series as it was at another time. Unsigned shifts go into the past.",
       params := [seriesList,
         { name := "timeShift", type := .interval, required := true,
           suggestions := ["1h", "6h", "12h", "1d", "2d", "7d", "14d", "30d"].map .string },
         { name := "resetEnd", type := .boolean, default := some (.bool true) }] }]

/-! ## By releases -/

/-- a version with major and minor number -/
structure Version where
  major : Nat
  minor : Nat
  deriving DecidableEq, Repr

/-- a number of one word in ASCII digits -/
def versionNumber? (digits : List Char) : Option Nat :=
  let n := Decimal.digitsValue digits
  if digits.all Char.isDigit ∧ n < Nat.pow 2 64 then some n else none

/-- the first digits in a text that have an underscore and digits behind them, and those digits -/
def findVersion : Nat → List Char → Option (List Char × List Char)
  | 0, _ => none
  | fuel + 1, s =>
    let s := s.dropWhile fun c => !Text.isDecimalDigit c
    let major := s.takeWhile Text.isDecimalDigit
    match s.drop major.length with
    | [] => none
    | c :: r =>
      let minor := r.takeWhile Text.isDecimalDigit
      if c = '_' ∧ minor ≠ [] then some (major, minor) else findVersion fuel (c :: r)

/-- the version that a text holds in the form `major_minor` -/
def versionIn? (text : String) : Option Version := do
  let s := text.toList
  let (major, minor) ← findVersion (s.length + 1) s
  some ⟨← versionNumber? major, ← versionNumber? minor⟩

/-- a release: a version and the last point at which its mark series fired -/
structure Mark where
  version : Version
  position : Nat
  deriving DecidableEq, Repr

/-- the last index at which a sample is present and not zero -/
def lastFiring (xs : List Float) : Option Nat :=
  (xs.zipIdx.reverse.find? fun (x, _) => !x.isNaN && x != 0.0).map Prod.snd

/-- the release that a mark series stands for; its last node holds the version -/
def markOf (s : Series) : Option Mark := do
  let version ← versionIn? ((Text.split '.' s.name).getLastD "")
  some ⟨version, ← lastFiring s.values⟩

/-- whether a release comes before another when the newest is first -/
def Mark.newerOrSame (a b : Mark) : Bool :=
  b.version.major < a.version.major || (a.version.major == b.version.major && b.version.minor ≤ a.version.minor)

/-- of marks in a row with one major version, the first -/
def firstOfMajor : List Mark → List Mark
  | [] => []
  | m :: rest =>
    match firstOfMajor rest with
    | [] => [m]
    | n :: more => if n.version.major = m.version.major then m :: more else m :: n :: more

/-- the newest release of each major version, newest first -/
def latestMarks (marks : List Series) : List Mark :=
  firstOfMajor ((marks.filterMap markOf).mergeSort Mark.newerOrSame)

/-- every sample `offset` points later, in a list of the same length -/
def shiftPoints (xs : List Float) (offset : Int) : List Float :=
  if 0 ≤ offset then (Series.missing offset.toNat ++ xs).take xs.length
  else xs.drop offset.natAbs ++ Series.missing (min offset.natAbs xs.length)

/-- refuses lists with fewer than two series, or with series of unequal length or none -/
def checkLists (metrics marks : List Series) : Except DataFault Unit :=
  if metrics.length < 2 then .error (.tooFew "metrics" metrics.length)
  else if marks.length < 2 then .error (.tooFew "marks" marks.length)
  else match metrics with
    | [] => .ok ()
    | first :: _ =>
      if first.values = [] then .error (.emptySeries first.name)
      else match (metrics ++ marks).find? fun s => s.values.length != first.values.length with
        | some odd => .error (.unequalLength odd.name)
        | none => .ok ()

/-- the series moved to the newest release, or nothing if it has no version with a mark -/
def lineUp (latest : List Mark) (newest : Mark) (rank : Nat) (s : Series) : Option Series := do
  let node ← (Text.split '.' s.name)[rank]?
  let version ← versionIn? node
  let mark ← latest.find? fun m => m.version.major == version.major
  let offset : Int := newest.position - mark.position
  some (((s.shell s!"timeShiftByMetric({s.name})").withValues (shiftPoints s.values offset)).withTag
    "timeShiftByMetric" (toString (offset * s.step)))

def timeShiftByMetric : Function where
  descriptions :=
    [{ name := "timeShiftByMetric", group := "Transform",
       text := "Shift each series so the release mark of its major version lines up with the newest release mark.",
       params := [seriesList, { name := "markSource", type := .seriesList, required := true },
         { name := "versionRankIndex", type := .integer, required := true }] }]
  evaluate ops c w := do
    let metrics ← seriesAt ops c 0 w
    let marks ← seriesAt ops c 1 w
    let rank ← c.intOr "versionRankIndex" 2 0
    if rank < 0 then throw (.invalidArgument c.function (.negativeRank rank))
    match checkLists metrics marks with
    | .error fault => throw (.badData c.function fault)
    | .ok () =>
      match latestMarks marks with
      | newest :: other :: rest =>
        pure (metrics.filterMap (lineUp (newest :: other :: rest) newest rank.toNat))
      | few => throw (.badData c.function (.tooFewVersions few.length))

def shifting : List Function := [timeShift, timeShiftByMetric]

end MetricQuery.Builtin
