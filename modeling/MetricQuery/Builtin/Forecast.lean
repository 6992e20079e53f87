/-
Holt-Winters forecasts: triple exponential smoothing with fixed coefficients.

The model runs over the series from some time before the window asked for, so that it has settled where the window
begins; those first points are dropped from the output.
-/
import MetricQuery.Builtin.Shape

namespace MetricQuery.Builtin

open Target (Call)

namespace Forecast

/-! ## The model -/

def alpha : Float := 0.1

def beta : Float := 0.0035

def gamma : Float := 0.1

/-- what the model keeps of one sample; a missing sample has no level -/
structure Point where
  level : Option Float
  slope : Float
  seasonal : Float
  prediction : Float
  deviation : Float

/-- the points so far, the latest first, and the prediction for the next sample -/
structure State where
  points : List Point := []
  next : Option Float := none

/-- the point of a missing sample: the recurrence breaks off and carries on from the sample behind it -/
def gap (next : Option Float) : Point :=
  ⟨none, 0.0, 0.0, next.getD Decimal.nan, 0.0⟩

/-- one more sample, a season being `season` points long -/
def step (season : Nat) (st : State) (actual : Float) : State :=
  if actual.isNaN then ⟨gap st.next :: st.points, none⟩
  else
    let (lastLevel, lastSlope, prediction) := match st.points with
      | [] => (actual, 0.0, some actual)
      | p :: _ => (p.level.getD actual, p.slope, st.next)
    -- the sample one season back is `season - 1` points behind the latest one
    let back := if season = 0 then none else st.points[season - 1]?
    let backNext := if season ≤ 1 then none else st.points[season - 2]?
    let lastSeasonal := (back.map Point.seasonal).getD 0.0
    let lastDeviation := (back.map Point.deviation).getD 0.0
    let level := alpha * (actual - lastSeasonal) + (1.0 - alpha) * (lastLevel + lastSlope)
    let slope := beta * (level - lastLevel) + (1.0 - beta) * lastSlope
    let seasonal := gamma * (actual - level) + (1.0 - gamma) * lastSeasonal
    let deviation := gamma * (actual - prediction.getD 0.0).abs + (1.0 - gamma) * lastDeviation
    ⟨⟨some level, slope, seasonal, prediction.getD Decimal.nan, deviation⟩ :: st.points,
      some (level + slope + (backNext.map Point.seasonal).getD 0.0)⟩

/-- the model over all samples, one point for each -/
def analyze (season : Nat) (xs : List Float) : List Point :=
  (xs.foldl (step season) {}).points.reverse

/-! ## Bands -/

/-- the values a number of deviations below and above the forecast -/
def lower (delta : Float) (p : Point) : Float :=
  p.prediction - delta * p.deviation

def upper (delta : Float) (p : Point) : Float :=
  p.prediction + delta * p.deviation

/-- how far a sample lies outside its band; zero inside it, and where either is missing -/
def aberration (delta : Float) (actual : Float) (p : Point) : Float :=
  if upper delta p < actual then actual - upper delta p
  else if actual < lower delta p then actual - lower delta p
  else 0.0

/-! ## Functions -/

/-- what is shown of the model -/
inductive Kind where
  | forecast
  | bands
  | aberration
  deriving DecidableEq, Repr

namespace Kind

def functionName : Kind → String
  | .forecast => "holtWintersForecast"
  | .bands => "holtWintersConfidenceBands"
  | .aberration => "holtWintersAberration"

def text : Kind → String
  | .forecast => "Holt-Winters forecast of each series."
  | .bands => "Upper and lower Holt-Winters confidence bands, \x60delta\x60 deviations from the forecast."
  | .aberration => "Distance of each point outside its Holt-Winters confidence band, zero inside it."

/-- whether the width of the bands is a parameter; it comes first then -/
def hasDelta (k : Kind) : Bool :=
  k != .forecast

/-- place of the bootstrap interval among the arguments -/
def bootstrapIndex (k : Kind) : Nat :=
  if k.hasDelta then 2 else 1

end Kind

def defaultBootstrap : Int := 7 * 86400

def defaultSeason : Int := 86400

def defaultDelta : Float := 3.0

/-- seconds the model runs before the window -/
def bootstrapOf (k : Kind) (c : Call) : Except EvalError Int := do
  .ok (← c.intervalOr "bootstrapInterval" k.bootstrapIndex 1 defaultBootstrap).natAbs

def seasonOf (k : Kind) (c : Call) : Except EvalError Int := do
  .ok (← c.intervalOr "seasonality" (k.bootstrapIndex + 1) 1 defaultSeason).natAbs

/-- what a call sets of the model -/
structure Setting where
  bootstrap : Int
  season : Int
  delta : Float

def Setting.ofCall (k : Kind) (c : Call) : Except EvalError Setting := do
  let bootstrap ← bootstrapOf k c
  let season ← seasonOf k c
  let delta ← if k.hasDelta then c.floatOr "delta" 1 defaultDelta else .ok defaultDelta
  .ok ⟨bootstrap, season, delta⟩

/-- what is shown of one series -/
def shown (k : Kind) (set : Setting) (s : Series) : List Series :=
  let points := analyze (max 1 (set.season.tdiv s.step)).toNat s.values
  let skip := min (set.bootstrap.tdiv s.step).toNat s.values.length
  let kept := points.drop skip
  let named (name : String) (values : List Float) : Series :=
    ((s.shell s!"{name}({s.name})").withStart (s.timestamp skip)).withValues values
  match k with
  | .forecast => [named "holtWintersForecast" (kept.map Point.prediction)]
  | .bands =>
    [named "holtWintersConfidenceLower" (kept.map (lower set.delta)),
      named "holtWintersConfidenceUpper" (kept.map (upper set.delta))]
  | .aberration =>
    [named "holtWintersAberration" (List.zipWith (aberration set.delta) (s.values.drop skip) kept)]

def function (k : Kind) : Function :=
  ({ Early := Setting
     early := Setting.ofCall k
     window := fun c w => do
       let bootstrap ← bootstrapOf k c
       .ok ⟨← moved w.start (-bootstrap), w.stop⟩
     finish := fun _ set _ series => .ok (series.flatMap (shown k set)) : Mapping }).toFunction
    [{ name := k.functionName, group := "Calculate", text := k.text,
       params := [seriesList] ++
         (if k.hasDelta then [{ name := "delta", type := .integer, default := some (.int 3) }] else []) ++
         [{ name := "bootstrapInterval", type := .interval, default := some (.string "7d") },
           { name := "seasonality", type := .interval, default := some (.string "1d") }] }]

end Forecast

def forecasting : List Function :=
  [Forecast.function .forecast, Forecast.function .bands, Forecast.function .aberration]

end MetricQuery.Builtin
