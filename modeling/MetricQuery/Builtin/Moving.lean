/-
Functions of a moving window.

The window is a number of points or a span of time. A span widens the window that series are fetched over right away; how
far points reach back is known once the step of the series is, so then the series are evaluated, fetched again from
further back, and evaluated once more. The value at a point comes from the window in front of it, and the first points,
which have no full window, are dropped.
-/
import MetricQuery.Builtin.Shape

namespace MetricQuery.Builtin

open Target (Expr Call)
open Time (Window)

/-! ## Windows -/

/-- how far a moving window reaches -/
inductive Reach where
  | points (n : Int)
  | seconds (span : Int)
  deriving DecidableEq, Repr

namespace Reach

/-- the parameter that holds the window -/
def param : String := "windowSize"

def ofCall (c : Call) : Except EvalError Reach :=
  match c.namedOrAt? param 1 with
  | some (.string value _) => do
    let seconds ← (Time.parseInterval value 1).mapError EvalError.ofInterval
    .ok (.seconds (← positive c seconds.natAbs))
  | _ => do
    let n ← c.intOr param 1 0
    if n ≤ 0 then .error (.invalidArgument c.function (.windowNotPositive n)) else .ok (.points n)

/-- length of the window in points of a series with this step, at least one -/
def length (r : Reach) (step : Int) : Nat :=
  match r with
  | .points n => n.toNat
  | .seconds span => (max 1 (span.tdiv step)).toNat

/-- the window that series are fetched over at first -/
def widen (r : Reach) (w : Window) : Except EvalError Window :=
  match r with
  | .seconds span => do .ok ⟨← moved w.start (-span), w.stop⟩
  | .points _ => .ok w

end Reach

/-- the greatest step of some series -/
def greatestStep : List Series → Option Int
  | [] => none
  | s :: rest => some (rest.foldl (fun step r => max step r.step) s.step)

/-- how far `n` points of a step reach back from a time -/
def reachBack (n step t : Int) : Except EvalError Int :=
  match Time.checked (step * n) with
  | some span => moved t (-span)
  | none => .error (.invalidInterval s!"{n} points of {step}s")

/-- the first argument as series, from far enough back to fill the first window -/
def reachedSeries (ops : Operands) (c : Call) (r : Reach) (w : Window) : Eval (List Series) := do
  match r with
  | .seconds _ => seriesAt ops c 0 (← r.widen w)
  | .points n =>
    let sampled ← seriesAt ops c 0 w
    match greatestStep sampled, c.args.head? with
    | some step, some arg =>
      let widened : Window := ⟨← reachBack n step w.start, w.stop⟩
      ops.fetch arg widened
      seriesAt ops c 0 widened
    | _, _ => pure sampled

/-- the value of a window under a key of a tag: the window as written, without quotes -/
def windowTag (key : String) (c : Call) (s : Series) : Series :=
  s.withTag key (c.plainText Reach.param 1)

/-! ## Reduced windows -/

/-- for each point behind the first `n`, the `n` samples in front of it -/
def windowsBefore (n : Nat) (xs : List Float) : List (List Float) :=
  (List.range (xs.length - n)).map fun k => (xs.drop k).take n

/-- the value of a window of `n` samples -/
def reduceWindow (r : Reducer) (n : Nat) (factor : Float32) (window : List Float) : Float :=
  let present := Samples.present window
  if reachesFactor present.length n factor then r.apply present else Decimal.nan

/-- time of the point behind the first `n`, or behind the last one -/
def afterPoints (s : Series) (n : Nat) : Int :=
  s.timestamp (min n s.values.length)

/-- a series with each point replaced by the value of the window in front of it -/
def moveOver (name : String) (c : Call) (reach : Reach) (r : Reducer) (factor : Option Float) (s : Series) : Series :=
  let n := reach.length s.step
  let factor := (factor.map Float.toFloat32).getD s.xFilesFactor
  let values := (windowsBefore n s.values).map (reduceWindow r n factor)
  let shell := (s.shell s!"{name}({s.name},{c.literalText Reach.param 1})").withStart (afterPoints s n)
  windowTag name c (shell.withValues values)

/-- a word with a capital letter in front -/
def capitalize (word : String) : String :=
  match word.toList with
  | c :: r => String.ofList (c.toUpper :: r)
  | [] => ""

def xFilesFactorParam : Param := { name := "xFilesFactor", type := .float }

def windowParam : Param := { name := Reach.param, type := .intOrInterval, required := true }

def movingText : String :=
  "Reduce the window of points preceding each point. The window is a point count or an interval."

/-- a moving window with a fixed reducer -/
def movingFixed (name : String) (r : Reducer) : Function where
  descriptions := [{ name := name, group := "Calculate", text := movingText,
                     params := [seriesList, windowParam, xFilesFactorParam] }]
  window c w := do (← Reach.ofCall c).widen w
  evaluate ops c w := do
    let reach ← Reach.ofCall c
    let factor ← c.float? "xFilesFactor" 2
    let series ← reachedSeries ops c reach w
    pure (series.map (moveOver name c reach r factor))

/-- a moving window with the reducer that the query names -/
def movingWindow : Function where
  descriptions := [{ name := "movingWindow", group := "Calculate", text := movingText,
                     params := [seriesList, windowParam,
                       { reducerParam "func" with default := some (.string "average") }, xFilesFactorParam] }]
  window c w := do (← Reach.ofCall c).widen w
  evaluate ops c w := do
    let reach ← Reach.ofCall c
    let reducerName ← c.stringOr "func" 2 "average"
    let r ← reducerNamed reducerName
    let factor ← c.float? "xFilesFactor" 3
    let series ← reachedSeries ops c reach w
    pure (series.map (moveOver s!"moving{capitalize reducerName}" c reach r factor))

/-! ## Exponential average -/

/-- ten to a whole power, by repeated squaring -/
def tenTo (n : Int) : Float :=
  let size := power n.natAbs n.natAbs 10.0 1.0
  if n < 0 then 1.0 / size else size
where
  power : Nat → Nat → Float → Float → Float
    | 0, _, _, acc => acc
    | fuel + 1, n, base, acc =>
      let acc := if n % 2 = 1 then acc * base else acc
      if n / 2 = 0 then acc else power fuel (n / 2) (base * base) acc

/-- a value rounded to decimal places; what is not finite stays -/
def roundTo (x : Float) (places : Int) : Float :=
  if x.isFinite then (x * tenTo places).round / tenTo places else x

/-- running average `c * x + (1 - c) * average`; a missing sample leaves it as it is -/
def exponentialFrom (c average : Float) : List Float → List Float
  | [] => []
  | x :: rest =>
    if x.isNaN then Decimal.nan :: exponentialFrom c average rest
    else
      let next := c * x + (1.0 - c) * average
      roundTo next 6 :: exponentialFrom c next rest

/-- the exponential average behind the first `n` samples, which only give the mean it starts from.

Of no more than `n` samples it is their mean, as a single point. -/
def exponentialAverage (xs : List Float) (n : Nat) : List Float :=
  let mean (window : List Float) := Reducer.average.reduce window 0.0
  if xs = [] then []
  else if xs.length ≤ n then [roundTo (mean xs) 6]
  else
    let seed := mean (xs.take n)
    exponentialFrom (2.0 / (Float.ofNat n + 1.0)) (if seed.isNaN then 0.0 else seed) (xs.drop n)

def exponentialMovingAverage : Function where
  descriptions := [{ name := "exponentialMovingAverage", group := "Calculate",
                     text := "Exponential moving average seeded with the mean of the first window.",
                     params := [seriesList, windowParam] }]
  window c w := do (← Reach.ofCall c).widen w
  evaluate ops c w := do
    let reach ← Reach.ofCall c
    let series ← reachedSeries ops c reach w
    pure <| series.map fun s =>
      let n := reach.length s.step
      let name := s!"exponentialMovingAverage({s.name},{c.literalText Reach.param 1})"
      let start := s.timestamp (min n (s.values.length - 1))
      windowTag "exponentialMovingAverage" c
        (((s.shell name).withStart start).withValues (exponentialAverage s.values n))

def moving : List Function :=
  [movingWindow, movingFixed "movingAverage" .average, movingFixed "movingSum" .sum, movingFixed "movingMin" .min,
    movingFixed "movingMax" .max, movingFixed "movingMedian" .median, exponentialMovingAverage]

end MetricQuery.Builtin
