/-
Functions that change the samples of each series and keep its grid.
-/
import MetricQuery.Builtin.Shape

namespace MetricQuery.Builtin

open Target (Call)

/-! ## Point by point -/

/-- other samples under another name, with a tag for the function -/
def reshaped (s : Series) (name : String) (values : List Float) (key value : String) : Series :=
  ((s.shell name).withValues values).withTag key value

def absolute : Function :=
  (Mapping.perSeries fun _ _ => .ok fun s =>
    reshaped s s!"absolute({s.name})" (s.values.map Float.abs) "absolute" "1").toFunction
    [{ name := "absolute", group := "Transform", text := "Absolute value of every point.", params := [seriesList] }]

def scale : Function :=
  (Mapping.perSeries fun c _ => do
    let factor ← c.floatOr "factor" 1 1.0
    let text := c.literalText "factor" 1
    .ok fun s => reshaped s s!"scale({s.name},{text})" (s.values.map (· * factor)) "scale" text).toFunction
    [{ name := "scale", group := "Transform", text := "Multiply every point by a constant.",
       params := [seriesList, { name := "factor", type := .float, required := true }] }]

def offset : Function :=
  (Mapping.perSeries fun c _ => do
    let amount ← c.floatOr "factor" 1 0.0
    let text := c.literalText "factor" 1
    .ok fun s => reshaped s s!"offset({s.name},{text})" (s.values.map (· + amount)) "offset" text).toFunction
    [{ name := "offset", group := "Transform", text := "Add a constant to every point.",
       params := [seriesList, { name := "factor", type := .float, required := true }] }]

/-! ## Differences -/

/-- each sample less the one before it; the first has none -/
def deltas (previous : Float) : List Float → List Float
  | [] => []
  | x :: rest => (x - previous) :: deltas x rest

def derivative : Function :=
  (Mapping.perSeries fun _ _ => .ok fun s =>
    reshaped s s!"derivative({s.name})" (deltas Decimal.nan s.values) "derivative" "1").toFunction
    [{ name := "derivative", group := "Transform", text := "Difference between each point and the one before it.",
       params := [seriesList] }]

/-- growth of a counter from `previous` to `value`, either of which may be missing, and the value to go on from.

A value outside the bounds is missing, and so is the growth behind it. A counter that fell has wrapped at `greatest` if
that is known, or else begun again at `least` if that is. -/
def counterGrowth {α : Type} [LT α] [LE α] [DecidableLT α] [DecidableLE α] [Add α] [Sub α] [OfNat α 0] [OfNat α 1]
    (greatest least : Option α) (previous value : Option α) : Option α × Option α :=
  match value with
  | none => (none, none)
  | some x =>
    if greatest.any (fun m => decide (m < x)) || least.any (fun m => decide (x < m)) then (none, none)
    else match previous with
      | none => (none, some x)
      | some p =>
        if p ≤ x then (some (x - p), some x)
        else match greatest, least with
          | some g, l => (some (g + 1 + x - p - l.getD 0), some x)
          | none, some l => (some (x - l), some x)
          | none, none => (none, some x)

/-- growth of a counter at each sample -/
def counterGrowths {α : Type} [LT α] [LE α] [DecidableLT α] [DecidableLE α] [Add α] [Sub α] [OfNat α 0] [OfNat α 1]
    (greatest least : Option α) (previous : Option α) : List (Option α) → List (Option α)
  | [] => []
  | x :: rest =>
    let (growth, next) := counterGrowth greatest least previous x
    growth :: counterGrowths greatest least next rest

/-- a sample, if it is present -/
def ofSample (x : Float) : Option Float :=
  if x.isNaN then none else some x

def nonNegativeDerivative : Function :=
  (Mapping.perSeries fun c _ => do
    let greatest ← c.float? "maxValue" 1
    let least ← c.float? "minValue" 2
    .ok fun s =>
      let growths := counterGrowths greatest least none (s.values.map ofSample)
      reshaped s s!"nonNegativeDerivative({s.name})" (growths.map (·.getD Decimal.nan)) "nonNegativeDerivative"
        "1").toFunction
    [{ name := "nonNegativeDerivative", group := "Transform",
       text := "Derivative of a counter; drops negative deltas unless a wrap can be computed.",
       params := [seriesList, { name := "maxValue", type := .float }, { name := "minValue", type := .float }] }]

/-! ## Running totals -/

/-- running total; a missing sample stays missing and adds nothing -/
def runningTotal (total : Float) : List Float → List Float
  | [] => []
  | x :: rest => if x.isNaN then Decimal.nan :: runningTotal total rest else (total + x) :: runningTotal (total + x) rest

def integral : Function :=
  (Mapping.perSeries fun _ _ => .ok fun s =>
    reshaped s s!"integral({s.name})" (runningTotal 0.0 s.values) "integral" "1").toFunction
    [{ name := "integral", group := "Transform", text := "Running total of every point.", params := [seriesList] }]

/-- running total that starts again where a sample lies in another interval, counted from `origin`, than the time one
step before it -/
def totalByInterval (origin interval step : Int) (total : Float) : List (Int × Float) → List Float
  | [] => []
  | (t, x) :: rest =>
    let t := t - origin
    let total := if t / interval = (t - step) / interval then total else 0.0
    let total := if x.isNaN then total else total + x
    total :: totalByInterval origin interval step total rest

def integralByInterval : Function :=
  (Mapping.perSeries fun c w => do
    let unit ← c.stringOr "intervalUnit" 1 ""
    let interval ← positive c (← c.intervalOr "intervalUnit" 1 1 0).natAbs
    .ok fun s =>
      reshaped s s!"integralByInterval({s.name},'{unit}')" (totalByInterval w.start interval s.step 0.0 s.samples)
        "integralByInterval" unit).toFunction
    [{ name := "integralByInterval", group := "Transform",
       text := "Running total that resets at every interval boundary counted from the query start.",
       params := [seriesList, { name := "intervalUnit", type := .interval, required := true }] }]

/-! ## Gaps -/

/-- a gap of `run` points behind the last present sample, filled with it if it is short enough -/
def closeGap (limit : Float) (last : Float) (run : Nat) : List Float :=
  List.replicate run (if Float.ofNat run ≤ limit then last else Decimal.nan)

/-- samples behind a present one and a gap of `run` points, gaps filled that are short enough -/
def fillGaps (limit : Float) (last : Float) (run : Nat) : List Float → List Float
  | [] => closeGap limit last run
  | x :: rest => if x.isNaN then fillGaps limit last (run + 1) rest else closeGap limit last run ++ x :: fillGaps limit x 0 rest

/-- gaps of at most `limit` points filled with the sample in front of them; what is missing at the start stays so -/
def keepLast (limit : Float) : List Float → List Float
  | [] => []
  | x :: rest => if x.isNaN then x :: keepLast limit rest else x :: fillGaps limit x 0 rest

def keepLastValue : Function :=
  (Mapping.perSeries fun c _ => do
    let limit ← c.floatOr "limit" 1 (Decimal.infinity false)
    .ok fun s =>
      reshaped s s!"keepLastValue({s.name})" (keepLast limit s.values) "keepLastValue" (Decimal.plainText limit)).toFunction
    [{ name := "keepLastValue", group := "Transform",
       text := "Fill gaps of at most \x60limit\x60 points with the last value seen.",
       params := [seriesList, { name := "limit", type := .integer, default := some (.string "INF") }] }]

/-- whether some series has a sample present at an index -/
def anyPresentAt (series : List Series) (index : Nat) : Bool :=
  series.any fun s => (s.values[index]?).any fun v => !v.isNaN

/-- missing samples replaced by a default, where there is a reference only at indexes it has a sample for -/
def fillMissing (default : Float) (reference : Option (List Series)) (xs : List Float) : List Float :=
  xs.zipIdx.map fun (x, i) =>
    if !x.isNaN then x
    else match reference with
      | none => default
      | some series => if anyPresentAt series i then default else Decimal.nan

/-- the reference series of a call, if it has any -/
def referenceOf (ops : Operands) (c : Call) (w : Time.Window) : Eval (Option (List Series)) := do
  match c.named? "referenceSeries", ops.named.get? "referenceSeries" with
  | some e, some arg => some <$> seriesOf c 2 e arg w
  | _, _ =>
    if (c.arg? 2).isSome then some <$> seriesAt ops c 2 w else pure none

def transformNull : Function where
  descriptions :=
    [{ name := "transformNull", group := "Transform",
       text := "Replace missing points with a default, optionally only where a reference series has data.",
       params := [seriesList, { name := "default", type := .float, default := some (.int 0) },
         { name := "referenceSeries", type := .seriesList }] }]
  evaluate ops c w := do
    let series ← seriesAt ops c 0 w
    let default ← c.floatOr "default" 1 0.0
    let reference ← referenceOf ops c w
    let suffix := if reference.isSome then ",referenceSeries" else ""
    let text := Decimal.plainText default
    pure <| series.map fun s =>
      reshaped s s!"transformNull({s.name},{text}{suffix})" (fillMissing default reference s.values) "transformNull" text

/-! ## Display -/

def consolidateBy : Function :=
  (Mapping.perSeries fun c _ => do
    let reducerName ← c.stringOr "consolidationFunc" 1 ""
    let _ ← reducerNamed reducerName
    .ok fun s =>
      { reshaped s s!"consolidateBy({s.name},\"{reducerName}\")" s.values "consolidateBy" reducerName with
        reducerName := reducerName }).toFunction
    [{ name := "consolidateBy", group := "Special",
       text := "Set the reducer used when the series is downsampled for display.",
       params := [seriesList, { reducerParam "consolidationFunc" with required := true }] }]

def transforming : List Function :=
  [absolute, scale, offset, derivative, nonNegativeDerivative, integral, integralByInterval, keepLastValue,
    transformNull, consolidateBy]

end MetricQuery.Builtin
