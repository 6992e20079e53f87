/-
Reducers: a window of samples made into one value.

Missing samples are floats that are not numbers. They are dropped before a reducer sees the window, but still count for
the x-files factor, the least share of samples that must be present for the window to have a value.

Percentiles are by nearest rank: the least sample with at least that share of the samples at or below it, so the median
of an even number of samples is the lower of the two in the middle.
-/
import MetricQuery.Decimal.Shortest
import MetricQuery.Decimal.Reader

namespace MetricQuery

/-- a way to make one value of many -/
inductive Reducer where
  | sum
  | average
  | min
  | max
  | last
  | range
  | median
  | multiply
  | diff
  | count
  | stddev
  /-- nearest-rank percentile, between 0 and 100 -/
  | percentile (p : Float)

namespace Reducer

/-! ## Names -/

/-- names and aliases of the reducers other than percentiles -/
def names : List String :=
  ["sum", "total", "avg", "average", "min", "max", "last", "current", "range", "rangeOf", "median", "multiply", "diff",
    "count", "stddev"]

/-- whether a share in percent lies between 0 and 100 -/
def isPercent (p : Float) : Bool :=
  0.0 ≤ p && p ≤ 100.0

/-- the reducer that a name, an alias or a percentile such as `p99.5` stands for -/
def ofName? (name : String) : Option Reducer :=
  match name with
  | "sum" | "total" => some .sum
  | "avg" | "average" => some .average
  | "min" => some .min
  | "max" => some .max
  | "last" | "current" => some .last
  | "range" | "rangeOf" => some .range
  | "median" => some .median
  | "multiply" => some .multiply
  | "diff" => some .diff
  | "count" => some .count
  | "stddev" => some .stddev
  | _ =>
    match name.toList with
    | 'p' :: share => (Decimal.readFloat share).bind fun p => if isPercent p then some (.percentile p) else none
    | _ => none

def name : Reducer → String
  | .sum => "sum"
  | .average => "average"
  | .min => "min"
  | .max => "max"
  | .last => "last"
  | .range => "range"
  | .median => "median"
  | .multiply => "multiply"
  | .diff => "diff"
  | .count => "count"
  | .stddev => "stddev"
  | .percentile p => "p" ++ Decimal.plainText p

end Reducer

/-! ## Sums and extremes -/

namespace Samples

/-- the samples that are present -/
def present (xs : List Float) : List Float :=
  xs.filter fun x => !x.isNaN

/-- sum from the left; of no samples it is negative zero -/
def sum (xs : List Float) : Float :=
  xs.foldl (· + ·) (-0.0)

def product (xs : List Float) : Float :=
  xs.foldl (· * ·) 1.0

def mean (xs : List Float) : Float :=
  sum xs / Float.ofNat xs.length

/-- the least sample; infinity if there is none -/
def least (xs : List Float) : Float :=
  xs.foldl (fun a x => if x < a then x else a) (Decimal.infinity false)

/-- the greatest sample; negative infinity if there is none -/
def greatest (xs : List Float) : Float :=
  xs.foldl (fun a x => if a < x then x else a) (Decimal.infinity true)

/-- mean of the squared distances from the mean -/
def variance (xs : List Float) : Float :=
  let m := mean xs
  sum (xs.map fun x => (x - m) * (x - m)) / Float.ofNat xs.length

/-! ## Ranks -/

/-- key of the total order on floats: negative before positive, also for the zeros -/
def orderKey (x : Float) : Int :=
  let bits := x.toBits.toNat
  if Nat.pow 2 63 ≤ bits then -((bits - Nat.pow 2 63 : Nat) : Int) - 1 else bits

def sorted (xs : List Float) : List Float :=
  xs.mergeSort fun a b => orderKey a ≤ orderKey b

/-- the sample of nearest rank `p` percent -/
def nearestRank (xs : List Float) (p : Float) : Float :=
  let xs := present xs
  if xs = [] || !Reducer.isPercent p then Decimal.nan
  else
    let n := xs.length
    let rank := (p * Float.ofNat n / 100.0).ceil.toUInt64.toNat
    (sorted xs)[Nat.max 1 (Nat.min n rank) - 1]?.getD Decimal.nan

/-- the value `p` percent of the way from the least sample to the greatest, linear between neighbours -/
def interpolated (xs : List Float) (p : Float) : Float :=
  let xs := present xs
  if xs = [] || !Reducer.isPercent p then Decimal.nan
  else
    let sortedXs := sorted xs
    let position := p / 100.0 * Float.ofNat (xs.length - 1)
    let below := position.floor.toUInt64.toNat
    let lower := sortedXs[below]?.getD Decimal.nan
    let upper := sortedXs[position.ceil.toUInt64.toNat]?.getD Decimal.nan
    lower + (upper - lower) * (position - Float.ofNat below)

end Samples

/-! ## Reduction -/

/-- whether `present` of `total` samples reach the share `factor`; without a positive share one sample is enough -/
def reachesFactor (present total : Nat) (factor : Float32) : Bool :=
  if present = 0 ∨ total = 0 then false
  else if factor.isNaN || factor ≤ 0.0 then true
  else factor ≤ present.toFloat32 / total.toFloat32

namespace Reducer

/-- the value of samples that are all present; of none it is missing -/
def apply (r : Reducer) : List Float → Float
  | [] => Decimal.nan
  | x :: rest =>
    let xs := x :: rest
    match r with
    | .sum => Samples.sum xs
    | .average => Samples.mean xs
    | .min => Samples.least xs
    | .max => Samples.greatest xs
    | .last => rest.getLastD x
    | .range => Samples.greatest xs - Samples.least xs
    | .median => Samples.nearestRank xs 50.0
    | .multiply => Samples.product xs
    | .diff => x - Samples.sum rest
    | .count => Float.ofNat xs.length
    | .stddev => (Samples.variance xs).sqrt
    | .percentile p => Samples.nearestRank xs p

/-- the value of a window, missing samples dropped, if enough of it is present -/
def reduce (r : Reducer) (xs : List Float) (factor : Float32) : Float :=
  let present := Samples.present xs
  if reachesFactor present.length xs.length factor then r.apply present else Decimal.nan

/-- the value of a window under a reducer given by name; an unknown name has none -/
def summarize (name : String) (xs : List Float) (factor : Float32) : Float :=
  match ofName? name with
  | some r => r.reduce xs factor
  | none => Decimal.nan

/-- the reducer a series names for itself, or the average -/
def ofNameOrAverage (name : String) : Reducer :=
  (ofName? name).getD .average

end Reducer

end MetricQuery
