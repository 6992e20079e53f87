/-
Functions that put samples into buckets of time.

Buckets have the same width and follow one another from some start on. `summarize` and `smartSummarize` reduce the
samples taken in each bucket; `hitcount` takes samples for rates and spreads the hits of each over the buckets it covers.
A grid of buckets that cannot be kept in 64 bits is an invalid interval.
-/
import MetricQuery.Builtin.Shift
import MetricQuery.Time.Calendar

namespace MetricQuery.Builtin

open Target (Call)
open Time (Window)

/-! ## Buckets -/

/-- index of the bucket of a time -/
def bucketOf (start interval t : Int) : Int :=
  (t - start) / interval

/-- the samples of a series in each of `count` buckets, in order -/
def buckets (s : Series) (start interval : Int) (count : Nat) : List (List Float) :=
  let placed := s.samples.map fun (t, v) => (bucketOf start interval t, v)
  (List.range count).map fun k => (placed.filter fun (i, _) => i == (k : Int)).map Prod.snd

/-- samples reduced bucket by bucket, each gated by the x-files factor of the series -/
def bucketize (s : Series) (start interval : Int) (count : Nat) (r : Reducer) : List Float :=
  (buckets s start interval count).map fun b => r.reduce b s.xFilesFactor

/-- number and end of the buckets from `start` on that cover everything up to `stop` -/
def grid (start stop interval : Int) : Except EvalError (Nat × Int) :=
  let found := do
    let span ← Time.checked (stop - start)
    let count := bucketCount span interval
    let width ← Time.checked (count * interval)
    let stop ← Time.checked (start + width)
    some (count, stop)
  match found with
  | some g => .ok g
  | none => .error (.invalidInterval s!"{interval}s")

/-- the interval of a call, by place, without its sign -/
def intervalOf (c : Call) : Except EvalError Int := do
  positive c (← c.intervalAt 1 1).natAbs

/-! ## Summaries -/

def summarize : Function :=
  (Mapping.simple fun c _ series => do
    let text := c.plainText "intervalString" 1
    let interval ← intervalOf c
    let reducerName ← c.stringOr "func" 2 "sum"
    let r ← reducerNamed reducerName
    let alignToFrom ← c.boolOr "alignToFrom" 3 false
    series.mapM fun s => do
      let start ← if alignToFrom then .ok s.start else moved s.start (-(s.start % interval))
      let (count, _) ← grid start s.stop interval
      let suffix := if alignToFrom then ", true" else ""
      let shell := s.shell s!"summarize({s.name}, \"{text}\", \"{reducerName}\"{suffix})"
      .ok (((shell.onGrid start interval (bucketize s start interval count r)).withTag "summarize" text).withTag
        "summarizeFunction" reducerName)).toFunction
    [{ name := "summarize", group := "Transform",
       text := "Rebucket into fixed intervals aligned to the clock, or to the series start.",
       params := [seriesList, { name := "intervalString", type := .interval, required := true },
         { reducerParam "func" with default := some (.string "sum") },
         { name := "alignToFrom", type := .boolean, default := some (.bool false) }] }]

/-- the unit that the start of the window is aligned to, if any -/
def alignmentOf (c : Call) : Except EvalError (Option String) :=
  c.string? "alignTo" 3

def smartSummarize : Function :=
  ({ Early := Unit
     early := fun _ => .ok ()
     window := fun c w => do
       match ← alignmentOf c with
       | some unit => .ok ⟨← (Time.alignStart w.start unit).mapError EvalError.ofInterval, w.stop⟩
       | none => .ok w
     finish := fun c _ _ series => do
       let text := c.plainText "intervalString" 1
       let interval ← intervalOf c
       let reducerName ← c.stringOr "func" 2 "sum"
       let r ← reducerNamed reducerName
       let suffix := (← alignmentOf c).elim "" fun unit => s!",'{unit}'"
       series.mapM fun s => do
         let (count, _) ← grid s.start s.stop interval
         let shell := s.shell s!"smartSummarize({s.name},'{text}','{reducerName}'{suffix})"
         .ok (((shell.onGrid s.start interval (bucketize s s.start interval count r)).withTag
           "smartSummarize" (toString interval)).withTag "smartSummarizeFunction" reducerName) : Mapping }).toFunction
    [{ name := "smartSummarize", group := "Transform",
       text := "Rebucket into fixed intervals counted from the series start, optionally aligning the query start first.",
       params := [seriesList, { name := "intervalString", type := .interval, required := true },
         { reducerParam "func" with default := some (.string "sum") },
         { name := "alignTo", type := .string,
           suggestions := ["seconds", "minutes", "hours", "days", "weeks", "months", "years"].map .string }] }]

/-! ## Hits -/

/-- how many seconds of a sample from `t` to `stop` fall into which buckets, of which `last` is the last one.

What reaches beyond the last bucket counts as filling it to its end. -/
def shares (start interval : Int) (last : Int) (t stop : Int) : List (Int × Int) :=
  let first := (t - start) / interval
  let before := (t - start) % interval
  let (final, within) :=
    if last < (stop - start) / interval then (last, interval) else ((stop - start) / interval, (stop - start) % interval)
  if first = final then [(first, within - before)]
  else
    let between := (List.range (final - first - 1).toNat).map fun (k : Nat) => (first + 1 + (k : Int), interval)
    (first, interval - before) :: between ++ (if 0 < within then [(final, within)] else [])

/-- some hits more in one bucket; a bucket that is not there takes none -/
def addHits (totals : List (Option Float)) (index : Int) (hits : Float) : List (Option Float) :=
  if index < 0 then totals else totals.modify index.toNat fun total => some (total.getD 0.0 + hits)

/-- the hits of each bucket, missing where no sample reaches -/
def hits (s : Series) (start interval : Int) (count : Nat) : List Float :=
  let totals := s.samples.foldl (fun totals (t, v) =>
      if v.isNaN then totals
      else (shares start interval ((count : Int) - 1) t (t + s.step)).foldl
        (fun totals (index, weight) => addHits totals index (v * Float.ofInt weight)) totals)
    (List.replicate count none)
  totals.map fun total => total.getD Decimal.nan

def hitcountAligned (c : Call) : Except EvalError Bool :=
  c.boolOr "alignToInterval" 2 false

/-- the day, hour or minute that an interval is at least as long as -/
def enclosingUnit (interval : Int) : Option Int :=
  if 86400 ≤ interval then some 86400
  else if 3600 ≤ interval then some 3600
  else if 60 ≤ interval then some 60
  else none

def hitcount : Function :=
  ({ Early := Unit
     early := fun _ => .ok ()
     window := fun c w => do
       if ← hitcountAligned c then
         match enclosingUnit (← c.intervalAt 1 1).natAbs with
         | some unit => .ok ⟨← moved w.start (-(w.start % unit)), w.stop⟩
         | none => .ok w
       else .ok w
     finish := fun c _ _ series => do
       let text := c.plainText "intervalString" 1
       let interval ← intervalOf c
       let aligned ← hitcountAligned c
       series.mapM fun s => do
         let (count, stop) ← grid s.start s.stop interval
         let start ← if aligned then .ok s.start else moved s.stop (s.start - stop)
         let suffix := if aligned then ", true" else ""
         let shell := s.shell s!"hitcount({s.name}, \"{text}\"{suffix})"
         .ok ((shell.onGrid start interval (hits s start interval count)).withTag "hitcount" text) : Mapping }).toFunction
    [{ name := "hitcount", group := "Transform",
       text := "Turn a rate into hit counts per interval, spreading each sample over the buckets it covers.",
       params := [seriesList, { name := "intervalString", type := .interval, required := true },
         { name := "alignToInterval", type := .boolean, default := some (.bool false) }] }]

def rebucketing : List Function := [summarize, smartSummarize, hitcount]

end MetricQuery.Builtin
