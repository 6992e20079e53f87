/-
Stores: fixed sets of series that answer requests.

A request is answered with the series whose metric path its glob matches, cut to its window; series without a sample in
the window are left out. A store is read from a JSON array of records with name, start, step and values, and optionally
tags, an x-files factor and a reducer.
-/
import MetricQuery.Engine.Evaluation
import MetricQuery.Glob
import MetricQuery.Json.Reader

namespace MetricQuery

abbrev Store := List Series

namespace Store

/-! ## Answers -/

/-- the series that match a request, cut to its window -/
def answer (store : Store) (request : Request) : Except SourceFault (List Series) :=
  match Glob.compile request.metric with
  | none => .error (.badPattern request.metric)
  | some glob =>
    .ok <| (store.filter fun s => glob.accepts s.nameTag).filterMap fun s =>
      (s.slice request.window).map fun s => { s with path := request.metric }

/-- the store as a source of series: each request of a batch is answered by itself -/
def source (store : Store) : Source := fun batch =>
  batch.mapM fun request => do
    .ok (request, ← store.answer request)

/-! ## Reading -/

/-- why a text is no store -/
inductive Fault where
  | malformed
  | badStep (name : String) (step : Int)
  deriving DecidableEq, Repr

def Fault.message : Fault → String
  | .malformed => "invalid fixture JSON"
  | .badStep name step => s!"fixture '{name}' has non-positive step {step}"

/-- one series as a record holds it -/
structure Fixture where
  name : String
  start : Int
  step : Int
  values : List Float
  tags : Keyed String
  xFilesFactor : Option Float32
  reducerName : Option String

/-- what is taken for a series whose record does not say -/
structure Defaults where
  reducerName : String := Series.defaultReducerName
  xFilesFactor : Float32 := 0.0

def Fixture.ofJson? (j : Json) : Option Fixture := do
  let r ← j.record? ["name", "start", "step", "values", "tags", "xFilesFactor", "consolidationFunc"]
  some {
    name := ← r.required 0 Json.toString?
    start := ← r.required 1 Json.toInt?
    step := ← r.required 2 Json.toInt?
    values := ← r.required 3 fun j => j.toArray?.bind (List.mapM Json.toSample?)
    tags := ← r.withDefault 4 Json.toTexts? []
    xFilesFactor := ← r.nullable 5 Json.toFloat32?
    reducerName := ← r.nullable 6 Json.toString? }

def Fixture.toSeries (f : Fixture) (defaults : Defaults) : Series :=
  let s := Series.ofSamples f.name f.values f.step f.start
  { s with
    tags := s.tags.insertAll f.tags
    xFilesFactor := f.xFilesFactor.getD defaults.xFilesFactor
    reducerName := f.reducerName.getD defaults.reducerName }

def ofJson (j : Json) (defaults : Defaults) : Except Fault Store :=
  match j.toArray?.bind (List.mapM Fixture.ofJson?) with
  | none => .error .malformed
  | some fixtures =>
    match fixtures.find? fun f => f.step ≤ 0 with
    | some f => .error (.badStep f.name f.step)
    | none => .ok (fixtures.map fun f => f.toSeries defaults)

/-- the store that a JSON text describes -/
def parse (text : String) (defaults : Defaults) : Except Fault Store :=
  match Json.parse text with
  | some j => ofJson j defaults
  | none => .error .malformed

end Store

end MetricQuery
