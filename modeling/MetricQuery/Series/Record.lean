/-
Series as JSON records.

A missing sample is null. Tags, factor, reducer and path may be left out of a record; in writing every field stands.
-/
import MetricQuery.Series.Basic
import MetricQuery.Json.Value

namespace MetricQuery.Series

/-- fields of a record, in the order of a record given by place -/
def fieldNames : List String :=
  ["name", "tags", "values", "startTime", "stopTime", "stepTime", "xFilesFactor", "consolidationFunc", "pathExpression"]

def ofJson? (j : Json) : Option Series := do
  let r ← j.record? fieldNames
  some {
    name := ← r.required 0 Json.toString?
    tags := ← r.withDefault 1 Json.toTexts? []
    values := ← r.required 2 fun j => j.toArray?.bind (List.mapM Json.toSample?)
    start := ← r.required 3 Json.toInt?
    stop := ← r.required 4 Json.toInt?
    step := ← r.required 5 Json.toInt?
    xFilesFactor := ← r.withDefault 6 Json.toFloat32? 0.0
    reducerName := ← r.withDefault 7 Json.toString? defaultReducerName
    path := ← r.withDefault 8 Json.toString? "" }

def sampleJson (x : Float) : Json :=
  if x.isNaN then .null else .ofFloat x

def toJson (s : Series) : Json :=
  .object [("name", .string s.name), ("tags", .ofTexts s.tags), ("values", .array (s.values.map sampleJson)),
    ("startTime", .ofInt s.start), ("stopTime", .ofInt s.stop), ("stepTime", .ofInt s.step),
    ("xFilesFactor", .ofFloat s.xFilesFactor.toFloat), ("consolidationFunc", .string s.reducerName),
    ("pathExpression", .string s.path)]

end MetricQuery.Series
