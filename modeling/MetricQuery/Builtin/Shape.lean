/-
The shapes that most functions have.

A function takes one list of series as its first argument, evaluates it over the window it announces, and turns the list
into another. `Mapping` is that shape: what it reads off the call before the series are evaluated, the window, and what it
does with the series. Because the window is one component, fetching and evaluation cannot disagree on it.
-/
import MetricQuery.Engine.Evaluation

namespace MetricQuery.Builtin

open Target (Expr Call)
open Time (Window)

/-! ## Series arguments -/

/-- an argument as series; literals are refused -/
def seriesOf (c : Call) (index : Nat) (e : Expr) (arg : Windowed) : Windowed := fun w => do
  if !e.isSeries then throw (.missingTimeSeries c.function index)
  arg w

/-- the positional argument at a place, as series -/
def seriesAt (ops : Operands) (c : Call) (index : Nat) : Windowed := fun w =>
  match c.args[index]?, ops.args[index]? with
  | some e, some arg => seriesOf c index e arg w
  | _, _ => throw (.missingArgument c.function (Arguments.placeName index))

/-- every positional argument as series, each with its expression -/
def seriesPerArg (ops : Operands) (c : Call) (w : Window) : Eval (List (Expr × List Series)) :=
  (c.args.zip ops.args).zipIdx.mapM fun ((e, arg), index) => do
    let series ← seriesOf c index e arg w
    pure (e, series)

/-- a positional argument that may give one series at most -/
def singleSeriesAt (ops : Operands) (c : Call) (index : Nat) (w : Window) : Eval (Option Series) := do
  match ← seriesAt ops c index w with
  | [] => pure none
  | [s] => pure (some s)
  | many => throw (.wildcardNotAllowed c.function many.length)

/-! ## Functions of one list of series -/

/-- a function from one list of series to another -/
structure Mapping where
  /-- what the function reads off the call before its series are evaluated -/
  Early : Type
  early : Call → Except EvalError Early
  window : Call → Window → Except EvalError Window
  finish : Call → Early → Window → List Series → Except EvalError (List Series)

/-- a function that evaluates its series over its own window and reads its other arguments after them -/
def Mapping.simple (finish : Call → Window → List Series → Except EvalError (List Series)) : Mapping where
  Early := Unit
  early _ := .ok ()
  window _ w := .ok w
  finish c _ w series := finish c w series

/-- a function that reads its other arguments and then changes each series by itself -/
def Mapping.perSeries (read : Call → Window → Except EvalError (Series → Series)) : Mapping :=
  .simple fun c w series => do
    let f ← read c w
    .ok (series.map f)

def Mapping.toFunction (m : Mapping) (descriptions : List Description) : Function where
  descriptions := descriptions
  window := m.window
  evaluate ops c w := do
    let early ← m.early c
    let inner ← m.window c w
    let series ← seriesAt ops c 0 inner
    m.finish c early w series

/-! ## Parts of descriptions -/

/-- the first parameter of most functions -/
def seriesList : Param := { name := "seriesList", type := .seriesList, required := true }

/-- a parameter that names a reducer -/
def reducerParam (name : String) : Param := { name := name, type := .aggFunc, options := Reducer.names }

/-! ## Checks -/

/-- the reducer that a query names -/
def reducerNamed (name : String) : Except EvalError Reducer :=
  match Reducer.ofName? name with
  | some r => .ok r
  | none => .error (.unsupportedReducer name)

/-- an interval that must be positive -/
def positive (c : Call) (seconds : Int) : Except EvalError Int :=
  if seconds ≤ 0 then .error (.invalidArgument c.function (.intervalNotPositive seconds)) else .ok seconds

/-- a time moved by some seconds, refused where no time can be that far away -/
def moved (t offset : Int) : Except EvalError Int :=
  match Time.checked (t + offset) with
  | some t => .ok t
  | none => .error (.invalidInterval s!"{offset}s from {t}")

end MetricQuery.Builtin
