/-
Literal arguments of a call, read as the type a function wants.

Arguments are found by place, or by key and otherwise by place. A string may hold a number or a truth value; an interval
is a string such as `5min` or a number of seconds. A bare `None` stands for an optional argument that was left out. An
argument of the wrong kind is refused under the name of the function and of the parameter, which by place is `#1`, `#2`, ….
-/
import MetricQuery.Engine.Error
import MetricQuery.Series.Path
import MetricQuery.Target.Printer
import MetricQuery.Decimal.Reader

namespace MetricQuery

open Target (Expr Call)

/-- a float cut to a whole number, at most what 64 bits hold; zero for what is not a number -/
def truncate (x : Float) : Int :=
  x.toModel.toInt64.toInt

namespace Arguments

/-- whether an expression is the bare word `None` -/
def isNone : Expr → Bool
  | .name path => path == "None"
  | _ => false

def badType (c : Call) (param expected : String) (got : Expr) : EvalError :=
  .badType c.function param expected got.kind

/-- what messages call the parameter at an index -/
def placeName (index : Nat) : String :=
  s!"#{index + 1}"

/-! ## One argument -/

def asString (c : Call) (param : String) : Expr → Except EvalError String
  | .string value _ => .ok value
  | e => .error (badType c param "string" e)

def asFloat (c : Call) (param : String) : Expr → Except EvalError Float
  | .number value _ => .ok value
  | .string value quote =>
    match Decimal.readFloat (Text.trim value.toList) with
    | some x => .ok x
    | none => .error (badType c param "float" (.string value quote))
  | e => .error (badType c param "float" e)

def asInt (c : Call) (param : String) (e : Expr) : Except EvalError Int := do
  let x ← asFloat c param e
  if x.isFinite then .ok (truncate x) else .error (badType c param "integer" e)

def asBool (c : Call) (param : String) : Expr → Except EvalError Bool
  | .flag b => .ok b
  | .number value _ => .ok (value != 0.0)
  | .string value quote =>
    if Target.isWordAnyCase value "true" then .ok true
    else if Target.isWordAnyCase value "false" then .ok false
    else .error (badType c param "boolean" (.string value quote))
  | e => .error (badType c param "boolean" e)

/-- two to the power 63, the first size of seconds that is no interval -/
def intervalLimit : Float := 9223372036854775808.0

/-- seconds; a string without a sign takes `defaultSign` -/
def asInterval (c : Call) (param : String) (defaultSign : Int) : Expr → Except EvalError Int
  | .string value _ => (Time.parseInterval value defaultSign).mapError EvalError.ofInterval
  | .number value literal =>
    if value.isFinite && value.abs < intervalLimit then .ok (truncate value) else .error (.invalidInterval literal)
  | e => .error (badType c param "interval" e)

end Arguments

/-! ## Arguments of a call -/

end MetricQuery

namespace MetricQuery.Target.Call

open MetricQuery Arguments

/-- the argument at a place, which must be there -/
def at? (c : Call) (index : Nat) : Except EvalError Expr :=
  match c.arg? index with
  | some e => .ok e
  | none => .error (.missingArgument c.function (placeName index))

def stringAt (c : Call) (index : Nat) : Except EvalError String := do
  asString c (placeName index) (← c.at? index)

def floatAt (c : Call) (index : Nat) : Except EvalError Float := do
  asFloat c (placeName index) (← c.at? index)

def intAt (c : Call) (index : Nat) : Except EvalError Int := do
  asInt c (placeName index) (← c.at? index)

def boolAt (c : Call) (index : Nat) : Except EvalError Bool := do
  asBool c (placeName index) (← c.at? index)

def intervalAt (c : Call) (index : Nat) (defaultSign : Int) : Except EvalError Int := do
  asInterval c (placeName index) defaultSign (← c.at? index)

/-- the argument under a key or at a place, unless it is a bare `None` -/
def given? (c : Call) (key : String) (index : Nat) : Option Expr :=
  (c.namedOrAt? key index).filter fun e => !isNone e

/-- an optional argument, or its default -/
def orDefault {α : Type} (c : Call) (key : String) (index : Nat) (read : Expr → Except EvalError α) (default : α) :
    Except EvalError α :=
  match c.given? key index with
  | some e => read e
  | none => .ok default

def stringOr (c : Call) (key : String) (index : Nat) (default : String) : Except EvalError String :=
  c.orDefault key index (asString c key) default

def floatOr (c : Call) (key : String) (index : Nat) (default : Float) : Except EvalError Float :=
  c.orDefault key index (asFloat c key) default

def intOr (c : Call) (key : String) (index : Nat) (default : Int) : Except EvalError Int :=
  c.orDefault key index (asInt c key) default

def boolOr (c : Call) (key : String) (index : Nat) (default : Bool) : Except EvalError Bool :=
  c.orDefault key index (asBool c key) default

def intervalOr (c : Call) (key : String) (index : Nat) (defaultSign default : Int) : Except EvalError Int :=
  c.orDefault key index (asInterval c key defaultSign) default

/-- an optional number; nothing where it was left out -/
def float? (c : Call) (key : String) (index : Nat) : Except EvalError (Option Float) :=
  c.orDefault key index (fun e => some <$> asFloat c key e) none

/-- an optional string; nothing where it was left out -/
def string? (c : Call) (key : String) (index : Nat) : Except EvalError (Option String) :=
  c.orDefault key index (fun e => some <$> asString c key e) none

/-- the positional arguments from a place on, with their places -/
def argsFrom (c : Call) (index : Nat) : List (Expr × Nat) :=
  c.args.zipIdx.drop index

/-- every positional argument from a place on, as a whole number -/
def intsFrom (c : Call) (index : Nat) : Except EvalError (List Int) :=
  (c.argsFrom index).mapM fun (e, i) => asInt c (placeName i) e

/-- a string selects a tag, anything else must be the index of a node -/
def asSelector (c : Call) (param : String) : Expr → Except EvalError Selector
  | .string key _ => .ok (.tag key)
  | e => Selector.node <$> asInt c param e

/-- every positional argument from a place on, as a selector -/
def selectorsFrom (c : Call) (index : Nat) : Except EvalError (List Selector) :=
  (c.argsFrom index).mapM fun (e, i) => asSelector c (placeName i) e

/-- an argument as written, empty where there is none -/
def literalText (c : Call) (key : String) (index : Nat) : String :=
  ((c.namedOrAt? key index).map Expr.render).getD ""

/-- an argument as written but without quotes, empty where there is none -/
def plainText (c : Call) (key : String) (index : Nat) : String :=
  match c.namedOrAt? key index with
  | some (.string value _) => value
  | some e => e.render
  | none => ""

end MetricQuery.Target.Call
