/-
Descriptions of functions: what a function list shows, and the schema that calls are checked against.

A call may not have more positional arguments than there are parameters, unless one of them is variadic, and each required
parameter must be given by name or at its place.
-/
import MetricQuery.Engine.Error
import MetricQuery.Json.Value

namespace MetricQuery

/-- type of a parameter -/
inductive ParamType where
  | seriesList
  | seriesLists
  | string
  | integer
  | float
  | boolean
  | interval
  | intOrInterval
  | aggFunc
  | nodeOrTag
  | any
  deriving DecidableEq, Repr

def ParamType.name : ParamType → String
  | .seriesList => "seriesList"
  | .seriesLists => "seriesLists"
  | .string => "string"
  | .integer => "integer"
  | .float => "float"
  | .boolean => "boolean"
  | .interval => "interval"
  | .intOrInterval => "intOrInterval"
  | .aggFunc => "aggFunc"
  | .nodeOrTag => "nodeOrTag"
  | .any => "any"

/-- a default or a suggestion -/
inductive ParamValue where
  | bool (b : Bool)
  | int (n : Int)
  | float (x : Float)
  | string (s : String)

namespace ParamValue

def toJson : ParamValue → Json
  | .bool b => .bool b
  | .int n => .ofInt n
  | .float x => .ofFloat x
  | .string s => .string s

/-- the value as a signature shows it -/
def text : ParamValue → String
  | .bool b => if b then "True" else "False"
  | .int n => toString n
  | .float x => Decimal.plainText x
  | .string s => s!"'{s}'"

end ParamValue

/-- one parameter of a function -/
structure Param where
  name : String
  type : ParamType
  required : Bool := false
  /-- takes all positional arguments from its place on -/
  variadic : Bool := false
  default : Option ParamValue := none
  suggestions : List ParamValue := []
  options : List String := []

namespace Param

/-- the parameter as a signature shows it -/
def text (p : Param) : String :=
  if p.variadic then s!"*{p.name}"
  else match p.default with
    | some v => s!"{p.name}={v.text}"
    | none => if p.required then p.name else s!"{p.name}=None"

/-- members that say no more than their absence are left out -/
def toJson (p : Param) : Json :=
  .object <|
    [("name", .string p.name), ("type", .string p.type.name)] ++
    (if p.required then [("required", .bool true)] else []) ++
    (if p.variadic then [("multiple", .bool true)] else []) ++
    (p.default.toList.map fun v => ("default", v.toJson)) ++
    (if p.suggestions.isEmpty then [] else [("suggestions", .array (p.suggestions.map ParamValue.toJson))]) ++
    (if p.options.isEmpty then [] else [("options", .array (p.options.map .string))])

end Param

/-- one name that a function answers to -/
structure Description where
  name : String
  group : String
  text : String
  params : List Param

namespace Description

/-- name and parameters on one line -/
def signature (d : Description) : String :=
  d.name ++ "(" ++ ", ".intercalate (d.params.map Param.text) ++ ")"

/-- the module that every description names -/
def moduleName : String := "graphex.functions"

def toJson (d : Description) : Json :=
  .object [("name", .string d.name), ("function", .string d.signature), ("description", .string d.text),
    ("module", .string moduleName), ("group", .string d.group), ("params", .array (d.params.map Param.toJson))]

/-- the same function under another name -/
def under (d : Description) (name : String) : Description :=
  { d with name := name }

/-- the first required parameter, from place `index` on, that a call does not give -/
def missingFrom (c : Target.Call) (index : Nat) : List Param → Option Param
  | [] => none
  | p :: rest => if p.required && !c.hasArg p.name index then some p else missingFrom c (index + 1) rest

/-- checks number and presence of the arguments of a call -/
def validate (d : Description) (c : Target.Call) : Except EvalError Unit :=
  if !d.params.any Param.variadic && d.params.length < c.args.length then .error (.tooManyArguments c.function)
  else match missingFrom c 0 d.params with
    | some p => .error (.missingArgument c.function p.name)
    | none => .ok ()

end Description

end MetricQuery
