/-
Evaluation of targets.

A target is evaluated in two phases. First the requests of the whole tree are gathered and fetched in one batch; then the
tree is walked, and a name means the series held for it over the window it is evaluated in. A function sees its arguments
as maps from a window to series, so it decides over which window each is evaluated; the window it announces for gathering
is `Function.window`. A function that learns its window from the series themselves may fetch again.

`Engine.eval` gives each expression its meaning by recursion on the expression. Its effects are what is held and what was
asked of the source; both outlive a failure.
-/
import MetricQuery.Call.Description
import MetricQuery.Call.Arguments
import MetricQuery.Target.Reader

namespace MetricQuery

open Target (Expr Call)
open Time (Window)

/-! ## Effects -/

/-- what an evaluation leaves behind: the series held, and the batches asked of the source, in order -/
structure Progress where
  held : Holdings := []
  asked : List (List Request) := []

/-- a computation that may fail; its progress stays also then -/
abbrev Eval (α : Type) := ExceptT EvalError (StateM Progress) α

/-- series as a function of the window they are evaluated in -/
abbrev Windowed := Window → Eval (List Series)

/-- result and progress, from the given progress on -/
def Eval.runFrom {α : Type} (x : Eval α) (p : Progress) : Except EvalError α × Progress :=
  (ExceptT.run x).run p

/-! ## Functions -/

/-- the arguments of a call as series, and a way to fetch what an expression needs over a window -/
structure Operands where
  args : List Windowed
  named : Keyed Windowed
  fetch : Expr → Window → Eval Unit

/-- a function that targets can call -/
structure Function where
  /-- one description for each name the function answers to -/
  descriptions : List Description
  /-- the window its arguments are fetched over -/
  window : Call → Window → Except EvalError Window := fun _ w => .ok w
  evaluate : Operands → Call → Windowed

/-- a name that resolves to a function -/
structure Entry where
  function : Function
  description : Description

/-- functions by name -/
abbrev Registry := Keyed Entry

namespace Registry

/-- the function under every name it describes, in place of what was there -/
def register (registry : Registry) (f : Function) : Registry :=
  Keyed.insertAll registry (f.descriptions.map fun d => (d.name, ⟨f, d⟩))

def registerAll (registry : Registry) (fs : List Function) : Registry :=
  fs.foldl register registry

/-- all descriptions in order of name -/
def descriptions (registry : Registry) : List Description :=
  registry.map fun (_, e) => e.description

end Registry

/-! ## Gathering requests -/

/-- the entry a call resolves to -/
def Registry.resolve (registry : Registry) (name : String) : Except EvalError Entry :=
  match registry.get? name with
  | some e => .ok e
  | none => .error (.unknownFunction name)

mutual

/-- requests of an expression over a window, as often as they occur -/
def gather (registry : Registry) : Expr → Window → Except EvalError (List Request)
  | .name path, w => .ok [⟨path, w⟩]
  | .call f args named argText, w => do
    let entry ← registry.resolve f
    let inner ← entry.function.window ⟨f, args, named, argText⟩ w
    let first ← gatherAll registry args inner
    let second ← gatherNamed registry named inner
    .ok (first ++ second)
  | .number .., _ => .ok []
  | .string .., _ => .ok []
  | .flag _, _ => .ok []

def gatherAll (registry : Registry) : List Expr → Window → Except EvalError (List Request)
  | [], _ => .ok []
  | e :: es, w => do
    let first ← gather registry e w
    let rest ← gatherAll registry es w
    .ok (first ++ rest)

def gatherNamed (registry : Registry) : List (String × Expr) → Window → Except EvalError (List Request)
  | [], _ => .ok []
  | (_, e) :: es, w => do
    let first ← gather registry e w
    let rest ← gatherNamed registry es w
    .ok (first ++ rest)

end

/-- every request of an expression once, in order of first occurrence -/
def Registry.requests (registry : Registry) (e : Expr) (w : Window) : Except EvalError (List Request) :=
  List.eraseDups <$> gather registry e w

/-! ## Engines -/

/-- answers each request of a batch, possibly with no series -/
abbrev Source := List Request → Except SourceFault (List (Request × List Series))

structure Engine where
  registry : Registry
  source : Source
  cancelled : Bool := false

namespace Engine

/-- the requests of expressions that are not yet held, each once, in order of first occurrence -/
def lacking (g : Engine) (held : Holdings) (es : List Expr) (w : Window) : Except EvalError (List Request) := do
  let requests ← es.mapM fun e => g.registry.requests e w
  .ok ((requests.flatten.filter fun r => !held.holds r).eraseDups)

/-- fetches what the expressions need over a window and is not yet held; a cancelled evaluation does not ask, and may
also be cancelled after it has asked -/
def fetch (g : Engine) (es : List Expr) (w : Window) : Eval Unit := do
  let batch ← g.lacking (← get).held es w
  if batch ≠ [] then
    if g.cancelled then throw .cancelled
    modify fun p => { p with asked := p.asked ++ [batch] }
    match g.source batch with
    | .ok answers => modify fun p => { p with held := p.held.extend answers }
    | .error fault => throw (.ofSource fault)

/-- the series held for a request -/
def lookUp (request : Request) : Eval (List Series) := do
  match (← get).held.get? request with
  | some series => pure series
  | none => throw (.missingData request)

/-- the function a call names, applied to its operands if the call is valid -/
def apply (g : Engine) (c : Call) (args : List Windowed) (named : Keyed Windowed) : Windowed := fun w => do
  if g.cancelled then throw .cancelled
  let entry ← g.registry.resolve c.function
  entry.description.validate c
  entry.function.evaluate ⟨args, named, fun e inner => g.fetch [e] inner⟩ c w

/-- a literal where series are wanted -/
def notSeries (e : Expr) : EvalError :=
  .badType e.render "expression" "seriesList" e.kind

mutual

/-- the series an expression stands for over a window -/
def eval (g : Engine) : Expr → Windowed
  | .name path => fun w => lookUp ⟨path, w⟩
  | .call f args named argText => fun w =>
    g.apply ⟨f, args, named, argText⟩ (evalAll g args) (evalNamed g named) w
  | .number value literal => fun _ => throw (notSeries (.number value literal))
  | .string value quote => fun _ => throw (notSeries (.string value quote))
  | .flag value => fun _ => throw (notSeries (.flag value))

def evalAll (g : Engine) : List Expr → List Windowed
  | [] => []
  | e :: es => eval g e :: evalAll g es

def evalNamed (g : Engine) : List (String × Expr) → List (String × Windowed)
  | [] => []
  | (k, e) :: es => (k, eval g e) :: evalNamed g es

end

/-- a computation that starts with nothing held and leaves nothing behind but what it asked -/
def isolated {α : Type} (x : Eval α) : Eval α := ExceptT.mk do
  let outer ← get
  set { outer with held := [] }
  let result ← x.run
  modify fun p => { p with held := outer.held }
  pure result

/-- an expression fetched and evaluated on holdings of its own -/
def executeExpr (g : Engine) (e : Expr) (w : Window) : Eval (List Series) :=
  isolated do
    g.fetch [e] w
    g.eval e w

/-- a target read, fetched and evaluated on holdings of its own -/
def execute (g : Engine) (target : String) (w : Window) : Eval (List Series) := do
  match Target.parse target with
  | .ok e => g.executeExpr e w
  | .error error => throw (.parse error)

end Engine

end MetricQuery
