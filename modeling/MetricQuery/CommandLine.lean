/-
The command line: options, commands, and what a command prints.

`Options.parse` reads the arguments. Options may stand before or behind the command, but each only once in either place;
one behind it counts more. A value may follow in the same argument or be the next one, and `--` ends the options.

`run` carries a command out. It sees files, environment and clock as values and returns what is to be printed and
written, so nothing here reads or writes.
-/
import MetricQuery.Builtin.All
import MetricQuery.Json.Printer
import MetricQuery.Series.Consolidate
import MetricQuery.Series.Record
import MetricQuery.Settings
import MetricQuery.Store
import MetricQuery.Target.Outline

namespace MetricQuery.CommandLine

open Target (Expr)

/-! ## Commands -/

inductive Command where
  /-- shows the tree and the canonical form of a target -/
  | parse (target : String)
  /-- evaluates a target over the series of a file -/
  | eval (target data start stop : String) (maxPoints : Option Nat)
  /-- lists descriptions of functions -/
  | functions (name : Option String)
  /-- writes a settings file with the defaults -/
  | config (output : Option String)
  deriving DecidableEq, Repr

structure Options where
  settingsPath : Option String
  format : String
  command : Command
  deriving DecidableEq, Repr

/-- why arguments name no command -/
inductive Usage where
  | help
  | version
  | wrong
  deriving DecidableEq, Repr

/-! ## Options -/

/-- what an option accepts as its value -/
inductive ValueKind where
  | text
  | path
  /-- a text that may start with a minus sign -/
  | signedText
  | count
  deriving DecidableEq, Repr

structure OptionSpec where
  long : String
  short : Option Char
  kind : ValueKind

def commonOptions : List OptionSpec := [⟨"config", some 'c', .path⟩, ⟨"format", some 'f', .text⟩]

/-- the options of a command -/
def commandOptions : String → Option (List OptionSpec)
  | "parse" => some []
  | "eval" =>
    some [⟨"data", some 'd', .path⟩, ⟨"from", none, .signedText⟩, ⟨"until", none, .signedText⟩,
      ⟨"max-data-points", none, .count⟩]
  | "functions" => some [⟨"name", some 'n', .text⟩]
  | "config" => some [⟨"output", some 'o', .path⟩]
  | _ => none

/-- number of positional arguments of a command -/
def positionals : String → Nat
  | "parse" => 1
  | "eval" => 1
  | _ => 0

def OptionSpec.accepts (o : OptionSpec) (value : String) : Bool :=
  match o.kind with
  | .path => value ≠ ""
  | .count => (Settings.readCount value).isSome
  | _ => true

/-- whether an argument can be the value of the option in front of it -/
def OptionSpec.takesNext (o : OptionSpec) (arg : String) : Bool :=
  o.kind = .signedText || !arg.startsWith "-" || arg = "-"

/-- the values of options and the positional arguments met so far -/
structure Found where
  values : Keyed String := []
  args : List String := []

def Found.add (f : Found) (o : OptionSpec) (value : String) : Except Usage Found :=
  if (f.values.get? o.long).isSome || !o.accepts value then .error .wrong
  else .ok { f with values := f.values.insert o.long value }

/-- an argument that is an option: the option, and the value in the same argument if there is one -/
def readOption (specs : List OptionSpec) (hasVersion : Bool) (arg : String) :
    Except Usage (OptionSpec × Option String) :=
  match arg.toList with
  | '-' :: '-' :: body =>
    let name := String.ofList (body.takeWhile (· ≠ '='))
    let value := (body.dropWhile (· ≠ '=')).tail?.map String.ofList
    match specs.find? fun o => o.long = name with
    | some o => .ok (o, value)
    | none =>
      if name = "help" ∧ value = none then .error .help
      else if name = "version" ∧ hasVersion ∧ value = none then .error .version
      else .error .wrong
  | _ :: letter :: body =>
    match specs.find? fun o => o.short = some letter with
    | some o =>
      let value := match body with
        | [] => none
        | '=' :: r => some (String.ofList r)
        | r => some (String.ofList r)
      .ok (o, value)
    | none =>
      if letter = 'h' then .error .help
      else if letter = 'V' ∧ hasVersion then .error .version
      else .error .wrong
  | _ => .error .wrong

def isOption (arg : String) : Bool :=
  arg.startsWith "-" && arg ≠ "-"

/-- options and positional arguments of a command, of which there are `most` at most -/
def readCommandArgs (specs : List OptionSpec) (most : Nat) (f : Found) : List String → Except Usage Found
  | [] => .ok f
  | arg :: rest =>
    if arg = "--" then
      if most < (f.args ++ rest).length then .error .wrong else .ok { f with args := f.args ++ rest }
    else if isOption arg then
      match readOption specs false arg with
      | .error u => .error u
      | .ok (o, some value) => do readCommandArgs specs most (← f.add o value) rest
      | .ok (o, none) =>
        match rest with
        | value :: rest =>
          if o.takesNext value then do readCommandArgs specs most (← f.add o value) rest else .error .wrong
        | [] => .error .wrong
    else if most ≤ f.args.length then .error .wrong
    else readCommandArgs specs most { f with args := f.args ++ [arg] } rest

/-- options in front of the command, the command, and the arguments behind it -/
def readCommand (f : Found) : List String → Except Usage (Found × String × List String)
  | [] => .error .wrong
  | arg :: rest =>
    if arg = "--" then .error .wrong
    else if isOption arg then
      match readOption commonOptions true arg with
      | .error u => .error u
      | .ok (o, some value) => do readCommand (← f.add o value) rest
      | .ok (o, none) =>
        match rest with
        | value :: rest => if o.takesNext value then do readCommand (← f.add o value) rest else .error .wrong
        | [] => .error .wrong
    else .ok (f, arg, rest)

def commandOf (name : String) (f : Found) : Except Usage Command :=
  match name, f.args with
  | "parse", [target] => .ok (.parse target)
  | "eval", [target] =>
    match f.values.get? "data" with
    | some data => .ok (.eval target data ((f.values.get? "from").getD "-1d") ((f.values.get? "until").getD "now")
        ((f.values.get? "max-data-points").bind Settings.readCount))
    | none => .error .wrong
  | "functions", [] => .ok (.functions (f.values.get? "name"))
  | "config", [] => .ok (.config (f.values.get? "output"))
  | _, _ => .error .wrong

/-- whether there is help on this: on the program, or on one command -/
def knowsTopic : List String → Bool
  | [] => true
  | [name] => name = "help" || (commandOptions name).isSome
  | _ => false

/-- options and command of the arguments of the program -/
def Options.parse (args : List String) : Except Usage Options := do
  let (before, name, rest) ← readCommand {} args
  if name = "help" then throw (if knowsTopic rest then .help else .wrong)
  match commandOptions name with
  | none => throw .wrong
  | some specs =>
    let f ← readCommandArgs (commonOptions ++ specs) (positionals name) {} rest
    let common (key : String) : Option String := (f.values.get? key).or (before.values.get? key)
    .ok ⟨common "config", (common "format").getD "text", ← commandOf name f⟩

/-! ## What a command sees and does -/

/-- what a command can see -/
structure Surroundings where
  files : Settings.Files
  env : Settings.Environment
  now : Int

/-- what a command leaves behind -/
structure Outcome where
  exit : Nat
  stdout : String := ""
  stderr : String := ""
  written : Option (String × String) := none

def fail (message : String) : Outcome :=
  { exit := 1, stderr := s!"Error: {message}\n" }

/-- the outcome once its file has been written, or could not be -/
def Outcome.afterWriting (o : Outcome) : Except String Unit → Outcome
  | .ok () => o
  | .error reason => fail reason

/-- the files that the arguments may make a command read -/
def wanted (args : List String) (env : Settings.Environment) : List String :=
  match Options.parse args with
  | .error _ => []
  | .ok o =>
    let settings := match o.settingsPath with
      | some path => [path]
      | none => Settings.standardPaths env
    match o.command with
    | .eval _ data _ _ _ => settings ++ [data]
    | _ => settings

/-! ## What is printed -/

def parsedText (e : Expr) : String :=
  e.outline.lines "" ++ "\n" ++ e.render ++ "\n"

def parsedJson (target : String) (e : Expr) : String :=
  (Json.object [("ast", .string e.outline.line), ("canonical", .string e.render), ("target", .string target)]).pretty ++ "\n"

def seriesText (s : Series) : String :=
  let point (t : Int) (v : Float) : String :=
    let value := if v.isNaN then "None" else Decimal.plainText v
    s!"  {t}\t{value}\n"
  s!"{s.name}  start={s.start} step={s.step} points={s.values.length}\n" ++
    String.join (s.samples.map fun (t, v) => point t v)

def seriesJson (s : Series) : Json :=
  .object [("target", .string s.name), ("tags", .ofTexts s.tags),
    ("datapoints", .array (s.samples.map fun (t, v) => .array [Series.sampleJson v, .ofInt t]))]

def resultText (format : String) (series : List Series) : String :=
  if format = "json" then (Json.array (series.map seriesJson)).pretty ++ "\n"
  else String.join (series.map seriesText)

/-! ## Running -/

/-- a time: `now`, seconds from the epoch, or an interval from now, without a sign into the past -/
def timeOf (text : String) (now : Int) : Except String Int :=
  if text = "now" then .ok now
  else match (Decimal.readInt text.toList).bind Time.checked with
    | some t => .ok t
    | none =>
      match Time.parseInterval text (-1) with
      | .ok offset => .ok (now + offset)
      | .error _ => .error s!"invalid time: {text}"

def evaluate (w : Surroundings) (settings : Settings) (target data start stop : String) (maxPoints : Option Nat) :
    Except String (List Series) := do
  let start ← timeOf start w.now
  let stop ← timeOf stop w.now
  if stop ≤ start then throw "--from must be before --until"
  let defaults : Store.Defaults := ⟨settings.reducerName, settings.xFilesFactor⟩
  let text ← (w.files data).mapError fun _ => s!"loading fixtures from {data}"
  let store ← (Store.parse text defaults).mapError fun _ => s!"loading fixtures from {data}"
  let engine : Engine := { registry := Registry.builtins, source := store.source }
  let series ← ((engine.execute target ⟨start, stop⟩).runFrom {}).1.mapError EvalError.message
  match maxPoints.or settings.maxPoints with
  | some n => .ok (Series.consolidateAll series n settings.nudge)
  | none => .ok series

def runCommand (w : Surroundings) (settings : Settings) (format : String) : Command → Outcome
  | .parse target =>
    match Target.parse target with
    | .error e => fail e.message
    | .ok e => { exit := 0, stdout := if format = "json" then parsedJson target e else parsedText e }
  | .eval target data start stop maxPoints =>
    match evaluate w settings target data start stop maxPoints with
    | .error message => fail message
    | .ok series => { exit := 0, stdout := resultText format series }
  | .functions (some name) =>
    match Registry.builtins.get? name with
    | some e => { exit := 0, stdout := e.description.toJson.pretty ++ "\n" }
    | none => fail s!"unknown function: {name}"
  | .functions none =>
    let all := Registry.builtins.descriptions.map fun d => (d.name, d.toJson)
    { exit := 0, stdout := (Json.object all).pretty ++ "\n" }
  | .config none => { exit := 0, stdout := Settings.defaultText }
  | .config (some path) =>
    { exit := 0, stdout := s!"Config written to {path}\n", written := some (path, Settings.defaultText) }

def usageText : String :=
  "Usage: graphex [OPTIONS] <COMMAND>\n\nCommands: parse, eval, functions, config\n"

/-- what the program does with its arguments -/
def run (w : Surroundings) (args : List String) : Outcome :=
  match Options.parse args with
  | .error .help => { exit := 0, stdout := usageText }
  | .error .version => { exit := 0, stdout := "graphex 0.1.0\n" }
  | .error .wrong => { exit := 2, stderr := usageText }
  | .ok o =>
    let settings := match o.settingsPath with
      | some path => Settings.loadWithEnvironment w.files w.env path
      | none => .ok (Settings.loadStandard w.files w.env)
    match settings with
    | .error fault => fail fault.message
    | .ok settings => runCommand w settings o.format o.command

end MetricQuery.CommandLine
