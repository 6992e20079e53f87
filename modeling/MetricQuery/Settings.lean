/-
Settings of the engine: defaults, a TOML file, and environment variables that override both.

Unknown keys of a file do not count, but a known key with a value of the wrong type makes the file unusable. A variable
that cannot be read as its setting is ignored.
-/
import MetricQuery.Series.Basic
import MetricQuery.Text.Quoted
import MetricQuery.Toml.Reader

namespace MetricQuery

structure Settings where
  /-- whether consolidated series keep to a multiple of their new step -/
  nudge : Bool := true
  /-- results have at most this many points -/
  maxPoints : Option Nat := none
  /-- reducer of series whose record names none -/
  reducerName : String := Series.defaultReducerName
  /-- factor of series whose record has none -/
  xFilesFactor : Float32 := 0.0
  logLevel : String := "info"
  logFormat : String := "pretty"
  logFile : Option String := none

namespace Settings

/-! ## Files -/

def bool? : Toml → Option Bool
  | .bool b => some b
  | _ => none

def count? : Toml → Option Nat
  | .int n => if 0 ≤ n then some n.toNat else none
  | _ => none

def string? : Toml → Option String
  | .string s => some s
  | _ => none

/-- a whole number or a float, rounded to 32 bits -/
def factor? : Toml → Option Float32
  | .float x => some x.toFloat32
  | .int n =>
    let bits := Decimal.Format.single.nearest n.natAbs 1
    some (Float32.ofBits (UInt32.ofNat (if n < 0 then bits + Nat.pow 2 31 else bits)))
  | _ => none

/-- a field of a section, by name or, where the section is an array, by place; its default if it is not there -/
def fieldOr {α : Type} (part : Toml) (key : String) (index : Nat) (read : Toml → Option α) (default : α) :
    Option α :=
  let found := match part with
    | .array items => items[index]?
    | t => t.member? key
  match found with
  | some v => read v
  | none => some default

/-- whether a value can hold the fields of a section; an array needs at least so many, and a date or time holds none of
them, so that each has its default -/
def isSection (least : Nat) : Toml → Bool
  | .table _ | .dateTime => true
  | .array items => least ≤ items.length
  | _ => false

def withEngine (s : Settings) (t : Toml) : Option Settings := do
  if !isSection 0 t then none
  else some { s with
    nudge := ← fieldOr t "nudge_start_time_on_aggregation" 0 bool? true
    maxPoints := ← fieldOr t "max_data_points" 1 (fun v => some <$> count? v) none
    reducerName := ← fieldOr t "default_consolidation_func" 2 string? Series.defaultReducerName
    xFilesFactor := ← fieldOr t "default_x_files_factor" 3 factor? 0.0 }

def withLogging (s : Settings) (t : Toml) : Option Settings := do
  if !isSection 3 t then none
  else some { s with
    logLevel := ← fieldOr t "level" 0 string? "info"
    logFormat := ← fieldOr t "format" 1 string? "pretty"
    logFile := ← fieldOr t "file" 2 (fun v => some <$> string? v) none }

/-- the settings that a TOML text describes -/
def parse (text : String) : Option Settings := do
  let t ← Toml.parse text
  let s ← match t.member? "engine" with
    | some part => withEngine {} part
    | none => some {}
  match t.member? "logging" with
  | some part => s.withLogging part
  | none => some s

/-! ## Environment -/

/-- environment variables -/
abbrev Environment := Keyed String

/-- variables that say something about settings or where they are -/
def variableNames : List String :=
  ["HOME", "XDG_CONFIG_HOME", "GRAPHEX_NUDGE_START_TIME", "GRAPHEX_MAX_DATA_POINTS", "GRAPHEX_CONSOLIDATION_FUNC",
    "GRAPHEX_X_FILES_FACTOR", "GRAPHEX_LOG_LEVEL", "GRAPHEX_LOG_FORMAT", "GRAPHEX_LOG_FILE"]

def readBool (text : String) : Option Bool :=
  if text = "true" then some true else if text = "false" then some false else none

/-- a count that fits in a word; a plus sign may stand in front -/
def readCount (text : String) : Option Nat :=
  let ds := match text.toList with
    | '+' :: r => r
    | s => s
  let n := Decimal.digitsValue ds
  if ds = [] ∨ ds.any (!·.isDigit) ∨ Nat.pow 2 64 ≤ n then none else some n

/-- settings with those that the environment overrides -/
def override (s : Settings) (env : Environment) : Settings where
  nudge := ((env.get? "GRAPHEX_NUDGE_START_TIME").bind readBool).getD s.nudge
  maxPoints := ((env.get? "GRAPHEX_MAX_DATA_POINTS").bind readCount).or s.maxPoints
  reducerName := (env.get? "GRAPHEX_CONSOLIDATION_FUNC").getD s.reducerName
  xFilesFactor := ((env.get? "GRAPHEX_X_FILES_FACTOR").bind fun t => Decimal.readFloat32 t.toList).getD s.xFilesFactor
  logLevel := (env.get? "GRAPHEX_LOG_LEVEL").getD s.logLevel
  logFormat := (env.get? "GRAPHEX_LOG_FORMAT").getD s.logFormat
  logFile := (env.get? "GRAPHEX_LOG_FILE").or s.logFile

def ofEnvironment (env : Environment) : Settings :=
  ({} : Settings).override env

/-! ## Loading -/

/-- contents of files by path, or why a file cannot be read -/
abbrev Files := String → Except String String

/-- why a settings file is of no use -/
inductive Fault where
  | unreadable (path reason : String)
  | malformed (path : String)
  deriving DecidableEq, Repr

def Fault.message : Fault → String
  | .unreadable path reason => s!"Failed to read config file {Text.quoted path}: {reason}"
  | .malformed path => s!"Failed to parse config file {Text.quoted path}: TOML parse error"

def load (files : Files) (path : String) : Except Fault Settings :=
  match files path with
  | .error reason => .error (.unreadable path reason)
  | .ok text =>
    match parse text with
    | some s => .ok s
    | none => .error (.malformed path)

def loadWithEnvironment (files : Files) (env : Environment) (path : String) : Except Fault Settings := do
  .ok ((← load files path).override env)

/-- directory of a user's settings -/
def userDirectory (env : Environment) : Option String :=
  match env.get? "XDG_CONFIG_HOME" with
  | some dir => if dir.startsWith "/" then some dir else home
  | none => home
where
  home : Option String := (env.get? "HOME").bind fun dir => if dir = "" then none else some (dir ++ "/.config")

/-- where settings are looked for, in this order -/
def standardPaths (env : Environment) : List String :=
  ((userDirectory env).map (· ++ "/graphex/config.toml")).toList ++ ["/etc/graphex/config.toml", "./config.toml"]

/-- the first settings file that can be used, or the environment alone -/
def loadStandard (files : Files) (env : Environment) : Settings :=
  ((standardPaths env).findSome? fun path => (loadWithEnvironment files env path).toOption).getD (ofEnvironment env)

/-! ## A file to start from -/

/-- text of a settings file that sets every default -/
def defaultText : String := "# Graphex Configuration
#
# Environment variables override these settings:
# - GRAPHEX_NUDGE_START_TIME
# - GRAPHEX_MAX_DATA_POINTS
# - GRAPHEX_CONSOLIDATION_FUNC
# - GRAPHEX_X_FILES_FACTOR
# - GRAPHEX_LOG_LEVEL
# - GRAPHEX_LOG_FORMAT
# - GRAPHEX_LOG_FILE

[engine]
# Snap consolidated series to a multiple of the new step
nudge_start_time_on_aggregation = true

# Downsample results to at most this many points
# max_data_points = 800

# Reducer for fixtures that don't set consolidationFunc
default_consolidation_func = \"average\"

# Minimum ratio of present samples per consolidated bucket
default_x_files_factor = 0.0

[logging]
# Log level: trace, debug, info, warn, error
level = \"info\"

# Log format: pretty (for development) or json (for production)
format = \"pretty\"

# Optional log file path
# file = \"/var/log/graphex/graphex.log\"
"

end Settings

end MetricQuery
