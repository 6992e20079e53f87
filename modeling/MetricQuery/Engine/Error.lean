/-
What can go wrong while a target is evaluated.

Each error keeps its cause; `EvalError.message` is the one place where causes become text. Errors of the source of the
series and cancellation are faults of the engine, all others are faults of the query.
-/
import MetricQuery.Engine.Request
import MetricQuery.Target.ReadError
import MetricQuery.Time.Interval

namespace MetricQuery

/-- why a source of series gave no answer -/
inductive SourceFault where
  | badPattern (metric : String)
  | unavailable (reason : String)
  /-- the evaluation was cancelled while the answer was awaited -/
  | interrupted
  deriving DecidableEq, Repr

def SourceFault.message : SourceFault → String
  | .badPattern metric => s!"invalid metric pattern '{metric}'"
  | .unavailable reason => reason
  | .interrupted => "interrupted"

/-- why an argument of the right type is refused -/
inductive ArgumentFault where
  | intervalNotPositive (seconds : Int)
  | windowNotPositive (points : Int)
  | percentOutOfRange (p : Float)
  | badPattern (pattern reason : String)
  | badSearchPattern (reason : String)
  | negativeRank (rank : Int)
  | refused (reason : String)

def ArgumentFault.message : ArgumentFault → String
  | .intervalNotPositive seconds => s!"interval must be positive, got {seconds}s"
  | .windowNotPositive points => s!"window must be positive, got {points}"
  | .percentOutOfRange p => s!"percentile {Decimal.plainText p} out of range"
  | .badPattern pattern reason => s!"bad pattern '{pattern}': {reason}"
  | .badSearchPattern reason => s!"bad search pattern: {reason}"
  | .negativeRank rank => s!"negative version rank {rank}"
  | .refused reason => reason

/-- why series do not fit a function -/
inductive DataFault where
  | tooFew (kind : String) (count : Nat)
  | emptySeries (name : String)
  | unequalLength (name : String)
  | tooFewVersions (count : Nat)
  deriving DecidableEq, Repr

def DataFault.message : DataFault → String
  | .tooFew kind count => s!"need at least 2 {kind} series, got {count}"
  | .emptySeries name => s!"empty series {name}"
  | .unequalLength name => s!"series {name} differs in length from the others"
  | .tooFewVersions count => s!"need release marks for at least 2 major versions, found {count}"

/-- who is at fault -/
inductive Blame where
  /-- the query is malformed or asks for something impossible -/
  | query
  /-- the engine or its source of series failed -/
  | engine
  deriving DecidableEq, Repr

/-- the status a front end answers with -/
def Blame.status : Blame → Nat
  | .query => 400
  | .engine => 500

/-- why an evaluation failed; `target` is the function concerned -/
inductive EvalError where
  | parse (error : Target.ReadError)
  | unknownFunction (name : String)
  | missingArgument (target param : String)
  | badType (target param expected got : String)
  | missingTimeSeries (target : String) (index : Nat)
  | missingData (request : Request)
  | wildcardNotAllowed (target : String) (count : Nat)
  | tooManyArguments (target : String)
  | unsupportedReducer (name : String)
  | unknownTimeUnits (text : String)
  | invalidInterval (text : String)
  | invalidArgument (target : String) (fault : ArgumentFault)
  | badData (target : String) (fault : DataFault)
  | fetch (fault : SourceFault)
  | cancelled

namespace EvalError

def message : EvalError → String
  | .parse error => s!"parse error: {error.message}"
  | .unknownFunction name => s!"unknown function: {name}"
  | .missingArgument target param => s!"{target}: missing argument '{param}'"
  | .badType target param expected got => s!"{target}: bad type for '{param}': expected {expected}, got {got}"
  | .missingTimeSeries target index => s!"{target}: argument {index} is not a series list"
  | .missingData request => s!"no data fetched for {request.text}"
  | .wildcardNotAllowed target count => s!"{target}: expected a single series, got {count}"
  | .tooManyArguments target => s!"{target}: too many arguments"
  | .unsupportedReducer name => s!"unsupported consolidation function '{name}'"
  | .unknownTimeUnits text => (Time.IntervalError.unknownUnits text).message
  | .invalidInterval text => (Time.IntervalError.invalid text).message
  | .invalidArgument target fault => s!"{target}: invalid argument: {fault.message}"
  | .badData target fault => s!"{target}: bad data: {fault.message}"
  | .fetch fault => s!"fetch failed: {fault.message}"
  | .cancelled => "evaluation cancelled"

def blame : EvalError → Blame
  | .fetch _ => .engine
  | .cancelled => .engine
  | _ => .query

/-- what a fetch fails with whose source gave no answer -/
def ofSource : SourceFault → EvalError
  | .interrupted => .cancelled
  | fault => .fetch fault

def ofInterval : Time.IntervalError → EvalError
  | .unknownUnits text => .unknownTimeUnits text
  | .invalid text => .invalidInterval text

end EvalError

end MetricQuery
