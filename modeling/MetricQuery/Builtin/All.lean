/-
The registry of all builtin functions.
-/
import MetricQuery.Builtin.Alias
import MetricQuery.Builtin.Combine
import MetricQuery.Builtin.Filter
import MetricQuery.Builtin.Forecast
import MetricQuery.Builtin.Moving
import MetricQuery.Builtin.Rebucket
import MetricQuery.Builtin.Transform

namespace MetricQuery

def Builtin.all : List Function :=
  Builtin.combining ++ Builtin.aliasing ++ Builtin.filtering ++ Builtin.forecasting ++ Builtin.moving ++
    Builtin.shifting ++ Builtin.rebucketing ++ Builtin.transforming

/-- every builtin function under every name it answers to -/
def Registry.builtins : Registry :=
  Registry.registerAll [] Builtin.all

end MetricQuery
