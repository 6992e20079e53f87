/-
Functions that keep some of the series.
-/
import MetricQuery.Builtin.Shape
import MetricQuery.Pattern.Compile

namespace MetricQuery.Builtin

/-- keeps the series whose name a regular expression occurs in, or drops them -/
def grepLike (keep : Bool) (name text : String) : Function :=
  (Mapping.simple fun c _ series => do
    let pattern ← c.stringOr "pattern" 1 ""
    match Pattern.compile pattern with
    | .error fault => throw (.invalidArgument c.function (.badPattern pattern fault.message))
    | .ok p => .ok (series.filter fun s => p.occursIn s.name == keep)).toFunction
    [{ name := name, group := "Filter Series", text := text,
       params := [seriesList, { name := "pattern", type := .string, required := true }] }]

def exclude : Function :=
  grepLike false "exclude" "Drop series whose name matches the regular expression."

def grep : Function :=
  grepLike true "grep" "Keep only series whose name matches the regular expression."

def limit : Function :=
  (Mapping.simple fun c _ series => do
    let n ← c.intOr "n" 1 0
    .ok (series.take n.toNat)).toFunction
    [{ name := "limit", group := "Filter Series", text := "Keep the first \x60n\x60 series.",
       params := [seriesList, { name := "n", type := .integer, required := true }] }]

def filtering : List Function := [exclude, grep, limit]

end MetricQuery.Builtin
