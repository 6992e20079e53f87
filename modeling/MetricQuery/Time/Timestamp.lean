/-
Timestamps and spans: whole seconds, counted from the epoch or between two instants.

Both are integers that a store keeps in 64 bits. Arithmetic is exact here; `inRange` says whether a result can be kept,
and `checked` is the arithmetic that refuses one that cannot. A function that refuses nothing agrees with the same
function in 64 bits as long as all its numbers can be kept.
-/
namespace MetricQuery.Time

def greatest : Int := Int.pow 2 63 - 1

def least : Int := -Int.pow 2 63

/-- whether a number of seconds fits in 64 bits -/
def inRange (n : Int) : Bool :=
  least ≤ n && n ≤ greatest

def checked (n : Int) : Option Int :=
  if inRange n then some n else none

/-- `n` moved to the nearest number of seconds that fits in 64 bits -/
def saturated (n : Int) : Int :=
  max least (min greatest n)

/-- a half-open span of time `[start, stop)` -/
structure Window where
  start : Int
  stop : Int
  deriving DecidableEq, Repr

end MetricQuery.Time
