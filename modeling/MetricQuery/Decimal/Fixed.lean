/-
Decimals with a fixed number of places.

The exact binary value is rounded once, a half going to the even neighbour, so no digit depends on how the value was
written before.
-/
import MetricQuery.Decimal.Shortest

namespace MetricQuery.Decimal

/-- `mantissa · 2 ^ exponent` in units of the last of `places` decimal places -/
def unitsAt (places : Nat) (mantissa : Nat) (exponent : Int) : Nat :=
  let (up, down) := powTwo exponent
  roundHalfEven (mantissa * up * Nat.pow 10 places) down

/-- digits with the last `places` of them behind the point -/
def placeFixed (places : Nat) (units : Nat) : List Char :=
  let ds := digitsOf units
  let padded := List.replicate (places + 1 - ds.length) '0' ++ ds
  if places = 0 then padded
  else padded.take (padded.length - places) ++ '.' :: padded.drop (padded.length - places)

/-- a float with exactly `places` decimal places -/
def fixedText (places : Nat) (x : Float) : String :=
  match decode x with
  | .notANumber => "NaN"
  | .infinite negative => String.ofList (signOf negative ++ ['i', 'n', 'f'])
  | .finite negative m e => String.ofList (signOf negative ++ placeFixed places (unitsAt places m e))

end MetricQuery.Decimal
