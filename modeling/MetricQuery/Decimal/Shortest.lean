/-
The shortest decimal that reads back as a given float.

Of the decimals in the interval that rounds to the float, `shortest` takes the one with the fewest digits, and of those
the nearest. It tries the grids of powers of ten from coarse to fine and looks on each at the two neighbours of the
value; a point that lies exactly between them goes as the writer's `Tie` says.

`NumberStyle` holds what a writer decides beyond the digits: which numbers are written without an exponent, whether a
whole number keeps a fraction, and the tie. The styles of this library are values of it.
-/
import MetricQuery.Decimal.Binary

namespace MetricQuery.Decimal

/-- where a value halfway between two candidates goes -/
inductive Tie where
  | up
  | even
  deriving DecidableEq

/-- a positive decimal `significand · 10 ^ exponent` -/
structure Scaled where
  significand : Nat
  exponent : Int
  deriving DecidableEq

/-- the point of the grid `10 ^ j` that reads back as `mantissa · 2 ^ exponent` and is nearest to it, if there is one -/
def onGrid (tie : Tie) (mantissa : Nat) (exponent : Int) (j : Int) : Option Scaled :=
  -- everything is compared in quarters of the last binary place
  let value := 4 * mantissa
  let low := value - (if mantissa = Nat.pow 2 52 ∧ -1074 < exponent then 1 else 2)
  let high := value + 2
  let ends : Bool := mantissa % 2 = 0
  let (up, down) := powTwo (exponent - 2)
  let valueScale := up * Nat.pow 10 (-j).toNat
  let gridScale := down * Nat.pow 10 j.toNat
  let t := value * valueScale / gridScale
  let below := t * gridScale
  let above := (t + 1) * gridScale
  let belowFits : Bool := 0 < t && (low * valueScale < below || (ends && low * valueScale = below))
  let aboveFits : Bool := above < high * valueScale || (ends && above = high * valueScale)
  let nearer : Nat :=
    if 2 * value * valueScale < below + above then t
    else if below + above < 2 * value * valueScale then t + 1
    else match tie with
      | .up => t + 1
      | .even => if t % 2 = 0 then t else t + 1
  match belowFits, aboveFits with
  | true, true => some ⟨nearer, j⟩
  | true, false => some ⟨t, j⟩
  | false, true => some ⟨t + 1, j⟩
  | false, false => none

/-- shortest decimal of the positive value `mantissa · 2 ^ exponent`: the first of twenty ever finer grids that has one -/
def shortest (tie : Tie) (mantissa : Nat) (exponent : Int) : Scaled :=
  let leading := ((Nat.log2 mantissa : Int) + exponent) * 30103 / 100000
  ((List.range 20).findSome? fun (i : Nat) => onGrid tie mantissa exponent (leading + 1 - i)).getD ⟨0, 0⟩

/-- how a writer sets out the digits of a number -/
structure NumberStyle where
  /-- whether a number whose leading digit stands at this power of ten is written without an exponent -/
  positional : Int → Bool
  /-- whether a whole number is written with `.0` -/
  wholeFraction : Bool
  tie : Tie

/-- plain text: never an exponent, whole numbers bare -/
def NumberStyle.plain : NumberStyle := ⟨fun _ => true, false, .up⟩

/-- dumps: exponents below `1e-4` and from `1e16` on, whole numbers with `.0` -/
def NumberStyle.dump : NumberStyle := ⟨fun e => -4 ≤ e && e < 16, true, .up⟩

/-- data interchange: exponents below `1e-5` and from `1e16` on, whole numbers with `.0` -/
def NumberStyle.interchange : NumberStyle := ⟨fun e => -5 ≤ e && e < 16, true, .even⟩

/-- decimal digits of a natural number -/
def digitsOf (n : Nat) : List Char :=
  Nat.toDigits 10 n

/-- digits with a point after the first `point` of them, filled up with zeros on either side -/
def placePoint (ds : List Char) (point : Int) (wholeFraction : Bool) : List Char :=
  if point ≤ 0 then '0' :: '.' :: (List.replicate (-point).toNat '0' ++ ds)
  else if ds.length ≤ point.toNat then
    ds ++ List.replicate (point.toNat - ds.length) '0' ++ (if wholeFraction then ['.', '0'] else [])
  else ds.take point.toNat ++ '.' :: ds.drop point.toNat

def signOf (negative : Bool) : List Char :=
  if negative then ['-'] else []

/-- text of a positive decimal -/
def NumberStyle.layout (style : NumberStyle) (d : Scaled) : List Char :=
  let ds := digitsOf d.significand
  let leading := d.exponent + ds.length - 1
  if style.positional leading then placePoint ds (leading + 1) style.wholeFraction
  else placePoint ds 1 false ++ 'e' :: (signOf (leading < 0) ++ digitsOf leading.natAbs)

/-- text of a float -/
def NumberStyle.write (style : NumberStyle) (x : Float) : String :=
  match decode x with
  | .notANumber => "NaN"
  | .infinite negative => String.ofList (signOf negative ++ ['i', 'n', 'f'])
  | .finite negative 0 _ => String.ofList (signOf negative ++ placePoint ['0'] 1 style.wholeFraction)
  | .finite negative m e => String.ofList (signOf negative ++ style.layout (shortest style.tie m e))

/-- text of a float in names, tags and messages -/
def plainText (x : Float) : String :=
  NumberStyle.plain.write x

end MetricQuery.Decimal
