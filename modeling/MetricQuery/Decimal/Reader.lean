/-
Decimal numerals read into floats.

A numeral is an optional sign, digits with an optional point among or beside them, and an optional exponent; at least
one digit stands before the exponent. The words `inf`, `infinity` and `nan` are read in any case. The value is the float
nearest to the numeral, a half going to the even neighbour.
-/
import MetricQuery.Decimal.Binary

namespace MetricQuery.Decimal

/-- a number as written -/
inductive Numeral where
  | decimal (negative : Bool) (significand : Nat) (exponent : Int)
  | infinite (negative : Bool)
  | notANumber
  deriving DecidableEq

/-- value of a run of decimal digits -/
def digitsValue (ds : List Char) : Nat :=
  ds.foldl (fun n c => 10 * n + (c.toNat - '0'.toNat)) 0

/-- the digits a text starts with, and the rest -/
def spanDigits (s : List Char) : List Char × List Char :=
  (s.takeWhile Char.isDigit, s.dropWhile Char.isDigit)

/-- an optional sign, and the rest -/
def readSign : List Char → Bool × List Char
  | '-' :: r => (true, r)
  | '+' :: r => (false, r)
  | s => (false, s)

/-- the exponent that ends a numeral; nothing left means exponent zero -/
def readExponent : List Char → Option Int
  | [] => some 0
  | c :: r =>
    if c = 'e' ∨ c = 'E' then
      let (negative, r) := readSign r
      if r = [] ∨ r.any (!·.isDigit) then none
      else some (if negative then -(digitsValue r : Int) else digitsValue r)
    else none

/-- a numeral that takes up the whole text -/
def readNumeral (s : List Char) : Option Numeral :=
  let (negative, body) := readSign s
  let word := body.map Char.toLower
  if word = ['i', 'n', 'f'] ∨ word = ['i', 'n', 'f', 'i', 'n', 'i', 't', 'y'] then some (.infinite negative)
  else if word = ['n', 'a', 'n'] then some .notANumber
  else
    let (whole, r) := spanDigits body
    let (fraction, r) := match r with
      | '.' :: r => spanDigits r
      | r => ([], r)
    if whole = [] ∧ fraction = [] then none
    else (readExponent r).map fun e => .decimal negative (digitsValue (whole ++ fraction)) (e - fraction.length)

/-- bits, without a sign, of the float nearest to `significand · 10 ^ exponent` -/
def Format.nearestDecimal (f : Format) (significand : Nat) (exponent : Int) : Nat :=
  let width : Int := (Nat.toDigits 10 significand).length
  if significand = 0 then 0
  -- far outside the range of the format the answer is known without the power of ten
  else if 400 < width + exponent then f.infinityBits
  else if width + exponent < -400 then 0
  else f.nearest (significand * Nat.pow 10 exponent.toNat) (Nat.pow 10 (-exponent).toNat)

/-- the float nearest to a numeral -/
def Numeral.toFloat : Numeral → Float
  | .decimal negative m e =>
    Float.ofBits (UInt64.ofNat (Format.double.nearestDecimal m e + if negative then Nat.pow 2 63 else 0))
  | .infinite negative => infinity negative
  | .notANumber => nan

/-- the 32-bit float nearest to a numeral -/
def Numeral.toFloat32 : Numeral → Float32
  | .decimal negative m e =>
    Float32.ofBits (UInt32.ofNat (Format.single.nearestDecimal m e + if negative then Nat.pow 2 31 else 0))
  | .infinite negative => (infinity negative).toFloat32
  | .notANumber => nan.toFloat32

/-- a float that takes up the whole text -/
def readFloat (s : List Char) : Option Float :=
  (readNumeral s).map Numeral.toFloat

/-- a 32-bit float that takes up the whole text -/
def readFloat32 (s : List Char) : Option Float32 :=
  (readNumeral s).map Numeral.toFloat32

/-- a signed whole number that takes up the whole text -/
def readInt (s : List Char) : Option Int :=
  let (negative, ds) := readSign s
  if ds = [] ∨ ds.any (!·.isDigit) then none
  else some (if negative then -(digitsValue ds : Int) else digitsValue ds)

end MetricQuery.Decimal
