/-
Binary floating point seen as exact numbers.

`decode` reads the bits of a float as `± mantissa · 2 ^ exponent`. `Format.nearest` goes the other way: the bits of the
float nearest to a fraction, a half going to the even neighbour. Both work in exact natural-number arithmetic, so text
made from a float and floats made from text depend on no rounding but the one named here.
-/
namespace MetricQuery.Decimal

/-- what the bits of a float stand for -/
inductive Content where
  | notANumber
  | infinite (negative : Bool)
  | finite (negative : Bool) (mantissa : Nat) (exponent : Int)
  deriving DecidableEq

/-- sign, mantissa and exponent of a 64-bit float -/
def decode (x : Float) : Content :=
  let bits := x.toBits.toNat
  let negative : Bool := Nat.pow 2 63 ≤ bits
  let field : Nat := bits / Nat.pow 2 52 % Nat.pow 2 11
  let fraction : Nat := bits % Nat.pow 2 52
  if field = 2047 then
    if fraction = 0 then .infinite negative else .notANumber
  else if field = 0 then .finite negative fraction (-1074)
  else .finite negative (Nat.pow 2 52 + fraction) ((field : Int) - 1075)

/-- the quotient `num / den` as a whole number, a half going to the even neighbour -/
def roundHalfEven (num den : Nat) : Nat :=
  let q := num / den
  let r := num % den
  if 2 * r < den then q
  else if den < 2 * r then q + 1
  else if q % 2 = 0 then q else q + 1

/-- a binary format: bits of the mantissa, least exponent, and the bits of infinity -/
structure Format where
  precision : Nat
  leastExponent : Int
  infinityBits : Nat

/-- the format of `Float` -/
def Format.double : Format := ⟨53, -1074, 0x7FF0000000000000⟩

/-- the format of `Float32` -/
def Format.single : Format := ⟨24, -149, 0x7F800000⟩

/-- `2 ^ e` as a fraction -/
def powTwo (e : Int) : Nat × Nat :=
  (Nat.pow 2 e.toNat, Nat.pow 2 (-e).toNat)

/-- the greatest `e` with `2 ^ e ≤ num / den`, for positive `num` and `den` -/
def floorLog2 (num den : Nat) : Int :=
  let guess : Int := (Nat.log2 num : Int) - (Nat.log2 den : Int)
  let (up, down) := powTwo guess
  if den * up ≤ num * down then guess else guess - 1

/-- bits, without a sign, of the float nearest to `num / den`; too large a fraction gives infinity -/
def Format.nearest (f : Format) (num den : Nat) : Nat :=
  if num = 0 then 0
  else
    let e := max f.leastExponent (floorLog2 num den - f.precision + 1)
    let (up, down) := powTwo e
    let mantissa := roundHalfEven (num * down) (den * up)
    min f.infinityBits ((e - f.leastExponent).toNat * Nat.pow 2 (f.precision - 1) + mantissa)

/-- infinity, with its sign -/
def infinity (negative : Bool) : Float :=
  if negative then -(1.0 / 0.0) else 1.0 / 0.0

/-- not a number -/
def nan : Float := 0.0 / 0.0

end MetricQuery.Decimal
