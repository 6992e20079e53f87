/-
JSON values.

A number is kept as it is written; `Json.Numeral` reads it, as a whole number of 64 bits or as a float. The float takes
as many leading digits as fit in an unsigned word and multiplies or divides them by the power of ten; a number too large
for a float has none.

An escape may write half of a surrogate pair, for which there is no character. What such an escape stands in is `broken`:
it may be passed over, but is data of no kind.
-/
import MetricQuery.Decimal.Shortest
import MetricQuery.Decimal.Reader
import MetricQuery.Keyed
import MetricQuery.Time.Timestamp

namespace MetricQuery

/-- a JSON value; the members of an object stand in the order they are written in -/
inductive Json where
  | null
  | bool (b : Bool)
  | number (literal : String)
  | string (s : String)
  | array (items : List Json)
  | object (members : List (String × Json))
  /-- a string, or an object with a key, that has half of a surrogate pair in it -/
  | broken
  deriving Inhabited

namespace Json

/-! ## Numbers -/

/-- parts of a number as written; the exponent has its sign first -/
structure Numeral where
  negative : Bool
  whole : List Char
  fraction : Option (List Char)
  exponent : Option (Bool × List Char)
  deriving DecidableEq, Repr

/-- the number a text starts with, and the text behind it -/
def readNumeral (s : List Char) : Option (Numeral × List Char) := do
  let (negative, s) := match s with
    | '-' :: r => (true, r)
    | s => (false, s)
  let (whole, s) ← match s with
    | '0' :: r => if (r.head?.map Char.isDigit).getD false then none else some (['0'], r)
    | s =>
      let (ds, r) := Decimal.spanDigits s
      if ds = [] then none else some (ds, r)
  let (fraction, s) ← match s with
    | '.' :: r =>
      let (ds, r) := Decimal.spanDigits r
      if ds = [] then none else some (some ds, r)
    | s => some (none, s)
  let (exponent, s) ← match s with
    | c :: r =>
      if c = 'e' ∨ c = 'E' then
        let (down, r) := Decimal.readSign r
        let (ds, r) := Decimal.spanDigits r
        if ds = [] then none else some (some (down, ds), r)
      else some (none, c :: r)
    | [] => some (none, [])
  some (⟨negative, whole, fraction, exponent⟩, s)

/-- the greatest unsigned word -/
def greatestWord : Nat := Nat.pow 2 64 - 1

/-- digits added to a word as long as they fit, with the number of those that did not -/
def takeDigits (word : Nat) (ds : List Char) : Nat × Nat :=
  match ds with
  | [] => (word, 0)
  | d :: rest =>
    let next := Decimal.digitsValue [d] + 10 * word
    if next ≤ greatestWord then takeDigits next rest else (word, ds.length)

/-- a power of ten that is a float -/
def powTen (n : Nat) : Float :=
  Float.ofBits (UInt64.ofNat (Decimal.Format.double.nearest (Nat.pow 10 n) 1))

/-- `x · 10 ^ exponent`, down in steps of the greatest power of ten; none if the power or the product is too large -/
def scaleTen (fuel : Nat) (x : Float) (exponent : Int) : Option Float :=
  if exponent.natAbs ≤ 308 then
    if exponent < 0 then some (x / powTen exponent.natAbs)
    else
      let y := x * powTen exponent.natAbs
      if y.isInf then none else some y
  else if x == 0.0 then some x
  else if 0 < exponent then none
  else match fuel with
    | 0 => some 0.0
    | fuel + 1 => scaleTen fuel (x / powTen 308) (exponent + 308)

namespace Numeral

/-- the number as a whole number, if it is written as one and fits in a signed or unsigned word; negative zero is none -/
def whole? (n : Numeral) : Option Int :=
  if n.fraction.isSome || n.exponent.isSome then none
  else
    let m := Decimal.digitsValue n.whole
    if n.negative then (if m = 0 then none else Time.checked (-(m : Int)))
    else if m ≤ greatestWord then some m else none

/-- the number as a whole number of 64 bits, if it is written as one -/
def toInt? (n : Numeral) : Option Int :=
  n.whole?.bind Time.checked

/-- size of the number as a float -/
def magnitude? (n : Numeral) : Option Float :=
  let (word, dropped) := takeDigits 0 n.whole
  let fraction := n.fraction.getD []
  let (word, unused) := takeDigits word fraction
  let point : Int := (dropped : Int) - ((fraction.length - unused : Nat) : Int)
  match n.exponent with
  | none => if point = 0 ∧ n.fraction = none then some (UInt64.ofNat word).toFloat else scaleTen 2 (UInt64.ofNat word).toFloat point
  | some (down, ds) =>
    let e : Int := Decimal.digitsValue ds
    if Nat.pow 2 31 - 1 < e then (if word ≠ 0 ∧ !down then none else some 0.0)
    else scaleTen 2 (UInt64.ofNat word).toFloat (if down then point - e else point + e)

def toFloat? (n : Numeral) : Option Float :=
  n.magnitude?.map fun x => if n.negative then -x else x

/-- the number as a 32-bit float: whole numbers are rounded once, others by way of 64 bits -/
def toFloat32? (n : Numeral) : Option Float32 :=
  match n.whole? with
  | some m =>
    let bits := Decimal.Format.single.nearest m.natAbs 1
    some (Float32.ofBits (UInt32.ofNat (if m < 0 then bits + Nat.pow 2 31 else bits)))
  | none => n.toFloat?.map Float.toFloat32

end Numeral

/-! ## Values as data -/

/-- the number that a value is -/
def numeral? : Json → Option Numeral
  | .number literal => (readNumeral literal.toList).map Prod.fst
  | _ => none

def toInt? (j : Json) : Option Int := do (← j.numeral?).toInt?

def toFloat? (j : Json) : Option Float := do (← j.numeral?).toFloat?

def toFloat32? (j : Json) : Option Float32 := do (← j.numeral?).toFloat32?

def toString? : Json → Option String
  | .string s => some s
  | _ => none

def toBool? : Json → Option Bool
  | .bool b => some b
  | _ => none

def toArray? : Json → Option (List Json)
  | .array items => some items
  | _ => none

/-- the last member of an object with this key -/
def member? (j : Json) (key : String) : Option Json :=
  match j with
  | .object members => members.reverse.lookup key
  | _ => none

/-- a sample: a number, or nothing where it is missing -/
def toSample? : Json → Option Float
  | .null => some Decimal.nan
  | j => j.toFloat?

/-- an object all of whose members are strings; of two with one key the later counts -/
def toTexts? : Json → Option (Keyed String)
  | .object members => do
    let pairs ← members.mapM fun (k, v) => v.toString?.map fun s => (k, s)
    some (Keyed.insertAll [] pairs)
  | _ => none

/-! ## Data as values -/

def ofInt (n : Int) : Json :=
  .number (toString n)

/-- a float; one that is not finite has no number and is written as null -/
def ofFloat (x : Float) : Json :=
  if x.isFinite then .number (Decimal.NumberStyle.interchange.write x) else .null

def ofTexts (texts : Keyed String) : Json :=
  .object (texts.map fun (k, v) => (k, .string v))

/-! ## Records -/

/-- fields of a record, by name or by place -/
structure Record where
  values : List (Option Json)
  byPlace : Bool

/-- the fields of a record with the given names in this order.

An object has each of them at most once and may have other members; an array lists the first of them, and no more than
there are names. -/
def record? (names : List String) : Json → Option Record
  | .object members =>
    if names.all fun name => (members.filter fun (k, _) => k == name).length ≤ 1 then
      some ⟨names.map fun name => members.lookup name, false⟩
    else none
  | .array items =>
    if items.length ≤ names.length then
      some ⟨items.map some ++ List.replicate (names.length - items.length) none, true⟩
    else none
  | _ => none

namespace Record

def field? (r : Record) (index : Nat) : Option Json :=
  (r.values[index]?).join

/-- a field that must be there -/
def required {α : Type} (r : Record) (index : Nat) (read : Json → Option α) : Option α :=
  (r.field? index).bind read

/-- a field with a default -/
def withDefault {α : Type} (r : Record) (index : Nat) (read : Json → Option α) (default : α) : Option α :=
  match r.field? index with
  | some j => read j
  | none => some default

/-- a field that may be null, or left out where fields are given by name -/
def nullable {α : Type} (r : Record) (index : Nat) (read : Json → Option α) : Option (Option α) :=
  match r.field? index with
  | some .null => some none
  | some j => (read j).map some
  | none => if r.byPlace then none else some none

end Record

end Json

end MetricQuery
