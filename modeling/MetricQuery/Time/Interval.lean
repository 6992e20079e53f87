/-
Intervals such as `5min`, `-1h` or `1h30min`.

An interval is an optional sign and one or more components, each a count and the letters of its unit, with no space
between them. Units are known by how they begin: `mon` is a month, any other `m` a minute. A month has 30 days and a year
365. Of the components the first at fault decides the error, and of its two parts the unit.
-/
import MetricQuery.Time.Timestamp
import MetricQuery.Text.Blank
import MetricQuery.Decimal.Reader

namespace MetricQuery.Time

/-- unit of a component of an interval -/
inductive TimeUnit where
  | seconds
  | minutes
  | hours
  | days
  | weeks
  | months
  | years
  deriving DecidableEq, Repr

namespace TimeUnit

/-- the unit that letters in any case stand for -/
def ofLetters (letters : List Char) : Option TimeUnit :=
  match letters.map Char.toLower with
  | 's' :: _ => some .seconds
  | 'm' :: 'o' :: 'n' :: _ => some .months
  | 'm' :: _ => some .minutes
  | 'h' :: _ => some .hours
  | 'd' :: _ => some .days
  | 'w' :: _ => some .weeks
  | 'y' :: _ => some .years
  | _ => none

/-- length of the unit in seconds -/
def span : TimeUnit → Int
  | .seconds => 1
  | .minutes => 60
  | .hours => 3600
  | .days => 86400
  | .weeks => 7 * 86400
  | .months => 30 * 86400
  | .years => 365 * 86400

end TimeUnit

/-- what can be wrong with an interval or a unit to align to -/
inductive IntervalError where
  | unknownUnits (text : String)
  | invalid (text : String)
  deriving DecidableEq, Repr

def IntervalError.message : IntervalError → String
  | .unknownUnits text => s!"unknown time units in '{text}'"
  | .invalid text => s!"invalid interval '{text}'"

/-- one part of an interval: a run of digits and the letters behind it -/
structure Component where
  digits : List Char
  letters : List Char
  deriving DecidableEq, Repr

/-- text made of letters and digits alone, as the letters it starts with and the components behind them -/
def splitComponents : List Char → Option (List Char × List Component)
  | [] => some ([], [])
  | c :: r =>
    match splitComponents r with
    | none => none
    | some (letters, parts) =>
      if c.isAlpha then some (c :: letters, parts)
      else if c.isDigit then
        match letters, parts with
        | [], ⟨ds, ls⟩ :: more => some ([], ⟨c :: ds, ls⟩ :: more)
        | ls, parts => some ([], ⟨[c], ls⟩ :: parts)
      else none

/-- a text that is nothing but components, at least one -/
def components (s : List Char) : Option (List Component) :=
  match splitComponents s with
  | some ([], p :: ps) => some (p :: ps)
  | _ => none

/-- a running total with one more component added -/
def addComponent (text : String) (total : Int) (part : Component) : Except IntervalError Int :=
  match TimeUnit.ofLetters part.letters with
  | none => .error (.unknownUnits text)
  | some unit =>
    let sum := do
      let count ← checked (Decimal.digitsValue part.digits)
      let part ← checked (count * unit.span)
      checked (total + part)
    match sum with
    | some total => .ok total
    | none => .error (.invalid text)

/-- seconds of an interval; where it carries no sign, a negative `defaultSign` makes it negative -/
def parseInterval (text : String) (defaultSign : Int) : Except IntervalError Int :=
  let trimmed := Text.trim text.toList
  let (negative, body) := match trimmed with
    | '-' :: r => (true, r)
    | '+' :: r => (false, r)
    | s => (decide (defaultSign < 0), s)
  match components body with
  | none => .error (.invalid text)
  | some parts => do
    let total ← parts.foldlM (addComponent text) 0
    .ok (if negative then -total else total)

end MetricQuery.Time
