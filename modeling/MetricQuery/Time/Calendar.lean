/-
Calendar boundaries in UTC.

`alignStart` moves a timestamp back to the last boundary of a unit. Seconds, minutes, hours and days are multiples of
their length; weeks begin on an ISO weekday, Monday unless a digit behind the unit names another; months and years begin
with the dates of the proleptic Gregorian calendar, for the years in which dates are kept.
-/
import MetricQuery.Time.Interval

namespace MetricQuery.Time

/-! ## Dates -/

/-- `n` as a count of days in cycles of 400, 100, 4 and 1 years: the years before the day, and the day in its year -/
def splitYears (n : Int) : Int × Int :=
  let cycles := n / 146097
  let inCycle := n % 146097
  let centuries := min 3 (inCycle / 36524)
  let inCentury := inCycle - 36524 * centuries
  let quads := inCentury / 1461
  let inQuad := inCentury % 1461
  let years := min 3 (inQuad / 365)
  (400 * cycles + 100 * centuries + 4 * quads + years, inQuad - 365 * years)

/-- days from the first of January of the year 1 to the epoch -/
def epochDay : Int := 719162

/-- year and day of the year, counted from zero, of a day counted from the epoch -/
def yearAndDay (day : Int) : Int × Int :=
  let (years, ofYear) := splitYears (day + epochDay)
  (years + 1, ofYear)

def isLeapYear (year : Int) : Bool :=
  year % 4 = 0 && (year % 100 ≠ 0 || year % 400 = 0)

/-- days in each month of a year -/
def monthLengths (year : Int) : List Int :=
  [31, if isLeapYear year then 29 else 28, 31, 30, 31, 30, 31, 31, 30, 31, 30, 31]

/-- how far a day of the year is into its month -/
def dayOfMonth : List Int → Int → Int
  | [], day => day
  | length :: rest, day => if day < length then day else dayOfMonth rest (day - length)

/-- first and last year with dates -/
def firstYear : Int := -262143

def lastYear : Int := 262142

/-! ## Boundaries -/

/-- seconds in a day -/
def daySpan : Int := 86400

/-- ISO weekday of a day counted from the epoch, which was a Thursday -/
def isoWeekday (day : Int) : Int :=
  (day + 3) % 7 + 1

/-- the last midnight of a weekday, Monday being 1, that is not after `t` -/
def weekStart (weekday t : Int) : Int :=
  let day := t / daySpan
  (day - (isoWeekday day - weekday) % 7) * daySpan

/-- the first of the month that holds `t`, where dates are kept -/
def monthStart (t : Int) : Option Int :=
  let day := t / daySpan
  let (year, ofYear) := yearAndDay day
  if firstYear ≤ year ∧ year ≤ lastYear then some ((day - dayOfMonth (monthLengths year) ofYear) * daySpan) else none

/-- the first of January of the year that holds `t`, where dates are kept -/
def yearStart (t : Int) : Option Int :=
  let day := t / daySpan
  let (year, ofYear) := yearAndDay day
  if firstYear ≤ year ∧ year ≤ lastYear then some ((day - ofYear) * daySpan) else none

/-! ## Units to align to -/

/-- a unit to align to, without the count in front of it: its name, and the digits behind that -/
def alignmentUnit (s : List Char) : List Char × List Char :=
  let body := s.dropWhile fun c => c.isDigit || c == '+' || c == '-'
  let digits := (body.reverse.takeWhile Char.isDigit).reverse
  (body.take (body.length - digits.length), digits)

/-- the weekday that digits name -/
def weekdayOf (digits : List Char) : Option Int :=
  match digits with
  | [] => some 1
  | ds =>
    let n : Int := Decimal.digitsValue ds
    if 1 ≤ n ∧ n ≤ 7 then some n else none

/-- `t` moved back to the last boundary of the unit that `text` names -/
def alignStart (t : Int) (text : String) : Except IntervalError Int :=
  let (name, digits) := alignmentUnit text.toList
  match TimeUnit.ofLetters name with
  | none => .error (.unknownUnits text)
  | some .seconds => .ok t
  | some .minutes => .ok (t - t % 60)
  | some .hours => .ok (t - t % 3600)
  | some .days => .ok (t - t % 86400)
  | some .weeks =>
    match weekdayOf digits with
    | some weekday => .ok (weekStart weekday t)
    | none => .error (.unknownUnits text)
  | some .months => (monthStart t).elim (.error (.invalid text)) .ok
  | some .years => (yearStart t).elim (.error (.invalid text)) .ok

end MetricQuery.Time
