/-
Years, months and days of the calendar.

The first of January of a year is the epoch and the lengths of the years in between (`newYear`), the first of a month
that and the lengths of the months before it (`firstOfMonth`). Days are turned into years by cycles of 400, 100, 4 and 1
years (`splitYears`), and into months by taking lengths off; both agree with what the lengths add up to
(`yearAndDay_spec`, `dayOfMonth_spec`), before the epoch as well. Years and months begin in their order
(`newYear_strictMono`, `monthNumber_strictMono`).
-/
import Mathlib
import MetricQuery.Time.Calendar

namespace MetricQuery.Time

/-! ## Years -/

/-- days in a year -/
def yearLength (year : Int) : Int := (monthLengths year).sum

/-- days from the epoch to the first of January of a year: those of the years in between -/
def newYear (year : Int) : Int :=
  if 1970 ≤ year then ((List.range (year - 1970).toNat).map fun (k : Nat) => yearLength (1970 + k)).sum
  else -((List.range (1970 - year).toNat).map fun (k : Nat) => yearLength (year + k)).sum

example : newYear 1969 = -365 ∧ newYear 2000 = 10957 := by decide +kernel

theorem yearLength_eq (year : Int) :
    yearLength year = if year % 4 = 0 ∧ (year % 100 ≠ 0 ∨ year % 400 = 0) then 366 else 365 := by
  unfold yearLength monthLengths isLeapYear
  split <;> simp_all

theorem newYear_add_one (year : Int) : newYear (year + 1) = newYear year + yearLength year := by
  unfold newYear
  rcases lt_trichotomy year 1969 with h | rfl | h
  · have hlen : (1970 - year).toNat = (1970 - (year + 1)).toNat + 1 := by omega
    rw [if_neg (by omega), if_neg (by omega), hlen, List.range_succ_eq_map]
    simp [Function.comp_def, add_comm, add_left_comm]
  · decide
  · have hlen : (year + 1 - 1970).toNat = (year - 1970).toNat + 1 := by omega
    have hlast : 1970 + ((year - 1970).toNat : Int) = year := by omega
    rw [if_pos (by omega), if_pos (by omega), hlen, List.range_succ, List.map_append, List.sum_append,
      List.map_singleton, List.sum_singleton, hlast]

/-- the days before a year, of which every fourth one has one more, but for some centuries -/
theorem newYear_eq (year : Int) :
    newYear year = 365 * (year - 1) + (year - 1) / 4 - (year - 1) / 100 + (year - 1) / 400 - epochDay := by
  unfold epochDay
  induction year using Int.inductionOn' (b := 1970) with
  | zero => decide
  | succ k hk ih =>
    rw [newYear_add_one, ih, yearLength_eq]
    split <;> omega
  | pred k hk ih =>
    have hstep := newYear_add_one (k - 1)
    rw [sub_add_cancel, yearLength_eq] at hstep
    split at hstep <;> omega

theorem newYear_strictMono : StrictMono newYear := by
  refine strictMono_int_of_lt_succ fun year => ?_
  rw [newYear_add_one, yearLength_eq]
  split <;> omega

/-- a count of days in whole cycles of 400, 100, 4 and 1 years, with less than a year left over -/
theorem splitYears_spec (n : Int) : ∃ cycles centuries quads years left : Int,
    splitYears n = (400 * cycles + 100 * centuries + 4 * quads + years, left) ∧
      n = 146097 * cycles + 36524 * centuries + 1461 * quads + 365 * years + left ∧
      0 ≤ centuries ∧ centuries ≤ 3 ∧ 0 ≤ quads ∧ quads ≤ 24 ∧ 0 ≤ years ∧ years ≤ 3 ∧ 0 ≤ left ∧
      (left < 365 ∨ left = 365 ∧ years = 3 ∧ (quads < 24 ∨ centuries = 3)) := by
  -- each part is named before the next is taken out of it, so that every fact is linear
  have hcentury : 0 ≤ n % 146097 ∧ n % 146097 < 146097 := by omega
  generalize hinCycle : n % 146097 = inCycle at hcentury
  obtain ⟨centuries, hcenturies⟩ : ∃ k, k = min 3 (inCycle / 36524) := ⟨_, rfl⟩
  obtain ⟨inCentury, hinCentury⟩ : ∃ k, k = inCycle - 36524 * centuries := ⟨_, rfl⟩
  obtain ⟨inQuad, hinQuad⟩ : ∃ k, k = inCentury % 1461 := ⟨_, rfl⟩
  obtain ⟨years, hyears⟩ : ∃ k, k = min 3 (inQuad / 365) := ⟨_, rfl⟩
  refine ⟨n / 146097, centuries, inCentury / 1461, years, inQuad - 365 * years, ?_, ?_, ?_⟩
  · simp only [splitYears, hinCycle, ← hcenturies, ← hinCentury, ← hinQuad, ← hyears]
  · omega
  · omega

/-- **Each day is in its year.** -/
theorem yearAndDay_spec (day : Int) :
    newYear (yearAndDay day).1 + (yearAndDay day).2 = day ∧ 0 ≤ (yearAndDay day).2 ∧
      (yearAndDay day).2 < yearLength (yearAndDay day).1 := by
  obtain ⟨cycles, centuries, quads, years, left, hsplit, hday, hbounds⟩ := splitYears_spec (day + epochDay)
  rw [yearAndDay, hsplit]
  simp only [newYear_eq, yearLength_eq]
  refine ⟨by omega, by omega, ?_⟩
  split <;> omega

/-! ## Months -/

/-- days from the epoch to the first of a month of a year, January being month 0 -/
def firstOfMonth (year : Int) (month : Nat) : Int :=
  newYear year + ((monthLengths year).take month).sum

theorem length_monthLengths (year : Int) : (monthLengths year).length = 12 := rfl

theorem pos_of_mem_monthLengths {year length : Int} (h : length ∈ monthLengths year) : 0 < length := by
  unfold monthLengths at h
  split at h <;> (simp at h; omega)

theorem firstOfMonth_lt_add_one (year : Int) {month : Nat} (h : month < 12) :
    firstOfMonth year month < firstOfMonth year (month + 1) := by
  rw [← length_monthLengths year] at h
  have hpos := pos_of_mem_monthLengths (List.getElem_mem h)
  rw [firstOfMonth, firstOfMonth, List.take_succ_eq_append_getElem h, List.sum_append, List.sum_singleton]
  omega

/-- behind the last month of a year the next year begins -/
theorem firstOfMonth_twelve (year : Int) : firstOfMonth year 12 = firstOfMonth (year + 1) 0 := by
  rw [firstOfMonth, firstOfMonth, newYear_add_one, List.take_of_length_le (length_monthLengths year).le]
  simp [yearLength]

/-- the months in turn, January of the year 0 being number 0 -/
def monthNumber (k : Int) : Int := firstOfMonth (k / 12) (k % 12).toNat

theorem monthNumber_strictMono : StrictMono monthNumber := by
  refine strictMono_int_of_lt_succ fun k => ?_
  have hlt := firstOfMonth_lt_add_one (k / 12) (show (k % 12).toNat < 12 by omega)
  unfold monthNumber
  rcases eq_or_ne (k % 12) 11 with h | h
  · rw [h] at hlt
    rw [h, show (k + 1) / 12 = k / 12 + 1 by omega, show (k + 1) % 12 = 0 by omega, Int.toNat_zero,
      ← firstOfMonth_twelve]
    exact hlt
  · rw [show (k + 1) / 12 = k / 12 by omega, show (k + 1) % 12 = k % 12 + 1 by omega,
      Int.toNat_add (by omega) (by omega)]
    exact hlt

/-- a month by its number; the one behind the last month of a year is the first one of the next year -/
theorem monthNumber_eq (year : Int) {month : Nat} (h : month ≤ 12) :
    monthNumber (12 * year + month) = firstOfMonth year month := by
  unfold monthNumber
  rcases h.lt_or_eq with h | rfl
  · rw [show (12 * year + (month : Int)) / 12 = year by omega,
      show ((12 * year + (month : Int)) % 12).toNat = month by omega]
  · rw [firstOfMonth_twelve, show (12 * year + ((12 : Nat) : Int)) / 12 = year + 1 by omega,
      show ((12 * year + ((12 : Nat) : Int)) % 12).toNat = 0 by omega]

/-- a day of a year is counted from the first of the month it is in -/
theorem dayOfMonth_spec {lengths : List Int} {day : Int} (hday : 0 ≤ day) (hlt : day < lengths.sum) :
    ∃ month < lengths.length, day - dayOfMonth lengths day = (lengths.take month).sum ∧
      0 ≤ dayOfMonth lengths day ∧ day < (lengths.take (month + 1)).sum := by
  induction lengths generalizing day with
  | nil => simp at hlt; omega
  | cons length rest ih =>
    unfold dayOfMonth
    split
    · rename_i hfirst
      exact ⟨0, by simp, by simp, hday, by simpa using hfirst⟩
    · rename_i hfirst
      rw [List.sum_cons] at hlt
      obtain ⟨month, hmonth, hstart, hnonneg, hstop⟩ := ih (show 0 ≤ day - length by omega) (by omega)
      refine ⟨month + 1, by simpa using hmonth, ?_, hnonneg, ?_⟩
      · rw [List.take_succ_cons, List.sum_cons, ← hstart]
        omega
      · rw [List.take_succ_cons, List.sum_cons]
        omega

/-! ## Dates that are kept -/

/-- a year has begun by a day exactly if it is not behind the year of that day -/
theorem newYear_le_iff (year day : Int) : newYear year ≤ day ↔ year ≤ (yearAndDay day).1 := by
  obtain ⟨hday, hnonneg, hlt⟩ := yearAndDay_spec day
  have hnext := newYear_add_one (yearAndDay day).1
  constructor
  · intro h
    by_contra hgt
    have hle := newYear_strictMono.monotone (show (yearAndDay day).1 + 1 ≤ year by omega)
    omega
  · intro h
    have hle := newYear_strictMono.monotone h
    omega

theorem newYear_midnight_le_iff (year t : Int) :
    newYear year * daySpan ≤ t ↔ year ≤ (yearAndDay (t / daySpan)).1 := by
  rw [← newYear_le_iff, Int.le_ediv_iff_mul_le (by decide)]

/-- the times with dates: from the first second of the first year to the last second of the last one -/
def Dated (t : Int) : Prop :=
  newYear firstYear * daySpan ≤ t ∧ t < newYear (lastYear + 1) * daySpan

theorem dated_iff (t : Int) :
    Dated t ↔ firstYear ≤ (yearAndDay (t / daySpan)).1 ∧ (yearAndDay (t / daySpan)).1 ≤ lastYear := by
  rw [Dated, newYear_midnight_le_iff, ← not_le (b := t), newYear_midnight_le_iff]
  omega

end MetricQuery.Time
