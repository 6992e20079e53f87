/-
Alignment to calendar boundaries.

A text to align to names a unit, and by it the times that the unit begins at (`Names`, `Boundaries.times`): multiples of
a span, the midnights of a weekday, or those of the first of a month or a year. `alignStart_floor` says that a time is
moved back to the last of these that is not after it, for every time with a date; hence that an aligned time stays where
it is, and that of two times the later one is not moved further back than the earlier one.

The boundaries of each unit are listed in order (`Boundaries.nth`), so that the last one not after a time is found by
looking at the next one only.
-/
import MetricQuery.Proofs.Time.Dates
import MetricQuery.Proofs.Time.Interval

namespace MetricQuery.Time

/-! ## Boundaries -/

/-- of times in order, the one at or before `t` whose next one is behind it is the greatest one not after `t` -/
theorem isGreatest_of_lt_next {f : Int → Int} (hf : StrictMono f) {k t : Int} (hle : f k ≤ t) (hlt : t < f (k + 1)) :
    IsGreatest {s | s ∈ Set.range f ∧ s ≤ t} (f k) := by
  refine ⟨⟨⟨k, rfl⟩, hle⟩, ?_⟩
  rintro _ ⟨⟨j, rfl⟩, hj⟩
  exact hf.monotone (Int.lt_add_one_iff.1 (hf.lt_iff_lt.1 (hj.trans_lt hlt)))

/-- the times that a unit aligns to -/
inductive Boundaries where
  /-- the multiples of a span -/
  | every (span : Int)
  /-- the midnights of an ISO weekday, Monday being 1 -/
  | weekday (n : Int)
  /-- the midnights of the first of a month -/
  | months
  /-- the midnights of the first of January -/
  | years

namespace Boundaries

/-- the boundaries themselves; the epoch was a Thursday, so weekday 4 -/
def times : Boundaries → Set Int
  | every span => {s | ∃ k, s = span * k}
  | weekday n => {s | ∃ week, s = (n - 4 + 7 * week) * daySpan}
  | months => {s | ∃ year, ∃ month < 12, s = firstOfMonth year month * daySpan}
  | years => {s | ∃ year, s = newYear year * daySpan}

/-- the boundaries not after a time -/
def upTo (b : Boundaries) (t : Int) : Set Int :=
  {s | s ∈ b.times ∧ s ≤ t}

/-- the times that can be aligned: all of them, but to months and years only those with dates -/
def Covers : Boundaries → Int → Prop
  | every _, _ => True
  | weekday _, _ => True
  | months, t => Dated t
  | years, t => Dated t

/-- the boundaries in order -/
def nth : Boundaries → Int → Int
  | every span, k => span * k
  | weekday n, k => (n - 4 + 7 * k) * daySpan
  | months, k => monthNumber k * daySpan
  | years, k => newYear k * daySpan

theorem times_eq (b : Boundaries) : b.times = Set.range b.nth := by
  ext s
  cases b with
  | every span => simp [times, nth, eq_comm]
  | weekday n => simp [times, nth, eq_comm]
  | years => simp [times, nth, eq_comm]
  | months =>
    simp only [times, nth, monthNumber, Set.mem_ofPred_eq, Set.mem_range]
    constructor
    · rintro ⟨year, month, hmonth, rfl⟩
      exact ⟨12 * year + month, by rw [← monthNumber_eq year hmonth.le, monthNumber]⟩
    · rintro ⟨k, rfl⟩
      exact ⟨k / 12, (k % 12).toNat, by omega, rfl⟩

/-- one boundary of a unit at or before `t` with the next one behind `t` is the greatest one not after `t` -/
theorem isGreatest {b : Boundaries} (hb : StrictMono b.nth) {k t r : Int} (hr : b.nth k = r) (hle : r ≤ t)
    (hlt : t < b.nth (k + 1)) : IsGreatest (b.upTo t) r := by
  subst hr
  rw [upTo, times_eq]
  exact isGreatest_of_lt_next hb hle hlt

theorem isGreatest_every {span : Int} (hspan : 0 < span) (t : Int) :
    IsGreatest ((every span).upTo t) (t - t % span) := by
  have hmod := Int.emod_nonneg t hspan.ne'
  have hlt := Int.emod_lt_of_pos t hspan
  have hdiv := Int.mul_ediv_add_emod t span
  refine isGreatest (k := t / span) ?_ ?_ (by omega) ?_
  · exact fun j k hjk => by simpa [nth] using mul_lt_mul_of_pos_left hjk hspan
  · simp only [nth]
    omega
  · simp only [nth, mul_add, mul_one]
    omega

theorem isGreatest_weekday (n t : Int) : IsGreatest ((weekday n).upTo t) (weekStart n t) := by
  -- `k` counts the weeks since the one of the epoch
  refine isGreatest (k := (t / daySpan - n + 4) / 7) ?_ ?_ ?_ ?_
  · intro j k hjk
    simp only [nth, daySpan]
    omega
  all_goals
    simp only [nth, weekStart, isoWeekday, daySpan]
    omega

theorem isGreatest_years (t : Int) :
    IsGreatest (years.upTo t) ((t / daySpan - (yearAndDay (t / daySpan)).2) * daySpan) := by
  obtain ⟨hday, hnonneg, hlt⟩ := yearAndDay_spec (t / daySpan)
  have hnext := newYear_add_one (yearAndDay (t / daySpan)).1
  refine isGreatest (k := (yearAndDay (t / daySpan)).1) ?_ ?_ ?_ ?_
  · exact fun j k hjk => mul_lt_mul_of_pos_right (newYear_strictMono hjk) (by decide)
  all_goals
    simp only [nth, daySpan] at *
    omega

theorem isGreatest_months (t : Int) : IsGreatest (months.upTo t)
    ((t / daySpan - dayOfMonth (monthLengths (yearAndDay (t / daySpan)).1) (yearAndDay (t / daySpan)).2) * daySpan) := by
  obtain ⟨hday, hnonneg, hlt⟩ := yearAndDay_spec (t / daySpan)
  obtain ⟨month, hmonth, hstart, hfirst, hnext⟩ := dayOfMonth_spec hnonneg hlt
  rw [length_monthLengths] at hmonth
  have hthis := monthNumber_eq (yearAndDay (t / daySpan)).1 hmonth.le
  have hthen := monthNumber_eq (yearAndDay (t / daySpan)).1 (show month + 1 ≤ 12 by omega)
  rw [firstOfMonth] at hthis hthen
  push_cast at hthen
  rw [← add_assoc] at hthen
  refine isGreatest (k := 12 * (yearAndDay (t / daySpan)).1 + month) ?_ ?_ ?_ ?_
  · exact fun j k hjk => mul_lt_mul_of_pos_right (monthNumber_strictMono hjk) (by decide)
  all_goals
    simp only [nth, daySpan] at *
    omega

end Boundaries

/-! ## Texts to align to -/

/-- a character of what may stand in front of the name of a unit, which is passed over -/
def isCount (c : Char) : Bool :=
  c.isDigit || c == '+' || c == '-'

/-- which boundaries a unit with digits behind it stands for -/
inductive Aligns : TimeUnit → List Char → Boundaries → Prop
  | seconds digits : Aligns .seconds digits (.every 1)
  | minutes digits : Aligns .minutes digits (.every 60)
  | hours digits : Aligns .hours digits (.every 3600)
  | days digits : Aligns .days digits (.every 86400)
  | monday : Aligns .weeks [] (.weekday 1)
  | weekday {digits} (hne : digits ≠ []) (hle : 1 ≤ Decimal.digitsValue digits) (hge : Decimal.digitsValue digits ≤ 7) :
    Aligns .weeks digits (.weekday (Decimal.digitsValue digits))
  | months digits : Aligns .months digits .months
  | years digits : Aligns .years digits .years

/-- a text made of digits and signs, a name, and the digits behind that -/
structure UnitText (text : String) (name digits : List Char) : Prop where
  spelled : ∃ lead, text.toList = lead ++ (name ++ digits) ∧ ∀ c ∈ lead, isCount c = true
  ends : ∀ c ∈ name.getLast?, c.isDigit = false
  digits : ∀ c ∈ digits, c.isDigit = true

/-- a text that names boundaries -/
def Names (text : String) (b : Boundaries) : Prop :=
  ∃ name digits unit, UnitText text name digits ∧ TimeUnit.NamedBy unit name ∧ Aligns unit digits b

theorem toLower_of_isCount {c : Char} (h : isCount c = true) : c.toLower = c := by
  simp only [isCount, Char.isDigit, Bool.or_eq_true, Bool.and_eq_true, decide_eq_true_eq, beq_iff_eq,
    UInt32.le_iff_toNat_le, ge_iff_le] at h
  unfold Char.toLower
  rw [dif_neg]
  rintro ⟨h65, -⟩
  rw [ge_iff_le, UInt32.le_iff_toNat_le] at h65
  have hnine : '9'.val.toNat = 57 := rfl
  have hA : 'A'.val.toNat = 65 := rfl
  rcases h with ((h | rfl) | rfl)
  · omega
  · exact absurd h65 (by decide)
  · exact absurd h65 (by decide)

/-- the name of a unit begins with a letter -/
theorem exists_letter_of_namedBy {unit : TimeUnit} {name : List Char} (h : unit.NamedBy name) :
    ∃ c r, name = c :: r ∧ isCount c = false := by
  cases name with
  | nil => cases unit <;> simp [TimeUnit.NamedBy] at h
  | cons c r =>
    refine ⟨c, r, rfl, Bool.eq_false_iff.2 fun hc => ?_⟩
    have hlower := toLower_of_isCount hc
    have hletter : ∀ d ∈ ['s', 'm', 'h', 'd', 'w', 'y'], d ≠ c := by
      rintro d hd rfl
      revert hc
      fin_cases hd <;> decide
    cases unit <;> simp_all [TimeUnit.NamedBy]

theorem alignmentUnit_eq (s : List Char) : alignmentUnit s =
    ((s.dropWhile isCount).rdropWhile Char.isDigit, (s.dropWhile isCount).rtakeWhile Char.isDigit) := by
  show ((s.dropWhile isCount).rdrop ((s.dropWhile isCount).rtakeWhile Char.isDigit).length,
    (s.dropWhile isCount).rtakeWhile Char.isDigit) = _
  generalize s.dropWhile isCount = body
  have hdrop : (body.rdropWhile Char.isDigit ++ body.rtakeWhile Char.isDigit).rdrop
      (body.rtakeWhile Char.isDigit).length = body.rdropWhile Char.isDigit := List.rdrop_append_length
  rw [List.rdropWhile_append_rtakeWhile] at hdrop
  rw [hdrop]

theorem unitText_alignmentUnit (text : String) :
    UnitText text (alignmentUnit text.toList).1 (alignmentUnit text.toList).2 := by
  rw [alignmentUnit_eq]
  refine ⟨⟨text.toList.takeWhile isCount, ?_, fun c => List.mem_takeWhile_imp⟩, fun c hc => ?_,
    fun c => List.mem_rtakeWhile_imp⟩
  · rw [List.rdropWhile_append_rtakeWhile, List.takeWhile_append_dropWhile]
  · obtain ⟨hne, rfl⟩ := List.mem_getLast?_eq_getLast hc
    simpa using List.rdropWhile_last_not _ _ hne

theorem rtakeWhile_append {α : Type} {p : α → Bool} {l t : List α} (hl : ∀ a ∈ l.getLast?, p a = false)
    (ht : ∀ a ∈ t, p a = true) : (l ++ t).rtakeWhile p = t := by
  induction t using List.reverseRecOn with
  | nil =>
    rw [List.append_nil, List.rtakeWhile_eq_nil_iff]
    intro hne
    simp [hl _ (List.getLast?_eq_some_getLast hne)]
  | append_singleton t a ih =>
    rw [← List.append_assoc, List.rtakeWhile_concat_pos _ _ _ (ht a (by simp)), ih fun b hb => ht b (by simp [hb])]

/-- a text with the name of a unit in it is split in one way -/
theorem UnitText.eq_alignmentUnit {text : String} {name digits : List Char} (h : UnitText text name digits)
    (hname : ∃ c r, name = c :: r ∧ isCount c = false) : alignmentUnit text.toList = (name, digits) := by
  obtain ⟨⟨lead, htext, hlead⟩, hends, hdigits⟩ := h
  obtain ⟨c, r, hcons, hc⟩ := hname
  have hbody : text.toList.dropWhile isCount = name ++ digits := by
    rw [htext, List.dropWhile_append_of_pos hlead, hcons, List.cons_append, List.dropWhile_cons_of_neg (by simp [hc])]
  have htake := rtakeWhile_append hends hdigits
  have hdrop := List.rdropWhile_append_rtakeWhile (p := Char.isDigit) (l := name ++ digits)
  rw [htake] at hdrop
  rw [alignmentUnit_eq, hbody, htake, List.append_cancel_right hdrop]

/-! ## Aligned times -/

/-- a time moved back to the last boundary, where boundaries are known -/
def Boundaries.align? : Boundaries → Int → Option Int
  | every span, t => some (t - t % span)
  | weekday n, t => some (weekStart n t)
  | months, t => monthStart t
  | years, t => yearStart t

/-- **What is computed for a unit is its last boundary**, of every time that the unit covers. -/
theorem Aligns.align?_eq_some {unit : TimeUnit} {digits : List Char} {b : Boundaries} (h : Aligns unit digits b)
    (t : Int) : ∃ last, IsGreatest (b.upTo t) last ∧ ∀ r, b.align? t = some r ↔ b.Covers t ∧ last = r := by
  cases h with
  | weekday hne hle hge => exact ⟨_, Boundaries.isGreatest_weekday _ t, by simp [Boundaries.align?, Boundaries.Covers]⟩
  | monday => exact ⟨_, Boundaries.isGreatest_weekday _ t, by simp [Boundaries.align?, Boundaries.Covers]⟩
  | months =>
    refine ⟨_, Boundaries.isGreatest_months t, fun r => ?_⟩
    rw [Boundaries.Covers, dated_iff, Boundaries.align?, monthStart]
    simp
  | years =>
    refine ⟨_, Boundaries.isGreatest_years t, fun r => ?_⟩
    rw [Boundaries.Covers, dated_iff, Boundaries.align?, yearStart]
    simp
  | _ => exact ⟨_, Boundaries.isGreatest_every (by decide) t, by simp [Boundaries.align?, Boundaries.Covers]⟩

theorem weekdayOf_eq_some {digits : List Char} {n : Int} :
    weekdayOf digits = some n ↔ Aligns .weeks digits (.weekday n) := by
  cases digits with
  | nil =>
    constructor
    · rintro ⟨⟩
      exact .monday
    · rintro ⟨⟩
      · rfl
      · contradiction
  | cons d ds =>
    have hvalue : weekdayOf (d :: ds) = some n ↔
        (1 ≤ Decimal.digitsValue (d :: ds) ∧ Decimal.digitsValue (d :: ds) ≤ 7) ∧
          (Decimal.digitsValue (d :: ds) : Int) = n := by
      simp only [weekdayOf, Option.ite_none_right_eq_some, Option.some.injEq]
      omega
    rw [hvalue]
    constructor
    · rintro ⟨⟨hle, hge⟩, rfl⟩
      exact .weekday (List.cons_ne_nil d ds) hle hge
    · rintro ⟨⟩
      rename_i hle hge
      exact ⟨⟨hle, hge⟩, rfl⟩

/-- what a text comes to: the last boundary of those that it names -/
theorem Names.alignStart_eq {text : String} {b : Boundaries} (h : Names text b) (t : Int) :
    alignStart t text = (b.align? t).elim (.error (.invalid text)) .ok := by
  obtain ⟨name, digits, unit, htext, hunit, haligns⟩ := h
  have hsplit := htext.eq_alignmentUnit (exists_letter_of_namedBy hunit)
  unfold alignStart
  rw [hsplit]
  dsimp only
  rw [TimeUnit.ofLetters_eq_some_iff.2 hunit]
  cases haligns with
  | weekday hne hle hge =>
    rw [weekdayOf_eq_some.2 (.weekday hne hle hge)]
    rfl
  | seconds => simp [Boundaries.align?]
  | _ => rfl

/-- a text that names no boundaries is refused for its unit -/
theorem alignStart_of_not_names {text : String} (h : ∀ b, ¬Names text b) (t : Int) :
    alignStart t text = .error (.unknownUnits text) := by
  have hnone : ∀ unit, TimeUnit.ofLetters (alignmentUnit text.toList).1 = some unit →
      ∀ b, ¬Aligns unit (alignmentUnit text.toList).2 b := fun unit hunit b haligns =>
    h b ⟨_, _, unit, unitText_alignmentUnit text, TimeUnit.ofLetters_eq_some_iff.1 hunit, haligns⟩
  unfold alignStart
  generalize alignmentUnit text.toList = split at hnone
  obtain ⟨name, digits⟩ := split
  dsimp only at hnone ⊢
  cases hunit : TimeUnit.ofLetters name with
  | none => rfl
  | some unit =>
    have hweekday : unit = .weeks → weekdayOf digits = none := by
      rintro rfl
      rw [Option.eq_none_iff_forall_ne_some]
      exact fun n hn => hnone _ hunit _ (weekdayOf_eq_some.1 hn)
    cases unit with
    | weeks => rw [hweekday rfl]
    | seconds => exact absurd (.seconds digits) (hnone _ hunit _)
    | minutes => exact absurd (.minutes digits) (hnone _ hunit _)
    | hours => exact absurd (.hours digits) (hnone _ hunit _)
    | days => exact absurd (.days digits) (hnone _ hunit _)
    | months => exact absurd (.months digits) (hnone _ hunit _)
    | years => exact absurd (.years digits) (hnone _ hunit _)

theorem Names.alignStart_eq_ok {text : String} {b : Boundaries} (h : Names text b) (t : Int) :
    ∃ last, IsGreatest (b.upTo t) last ∧ ∀ r, alignStart t text = .ok r ↔ b.Covers t ∧ last = r := by
  obtain ⟨_, _, _, -, -, haligns⟩ := id h
  obtain ⟨last, hlast, halign⟩ := haligns.align?_eq_some t
  refine ⟨last, hlast, fun r => ?_⟩
  rw [← halign, h.alignStart_eq]
  cases b.align? t <;> simp

theorem names_of_alignStart {text : String} {t r : Int} (h : alignStart t text = .ok r) : ∃ b, Names text b := by
  by_contra hnone
  rw [alignStart_of_not_names (not_exists.1 hnone)] at h
  cases h

/-- a time that is covered has its last boundary covered: the years with dates begin with a boundary -/
theorem Boundaries.covers_of_isGreatest {b : Boundaries} {t r : Int} (ht : b.Covers t) (hr : IsGreatest (b.upTo t) r) :
    b.Covers r := by
  cases b with
  | every span => trivial
  | weekday n => trivial
  | months =>
    refine ⟨hr.2 ⟨⟨firstYear, 0, by decide, ?_⟩, ht.1⟩, hr.1.2.trans_lt ht.2⟩
    simp [firstOfMonth]
  | years => exact ⟨hr.2 ⟨⟨firstYear, rfl⟩, ht.1⟩, hr.1.2.trans_lt ht.2⟩

/-- **Alignment is a floor.** A text is accepted for a time exactly if it names boundaries that cover the time, and the
time is moved back to the greatest of them that is not after it. So it is never moved ahead, an aligned time stays, and
alignment keeps times in order. -/
theorem alignStart_floor (text : String) (t : Int) :
    (∀ r, alignStart t text = .ok r ↔ ∃ b, Names text b ∧ b.Covers t ∧ IsGreatest (b.upTo t) r) ∧
      (∀ b, Names text b → b.Covers t → ∃ r, alignStart t text = .ok r) ∧
      ∀ r, alignStart t text = .ok r → r ≤ t ∧ alignStart r text = .ok r ∧
        ∀ t' r', t ≤ t' → alignStart t' text = .ok r' → r ≤ r' := by
  refine ⟨fun r => ⟨fun h => ?_, ?_⟩, fun b hb ht => ?_, fun r h => ?_⟩
  · obtain ⟨b, hb⟩ := names_of_alignStart h
    obtain ⟨last, hlast, hok⟩ := hb.alignStart_eq_ok t
    obtain ⟨ht, rfl⟩ := (hok r).1 h
    exact ⟨b, hb, ht, hlast⟩
  · rintro ⟨b, hb, ht, hr⟩
    obtain ⟨last, hlast, hok⟩ := hb.alignStart_eq_ok t
    exact (hok r).2 ⟨ht, hlast.unique hr⟩
  · obtain ⟨last, -, hok⟩ := hb.alignStart_eq_ok t
    exact ⟨last, (hok last).2 ⟨ht, rfl⟩⟩
  · obtain ⟨b, hb⟩ := names_of_alignStart h
    obtain ⟨last, hlast, hok⟩ := hb.alignStart_eq_ok t
    obtain ⟨ht, rfl⟩ := (hok r).1 h
    refine ⟨hlast.1.2, ?_, fun t' r' hle h' => ?_⟩
    · obtain ⟨again, hagain, hok'⟩ := hb.alignStart_eq_ok last
      have hself : IsGreatest (b.upTo last) last := ⟨⟨hlast.1.1, le_rfl⟩, fun _ hs => hs.2⟩
      exact (hok' last).2 ⟨Boundaries.covers_of_isGreatest ht hlast, hagain.unique hself⟩
    · obtain ⟨later, hlater, hok'⟩ := hb.alignStart_eq_ok t'
      obtain ⟨-, rfl⟩ := (hok' r').1 h'
      exact hlater.2 ⟨hlast.1.1, hlast.1.2.trans hle⟩

/-- an hour before the epoch is moved back to the Friday before it, as a second before the epoch is -/
theorem alignStart_floor_before_epoch : (∃ r, alignStart (-3600) "weeks5" = .ok r) ∧
    alignStart (-3600) "weeks5" = .ok (-518400) ∧ alignStart (-518400) "weeks5" = .ok (-518400) ∧
    ∀ r, alignStart (-1) "weeks5" = .ok r → -518400 ≤ r := by
  have hnames : Names "weeks5" (.weekday 5) := by
    refine ⟨['w', 'e', 'e', 'k', 's'], ['5'], .weeks, ⟨⟨[], by simp, by simp⟩, by simp, by simp⟩, ?_, ?_⟩
    · exact TimeUnit.ofLetters_eq_some_iff.1 (by decide)
    · exact weekdayOf_eq_some.1 (by decide)
  have hfriday : IsGreatest ((Boundaries.weekday 5).upTo (-3600)) (-518400) := Boundaries.isGreatest_weekday 5 (-3600)
  obtain ⟨hiff, hcovered, hlaw⟩ := alignStart_floor "weeks5" (-3600)
  have hstart := (hiff (-518400)).2 ⟨.weekday 5, hnames, trivial, hfriday⟩
  obtain ⟨-, hagain, hmono⟩ := hlaw (-518400) hstart
  exact ⟨hcovered (.weekday 5) hnames trivial, hstart, hagain, fun r => hmono (-1) r (by decide)⟩

example : alignStart (-1) "months" = .ok (-2678400) := by decide +kernel

end MetricQuery.Time
