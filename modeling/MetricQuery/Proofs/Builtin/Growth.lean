/-
Growth of counters, and where it is negative.

`counterGrowth` hands one value on, the sample it was given if that is between the bounds known. So there is no history:
the growth at a sample depends on that sample and the one before it (`counterGrowths_eq_zipWith`).

A counter that fell has wrapped. With a least value known nothing is below it, so what is counted is the way up to the
greatest and on from the least, which is not negative. With the greatest value alone the counter is taken to begin again
at zero, but samples below zero are not dropped, and a fall by more than the whole range comes out as a negative growth.
`counterGrowths_neg_iff` says that this is the only way to one.

Samples and bounds are rationals here, so that nothing is rounded.
-/
import MetricQuery.Builtin.Transform
import Mathlib.Tactic.Linarith

namespace MetricQuery.Builtin

section Growth

variable (greatest least : Option ℚ)

/-- whether a value is between the bounds known -/
def inBounds (x : ℚ) : Bool :=
  !(greatest.any (fun m => decide (m < x)) || least.any fun m => decide (x < m))

/-- growth from a sample to the next, both between the bounds -/
def growthFrom (p x : ℚ) : Option ℚ :=
  if p ≤ x then some (x - p)
  else match greatest, least with
    | some m, l => some (m + 1 + x - p - l.getD 0)
    | none, some l => some (x - l)
    | none, none => none

variable {greatest least}

theorem inBounds_iff {x : ℚ} : inBounds greatest least x = true ↔ (∀ m ∈ greatest, x ≤ m) ∧ ∀ l ∈ least, l ≤ x := by
  simp [inBounds, Option.any_eq_false]

/-! ## One sample -/

/-- a sample outside the bounds is as good as a missing one; one between them is handed on -/
theorem counterGrowth_eq (previous value : Option ℚ) :
    counterGrowth greatest least previous value =
      let kept := value.filter (inBounds greatest least)
      (previous.bind fun p => kept.bind fun x => growthFrom greatest least p x, kept) := by
  cases value with
  | none => cases previous <;> rfl
  | some x =>
    unfold counterGrowth growthFrom
    cases hx : inBounds greatest least x with
    | false =>
      have hout := hx
      rw [inBounds, Bool.not_eq_false'] at hout
      simp only [Option.filter_some, hx, if_pos hout]
      cases previous <;> rfl
    | true =>
      have hin := hx
      rw [inBounds, Bool.not_eq_true'] at hin
      simp only [Option.filter_some, hx, if_neg (Bool.eq_false_iff.1 hin)]
      cases previous with
      | none => rfl
      | some p =>
        by_cases hle : p ≤ x
        · simp [hle]
        · cases greatest <;> cases least <;> simp [hle]

/-- **One growth is negative behind a fall by more than the range**, with the greatest value known and the least not. -/
theorem growthFrom_neg_iff {p x : ℚ} (hp : inBounds greatest least p = true) (hx : inBounds greatest least x = true) :
    (∃ g < 0, growthFrom greatest least p x = some g) ↔
      ∃ m, greatest = some m ∧ least = none ∧ x < p ∧ m + 1 < p - x := by
  obtain ⟨hhigh, -⟩ := inBounds_iff.1 hp
  obtain ⟨-, hlow⟩ := inBounds_iff.1 hx
  unfold growthFrom
  by_cases hle : p ≤ x
  · simp only [if_pos hle, Option.some.injEq]
    constructor
    · rintro ⟨g, hneg, rfl⟩
      linarith
    · rintro ⟨m, -, -, hfall, -⟩
      linarith
  · -- a wrap; nothing bounds `x` from below where the least value is not known
    rw [if_neg hle]
    cases greatest with
    | none =>
      cases least with
      | none => simp
      | some l =>
        have hl : l ≤ x := hlow l rfl
        simpa using hl
    | some m =>
      have hm : p ≤ m := hhigh m rfl
      cases least with
      | none =>
        constructor
        · rintro ⟨g, hneg, hg⟩
          have hg : m + 1 + x - p - 0 = g := Option.some.inj hg
          exact ⟨m, rfl, rfl, not_le.1 hle, by linarith⟩
        · rintro ⟨n, hn, -, -, hfall⟩
          rw [← Option.some.inj hn] at hfall
          exact ⟨m + 1 + x - p - 0, by linarith, rfl⟩
      | some l =>
        have hl : l ≤ x := hlow l rfl
        constructor
        · rintro ⟨g, hneg, hg⟩
          have hg : m + 1 + x - p - l = g := Option.some.inj hg
          linarith
        · rintro ⟨-, -, hnone, -⟩
          cases hnone

/-! ## All samples -/

/-- **No history.** Each growth is that from the sample before, if both are between the bounds. -/
theorem counterGrowths_eq_zipWith (previous : Option ℚ) (xs : List (Option ℚ)) :
    counterGrowths greatest least previous xs =
      let kept := xs.map (Option.filter (inBounds greatest least))
      List.zipWith (fun before value => before.bind fun p => value.bind fun x => growthFrom greatest least p x)
        (previous :: kept) kept := by
  induction xs generalizing previous with
  | nil => rfl
  | cons v xs ih =>
    rw [counterGrowths, counterGrowth_eq]
    exact congrArg (List.cons _) (ih _)

/-- a sample between the bounds is one of the samples -/
theorem getElem?_kept {xs : List (Option ℚ)} {i : ℕ} {x : ℚ} :
    (xs.map (Option.filter (inBounds greatest least)))[i]? = some (some x) ↔
      xs[i]? = some (some x) ∧ inBounds greatest least x = true := by
  simp [List.getElem?_map, Option.filter_eq_some_iff]

/-- **Growth is negative only behind a wrap below zero.** The growth at a sample is less than zero exactly if the greatest
value is known and the least is not, and the sample before it, at most the greatest value, was greater than it by more
than the greatest value and one. With a least value, or without a greatest, no growth is negative. -/
theorem counterGrowths_neg_iff (greatest least : Option ℚ) (xs : List (Option ℚ)) (i : ℕ) :
    (∃ g < 0, (counterGrowths greatest least none xs)[i]? = some (some g)) ↔
      ∃ m, greatest = some m ∧ least = none ∧ ∃ j p x, i = j + 1 ∧ xs[j]? = some (some p) ∧
        xs[j + 1]? = some (some x) ∧ p ≤ m ∧ x < p ∧ m + 1 < p - x := by
  rw [counterGrowths_eq_zipWith]
  constructor
  · rintro ⟨g, hneg, hg⟩
    obtain ⟨before, value, hbefore, hvalue, hboth⟩ := List.getElem?_zipWith_eq_some.1 hg
    obtain ⟨p, rfl, hfrom⟩ := Option.bind_eq_some_iff.1 hboth
    obtain ⟨x, rfl, hgrowth⟩ := Option.bind_eq_some_iff.1 hfrom
    cases i with
    | zero => cases hbefore
    | succ j =>
      obtain ⟨hj, hp⟩ := getElem?_kept.1 hbefore
      obtain ⟨hi, hx⟩ := getElem?_kept.1 hvalue
      obtain ⟨m, rfl, rfl, hfall, hrange⟩ := (growthFrom_neg_iff hp hx).1 ⟨g, hneg, hgrowth⟩
      exact ⟨m, rfl, rfl, j, p, x, rfl, hj, hi, (inBounds_iff.1 hp).1 m rfl, hfall, hrange⟩
  · rintro ⟨m, rfl, rfl, j, p, x, rfl, hj, hi, hm, hfall, hrange⟩
    have hp : inBounds (some m) none p = true := inBounds_iff.2 ⟨by simpa using hm, by simp⟩
    have hx : inBounds (some m) none x = true := inBounds_iff.2 ⟨by simpa using (hfall.trans_le hm).le, by simp⟩
    obtain ⟨g, hneg, hgrowth⟩ := (growthFrom_neg_iff hp hx).2 ⟨m, rfl, rfl, hfall, hrange⟩
    exact ⟨g, hneg, List.getElem?_zipWith_eq_some.2
      ⟨some p, some x, getElem?_kept.2 ⟨hj, hp⟩, getElem?_kept.2 ⟨hi, hx⟩, hgrowth⟩⟩

/-- from five to ten below zero, with a greatest value of five: taken for a growth by nine less than nothing -/
theorem counterGrowths_neg_nine :
    ¬ ∀ g ∈ counterGrowths (some 5) none none [some 5, some (-10)], ∀ x ∈ g, (0 : ℚ) ≤ x := by
  decide +kernel

end Growth

end MetricQuery.Builtin
