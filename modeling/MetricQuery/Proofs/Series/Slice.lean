/-
Samples cut out by a window of time.

`slice` makes two indices of the ends of a window: it takes the start of the series off, saturating where 64 bits end,
divides by the step, rounding up, and moves the quotient into the list. So an index is right only as far as the
saturation, the rounding and the move are.

- `indexFrom_le_iff`: for a sample of the series all three are. The sample stands at the index or behind it exactly if
  its time is not before that end of the window, wherever the window lies.
- `inside`: what a slice should hold, told by times. `samples_slice` and `slice_eq_none_iff` say that it holds just that.
- `slice64`: the same slice, with every number it computes checked against 64 bits; `slice64_eq`: none is out of range.
-/
import MetricQuery.Proofs.Series.Nudge
import MetricQuery.Proofs.Series.Range

namespace MetricQuery.Series

/-! ## Samples by place and by time -/

/-- the samples of a series with times in a window, in order -/
def inside (s : Series) (w : Time.Window) : List (Int × Float) :=
  s.samples.filter fun p => w.start ≤ p.1 ∧ p.1 < w.stop

theorem getElem?_samples (s : Series) (i : Nat) : s.samples[i]? = s.values[i]?.map fun v => (s.timestamp i, v) := by
  simp [samples, Function.comp_def]

theorem length_samples (s : Series) : s.samples.length = s.values.length := by
  simp [samples]

/-- a sample lasts for a step, and all of that is in the window that the series covers -/
theorem Consistent.sample_within {s : Series} (hs : s.Consistent) {p : Int × Float} (hp : p ∈ s.samples) :
    s.start ≤ p.1 ∧ p.1 + s.step ≤ s.stop := by
  obtain ⟨i, hv, hi⟩ := mem_samples_iff.1 hp
  have hlt : i < s.values.length := (List.getElem?_eq_some_iff.1 hv).1
  have hfirst : 0 ≤ (i : Int) * s.step := Int.mul_nonneg (Int.natCast_nonneg i) hs.1.le
  have hlast : ((i : Int) + 1) * s.step ≤ s.values.length * s.step := Int.mul_le_mul_of_nonneg_right (by omega) hs.1.le
  have hlength := hs.2
  rw [Int.add_mul, Int.one_mul] at hlast
  rw [hi, timestamp]
  omega

/-- what a filter keeps that goes by the place alone -/
theorem filter_eq_run {α : Type} {keep : α → Bool} {xs : List α} {first last : Nat}
    (h : ∀ i x, xs[i]? = some x → (keep x = true ↔ first ≤ i ∧ i < last)) :
    xs.filter keep = (xs.take last).drop first := by
  induction xs generalizing first last with
  | nil => simp
  | cons x xs ih =>
    have hx := h 0 x rfl
    have hxs : ∀ i y, xs[i]? = some y → (keep y = true ↔ first ≤ i + 1 ∧ i + 1 < last) := fun i y hy => h (i + 1) y hy
    cases last with
    | zero =>
      rw [List.take_zero, List.drop_nil, List.filter_eq_nil_iff]
      intro y hy hkeep
      obtain ⟨i, hi⟩ := List.mem_iff_getElem?.1 hy
      exact Nat.not_lt_zero i ((h i y hi).1 hkeep).2
    | succ last =>
      rw [List.take_succ_cons]
      cases first with
      | zero =>
        have hrest : xs.filter keep = (xs.take last).drop 0 := ih fun i y hy => (hxs i y hy).trans (by omega)
        rw [List.filter_cons_of_pos (hx.2 ⟨Nat.le_refl 0, Nat.succ_pos last⟩), hrest, List.drop_zero, List.drop_zero]
      | succ first =>
        rw [List.filter_cons_of_neg fun hkeep => Nat.not_succ_le_zero first (hx.1 hkeep).1, List.drop_succ_cons]
        exact ih fun i y hy => (hxs i y hy).trans (by omega)

/-- the samples of a stretch are those of the series, at their times -/
theorem Stretch.samples_series {s : Series} (t : s.Stretch) :
    t.series.samples = (s.samples.drop t.first).take t.count := by
  apply List.ext_getElem?
  intro i
  rw [getElem?_samples, t.timestamp_series, List.getElem?_take, List.getElem?_drop, getElem?_samples]
  simp only [series, withValues, List.getElem?_take, List.getElem?_drop]
  split
  · rfl
  · rfl

/-! ## From times to indices -/

theorem indexFrom_le (s : Series) (t : Int) : s.indexFrom t ≤ s.values.length := by
  unfold indexFrom
  omega

theorem ceilDiv_le_iff {a b m : Int} (hb : 0 < b) : ceilDiv a b ≤ m ↔ a ≤ m * b := by
  have hsplit := Int.ediv_mul_add_emod a b
  unfold ceilDiv
  by_cases hmod : a % b = 0
  · rw [if_pos hmod]
    rw [hmod, Int.add_zero] at hsplit
    rw [← Int.mul_le_mul_right hb, hsplit]
  · rw [if_neg hmod]
    have hne : a ≠ m * b := by
      rintro rfl
      exact hmod (Int.mul_emod_left m b)
    have hlt : a / b < m ↔ a < m * b := Int.ediv_lt_iff_lt_mul hb
    omega

/-- Times up to `t` have exact indices: in 64 bits the series is not too long, or the time not too far behind its start.
A time too far in front of it is no matter. -/
def IndexFits (s : Series) (t : Int) : Prop :=
  s.values.length * s.step ≤ Time.greatest ∨ t - s.start ≤ Time.greatest

instance (s : Series) (t : Int) : Decidable (s.IndexFits t) := by unfold IndexFits; infer_instance

theorem IndexFits.mono {s : Series} {t u : Int} (h : s.IndexFits t) (hle : u ≤ t) : s.IndexFits u := by
  rcases h with hlength | htime
  · exact Or.inl hlength
  · exact Or.inr (by omega)

section Index

variable {s : Series} (hstep : 0 < s.step)
include hstep

/-- **An index tells the samples before a time from the others**, however far away the time is. -/
theorem indexFrom_le_iff {t : Int} (hfits : s.IndexFits t) {i : Nat} (hi : i < s.values.length) :
    s.indexFrom t ≤ i ↔ t ≤ s.timestamp i := by
  have hleast := least_le_of_nonneg (Int.mul_nonneg (Int.natCast_nonneg i) hstep.le)
  have hbelow : (i : Int) * s.step < s.values.length * s.step := Int.mul_lt_mul_of_pos_right (by omega) hstep
  have hsaturated : Time.saturated (t - s.start) ≤ i * s.step ↔ t - s.start ≤ i * s.step := by
    unfold Time.saturated
    rcases hfits with hlength | htime
    · omega
    · omega
  calc s.indexFrom t ≤ i ↔ ceilDiv (Time.saturated (t - s.start)) s.step ≤ i := by unfold indexFrom; omega
    _ ↔ Time.saturated (t - s.start) ≤ i * s.step := ceilDiv_le_iff hstep
    _ ↔ t - s.start ≤ i * s.step := hsaturated
    _ ↔ t ≤ s.timestamp i := by unfold timestamp; omega

theorem inside_eq_run {w : Time.Window} (hstart : s.IndexFits w.start) (hstop : s.IndexFits w.stop) :
    s.inside w = (s.samples.take (s.indexFrom w.stop)).drop (s.indexFrom w.start) := by
  refine filter_eq_run fun i p hp => ?_
  rw [getElem?_samples] at hp
  obtain ⟨v, hv, rfl⟩ := Option.map_eq_some_iff.1 hp
  have hi : i < s.values.length := (List.getElem?_eq_some_iff.1 hv).1
  have hfirst := indexFrom_le_iff hstep hstart hi
  have hlast := indexFrom_le_iff hstep hstop hi
  simp only [decide_eq_true_eq]
  omega

end Index

/-! ## Slices -/

/-- the samples between the indices of a window -/
def stretchIn (s : Series) (w : Time.Window) : s.Stretch where
  first := s.indexFrom w.start
  count := s.indexFrom w.stop - s.indexFrom w.start
  inside := by
    have hstart := s.indexFrom_le w.start
    have hstop := s.indexFrom_le w.stop
    omega

section Slice

variable {s : Series} (hstep : 0 < s.step)
include hstep

theorem slice_eq (w : Time.Window) :
    s.slice w = if s.indexFrom w.stop ≤ s.indexFrom w.start then none else some (s.stretchIn w).series := by
  unfold slice
  dsimp only
  by_cases hvoid : s.indexFrom w.stop ≤ s.indexFrom w.start
  · rw [if_pos (Or.inr hvoid), if_pos hvoid]
  · rw [if_neg (by omega), if_neg hvoid]
    rfl

theorem slice_eq_some {w : Time.Window} {cut : Series} (h : s.slice w = some cut) :
    cut = (s.stretchIn w).series ∧ s.indexFrom w.start < s.indexFrom w.stop := by
  rw [slice_eq hstep] at h
  split at h
  · cases h
  · rename_i hvoid
    exact ⟨(Option.some.inj h).symm, not_le.1 hvoid⟩

variable {w : Time.Window} (hstart : s.IndexFits w.start) (hstop : s.IndexFits w.stop)
include hstart hstop

/-- **A slice holds the samples of its window.** -/
theorem samples_slice {cut : Series} (h : s.slice w = some cut) : cut.samples = s.inside w := by
  rw [(slice_eq_some hstep h).1, Stretch.samples_series, inside_eq_run hstep hstart hstop, List.drop_take]
  rfl

theorem slice_eq_none_iff : s.slice w = none ↔ s.inside w = [] := by
  have hlast := s.indexFrom_le w.stop
  rw [inside_eq_run hstep hstart hstop, List.drop_eq_nil_iff, List.length_take, length_samples, slice_eq hstep]
  split
  · simp only [true_iff]
    omega
  · simp only [reduceCtorEq, false_iff]
    omega

end Slice

/-! ## In 64 bits -/

/-- `ceilDiv` with its numbers checked -/
def ceilDiv64 (a b : Int) : Option Int := do
  let quotient ← Time.checked (a / b)
  let remainder ← Time.checked (a % b)
  if remainder = 0 then some quotient else Time.checked (quotient + 1)

/-- `indexFrom` with its numbers checked; what is saturated needs no check -/
def indexFrom64 (s : Series) (t : Int) : Option Nat := do
  let quotient ← ceilDiv64 (Time.saturated (t - s.start)) s.step
  let count ← Time.checked s.values.length
  some (max 0 (min count quotient)).toNat

/-- `slice` with every number that it computes checked against 64 bits; nothing if one is out of range -/
def slice64 (s : Series) (w : Time.Window) : Option (Option Series) :=
  if s.step ≤ 0 then some none
  else do
    let first ← s.indexFrom64 w.start
    let last ← s.indexFrom64 w.stop
    if last ≤ first then some none
    else do
      let start ← after64 s.start s.step first
      let cut ← s.movedTo64 start ((s.values.drop first).take (last - first))
      some (some cut)

theorem inRange_saturated (n : Int) : Time.least ≤ Time.saturated n ∧ Time.saturated n ≤ Time.greatest := by
  have hrange : Time.least ≤ Time.greatest := by decide
  unfold Time.saturated
  omega

/-- a quotient rounded up, and what it is computed from, are no farther from zero than the dividend -/
theorem ceilDiv64_eq {a b : Int} (hb : 0 < b) (hb' : b ≤ Time.greatest) (hleast : Time.least ≤ a)
    (hgreatest : a ≤ Time.greatest) : ceilDiv64 a b = some (ceilDiv a b) := by
  have hzero : Time.least ≤ 0 ∧ 0 ≤ Time.greatest := by decide
  have hsplit := Int.ediv_mul_add_emod a b
  have hnonneg := Int.emod_nonneg a hb.ne'
  have hlt := Int.emod_lt_of_pos a hb
  have hquotient : Time.least ≤ a / b ∧ a / b ≤ Time.greatest ∧ (a % b ≠ 0 → a / b + 1 ≤ Time.greatest) := by
    rcases lt_or_ge (a / b) 0 with hneg | hpos
    · have hmul : (a / b + 1) * b ≤ (a / b + 1) * 1 := Int.mul_le_mul_of_nonpos_left (by omega) (by omega)
      rw [Int.add_mul, Int.one_mul, Int.mul_one] at hmul
      omega
    · have hmul : a / b * 1 ≤ a / b * b := Int.mul_le_mul_of_nonneg_left (by omega) hpos
      omega
  obtain ⟨hlow, hhigh, hnext⟩ := hquotient
  unfold ceilDiv64 ceilDiv
  rw [checked_eq_some hlow hhigh, checked_eq_some (by omega) (by omega)]
  show (if a % b = 0 then some (a / b) else Time.checked (a / b + 1)) = _
  by_cases hmod : a % b = 0
  · rw [if_pos hmod, if_pos hmod]
  · rw [if_neg hmod, if_neg hmod, checked_eq_some (by omega) (hnext hmod)]

section Fits

variable {s : Series} (hs : s.Consistent) (hfits : s.Fits64)
include hs hfits

theorem Fits64.indexFrom64_eq (t : Int) : s.indexFrom64 t = some (s.indexFrom t) := by
  obtain ⟨hleast, hgreatest⟩ := inRange_saturated (t - s.start)
  unfold indexFrom64
  rw [ceilDiv64_eq hs.1 (inRange_iff.1 hfits.step).2 hleast hgreatest, Option.bind_eq_bind, Option.bind_some,
    checked_count hs.1 (hfits.span_le hs)]
  rfl

/-- **No number is out of range**: a slice is computed in 64 bits as it is without bounds. -/
theorem Fits64.slice64_eq (w : Time.Window) : s.slice64 w = some (s.slice w) := by
  have hstep := hs.1
  have hspan := hfits.span_le hs
  have hstart := (inRange_iff.1 hfits.start).1
  have hstop := (inRange_iff.1 hfits.stop).2
  have hlength := hs.2
  have hlast := s.indexFrom_le w.stop
  unfold slice64
  rw [if_neg (not_le.2 hstep), hfits.indexFrom64_eq hs, hfits.indexFrom64_eq hs, slice_eq hstep]
  show (if s.indexFrom w.stop ≤ s.indexFrom w.start then some none else _) = _
  by_cases hvoid : s.indexFrom w.stop ≤ s.indexFrom w.start
  · rw [if_pos hvoid, if_pos hvoid]
  · rw [if_neg hvoid, if_neg hvoid]
    have hbehind : (s.indexFrom w.start : Int) * s.step ≤ s.indexFrom w.stop * s.step :=
      Int.mul_le_mul_of_nonneg_right (by omega) hstep.le
    have hinside : (s.indexFrom w.stop : Int) * s.step ≤ s.values.length * s.step :=
      Int.mul_le_mul_of_nonneg_right (by omega) hstep.le
    have hfirst : 0 ≤ (s.indexFrom w.start : Int) * s.step := Int.mul_nonneg (Int.natCast_nonneg _) hstep.le
    have hcut : (((s.values.drop (s.indexFrom w.start)).take (s.indexFrom w.stop - s.indexFrom w.start)).length : Int) *
        s.step = s.indexFrom w.stop * s.step - s.indexFrom w.start * s.step := by
      rw [List.length_take, List.length_drop, Nat.min_eq_left (by omega), Nat.cast_sub (by omega), Int.sub_mul]
    rw [after64_eq hstep hstart (by omega) (by omega)]
    show (do let cut ← s.movedTo64 _ _; some (some cut)) = _
    rw [movedTo64_eq hstep (by omega) (by omega) (by omega)]
    rfl

end Fits

/-- **Slices are exact.** A consistent series, of times that 64 bits hold, is cut by any window to the samples with
their times in it, in order and at these times, on a grid of its own and otherwise as it was; where there is no such
sample nothing is left. And no number on the way is out of the range of 64 bits, however far away the window is. -/
theorem slice_exact {s : Series} (hs : s.Consistent) (hfits : s.Fits64) (w : Time.Window) :
    (s.slice w = none ↔ ∀ p ∈ s.samples, ¬ (w.start ≤ p.1 ∧ p.1 < w.stop)) ∧
      (∀ cut, s.slice w = some cut → cut.Consistent ∧
        cut.samples = s.samples.filter (fun p => w.start ≤ p.1 ∧ p.1 < w.stop) ∧
        cut = { s with values := cut.values, start := cut.start, stop := cut.stop }) ∧
      s.slice64 w = some (s.slice w) := by
  have hindex : ∀ t, s.IndexFits t := fun t => Or.inl (hfits.span_le hs)
  refine ⟨?_, fun cut hcut => ⟨?_, samples_slice hs.1 (hindex _) (hindex _) hcut, ?_⟩, hfits.slice64_eq hs w⟩
  · rw [slice_eq_none_iff hs.1 (hindex _) (hindex _), inside, List.filter_eq_nil_iff]
    simp
  · rw [(slice_eq_some hs.1 hcut).1]
    exact consistent_withValues _ _ hs.1
  · rw [(slice_eq_some hs.1 hcut).1]
    rfl

/-- a series at the least time of all, cut by a window that ends at the greatest: the way from the one to the other
does not fit in 64 bits -/
theorem slice_exact_three :
    let s := ofSamples "m" [1, 2, 3] 10 (Time.least + 5)
    let w : Time.Window := ⟨Time.least + 6, Time.greatest⟩
    s.Consistent ∧ s.Fits64 ∧ Time.inRange (w.stop - s.start) = false ∧
      ∃ cut, s.slice w = some cut ∧ cut.samples = [(Time.least + 15, 2), (Time.least + 25, 3)] ∧ cut.Consistent ∧
        s.slice64 w = some (some cut) := by
  intro s w
  have hs : s.Consistent := by decide
  have hfits : s.Fits64 := ⟨by decide, by decide, by decide, by decide⟩
  have hfar : Time.inRange (w.stop - s.start) = false := by decide
  obtain ⟨hnone, hsome, hchecked⟩ := slice_exact hs hfits w
  have hsample : (Time.least + 15, 2) ∈ s.samples := mem_samples_iff.2 ⟨1, rfl, by decide⟩
  cases hcut : s.slice w with
  | none => exact absurd (by decide) (hnone.1 hcut _ hsample)
  | some cut =>
    obtain ⟨hconsistent, hsamples, -⟩ := hsome cut hcut
    exact ⟨hs, hfits, hfar, cut, rfl, hsamples, hconsistent, hcut ▸ hchecked⟩

end MetricQuery.Series
