/-
Series padded to one window.

`align` pads series with missing samples, so that the samples at one index may be reduced together. Padding moves the
ends of a series by whole steps only, and never past the earliest start or the latest stop. So the series returned cover
one window exactly where they stand alike to the multiples of the common step: `phase` is how long after such a multiple
a series begins once it is on that step. A finer series is downsampled from a multiple on and has phase zero; a series
that is on the step already keeps the times of its samples.

`sameGrid_padToWindow_iff` says so for two series of one step, `exists_onStep` reduces every list of series to one of
one step, and `aligned_align` puts both together.
-/
import MetricQuery.Proofs.Series.Grid

namespace MetricQuery.Series

/-! ## The earliest start, the latest stop and the greatest length -/

theorem min?_starts {series : List Series} (h : series ≠ []) :
    (series.map (·.start)).min? = some (earliestStart series) := by
  cases series with
  | nil => exact absurd rfl h
  | cons s rest =>
    rw [List.map_cons, List.min?_cons', List.foldl_map]
    rfl

theorem max?_stops {series : List Series} (h : series ≠ []) :
    (series.map (·.stop)).max? = some (latestStop series) := by
  cases series with
  | nil => exact absurd rfl h
  | cons s rest =>
    rw [List.map_cons, List.max?_cons', List.foldl_map]
    rfl

theorem earliestStart_le {series : List Series} {s : Series} (h : s ∈ series) : earliestStart series ≤ s.start := by
  have hmin := List.min?_eq_some_iff.1 (min?_starts (List.ne_nil_of_mem h))
  exact hmin.2 s.start (List.mem_map_of_mem h)

theorem le_latestStop {series : List Series} {s : Series} (h : s ∈ series) : s.stop ≤ latestStop series := by
  have hmax := List.max?_eq_some_iff.1 (max?_stops (List.ne_nil_of_mem h))
  exact hmax.2 s.stop (List.mem_map_of_mem h)

theorem exists_start_eq {series : List Series} (h : series ≠ []) : ∃ s ∈ series, s.start = earliestStart series :=
  List.mem_map.1 (List.min?_eq_some_iff.1 (min?_starts h)).1

theorem exists_stop_eq {series : List Series} (h : series ≠ []) : ∃ s ∈ series, s.stop = latestStop series :=
  List.mem_map.1 (List.max?_eq_some_iff.1 (max?_stops h)).1

theorem foldl_length_le_iff (series : List Series) (n m : Nat) :
    series.foldl (fun n s => max n s.values.length) n ≤ m ↔ n ≤ m ∧ ∀ s ∈ series, s.values.length ≤ m := by
  induction series generalizing n with
  | nil => simp
  | cons s rest ih => rw [List.foldl_cons, ih, max_le_iff, List.forall_mem_cons, and_assoc]

theorem longest_le_iff {series : List Series} {m : Nat} :
    longest series ≤ m ↔ ∀ s ∈ series, s.values.length ≤ m := by
  rw [longest, foldl_length_le_iff, and_iff_right (Nat.zero_le m)]

theorem length_le_longest {series : List Series} {s : Series} (h : s ∈ series) : s.values.length ≤ longest series :=
  longest_le_iff.1 le_rfl s h

/-! ## The common step -/

theorem foldl_commonStep_dvd_iff (rest : List Series) (step d : Int) :
    rest.foldl (fun step r => commonStep step r.step) step ∣ d ↔ step ∣ d ∧ ∀ r ∈ rest, r.step ∣ d := by
  induction rest generalizing step with
  | nil => simp
  | cons r rest ih =>
    rw [List.foldl_cons, ih, commonStep, Int.coe_lcm_dvd_iff, List.forall_mem_cons, and_assoc]

theorem foldl_commonStep_pos {rest : List Series} (h : ∀ r ∈ rest, 0 < r.step) {step : Int} (hstep : 0 < step) :
    0 < rest.foldl (fun step r => commonStep step r.step) step := by
  induction rest generalizing step with
  | nil => exact hstep
  | cons r rest ih =>
    obtain ⟨hr, hrest⟩ := List.forall_mem_cons.1 h
    have hcommon : 0 < commonStep step r.step := Int.natCast_pos.2 (Int.lcm_pos hstep.ne' hr.ne')
    exact ih hrest hcommon

/-- without a step that was asked for, series are scaled to the least common multiple of their steps -/
theorem targetStep_dvd_iff {series : List Series} (h : series ≠ []) (d : Int) :
    targetStep 0 series ∣ d ↔ ∀ s ∈ series, s.step ∣ d := by
  cases series with
  | nil => exact absurd rfl h
  | cons s rest =>
    rw [targetStep, if_neg (lt_irrefl 0), foldl_commonStep_dvd_iff, and_iff_right_iff_imp]
    intro hall
    exact hall s List.mem_cons_self

theorem targetStep_pos {series : List Series} (h : series ≠ []) (hpos : ∀ s ∈ series, 0 < s.step) :
    0 < targetStep 0 series := by
  cases series with
  | nil => exact absurd rfl h
  | cons s rest =>
    rw [targetStep, if_neg (lt_irrefl 0)]
    exact foldl_commonStep_pos hpos (hpos s List.mem_cons_self)

theorem step_dvd_targetStep {series : List Series} {s : Series} (h : s ∈ series) : s.step ∣ targetStep 0 series :=
  (targetStep_dvd_iff (List.ne_nil_of_mem h) _).1 dvd_rfl s h

theorem step_eq_of_not_stepsDiffer {series : List Series} (h : stepsDiffer series = false) {s r : Series}
    (hs : s ∈ series) (hr : r ∈ series) : s.step = r.step := by
  cases series with
  | nil => cases hs
  | cons first rest =>
    have hrest : ∀ t ∈ rest, t.step = first.step := by simpa [stepsDiffer] using h
    have hall : ∀ t ∈ first :: rest, t.step = first.step := List.forall_mem_cons.2 ⟨rfl, hrest⟩
    rw [hall s hs, hall r hr]

theorem stepsDiffer_eq_false_iff {series : List Series} :
    stepsDiffer series = false ↔ ∀ s ∈ series, ∀ r ∈ series, s.step = r.step := by
  constructor
  · exact fun h s hs r hr => step_eq_of_not_stepsDiffer h hs hr
  · intro hsame
    cases series with
    | nil => rfl
    | cons first rest =>
      have hrest : ∀ r ∈ rest, r.step = first.step := fun r hr =>
        hsame r (List.mem_cons_of_mem first hr) first List.mem_cons_self
      simpa [stepsDiffer] using hrest

/-- series that do not differ in step are on their common step -/
theorem step_eq_targetStep {series : List Series} (hpos : ∀ s ∈ series, 0 < s.step) (h : stepsDiffer series = false)
    {s : Series} (hs : s ∈ series) : s.step = targetStep 0 series := by
  have hne := List.ne_nil_of_mem hs
  have hdvd : targetStep 0 series ∣ s.step := by
    rw [targetStep_dvd_iff hne]
    intro r hr
    rw [step_eq_of_not_stepsDiffer h hs hr]
  exact Int.dvd_antisymm (hpos s hs).le (targetStep_pos hne hpos).le (step_dvd_targetStep hs) hdvd

/-! ## Series on one step -/

/-- a consistent series with the step given -/
structure OnStep (step : Int) (s : Series) : Prop where
  step_eq : s.step = step
  consistent : s.Consistent

theorem OnStep.pos {step : Int} {s : Series} (h : OnStep step s) : 0 < step :=
  h.step_eq ▸ h.consistent.1

theorem OnStep.stop_eq {step : Int} {s : Series} (h : OnStep step s) :
    s.stop = s.start + s.values.length * step := by
  have hlength := h.consistent.2
  rw [h.step_eq] at hlength
  omega

theorem OnStep.stop_emod {step : Int} {s : Series} (h : OnStep step s) : s.stop % step = s.start % step := by
  rw [h.stop_eq, Int.add_mul_emod_self_right]

theorem onStep_onGrid (s : Series) {step : Int} (hstep : 0 < step) (start : Int) (values : List Float) :
    OnStep step (s.onGrid start step values) :=
  ⟨rfl, consistent_onGrid s start values hstep⟩

/-- two series with their samples at the same times -/
structure SameGrid (s r : Series) : Prop where
  step : s.step = r.step
  start : s.start = r.start
  stop : s.stop = r.stop
  length : s.values.length = r.values.length

theorem SameGrid.symm {s r : Series} (h : SameGrid s r) : SameGrid r s :=
  ⟨h.step.symm, h.start.symm, h.stop.symm, h.length.symm⟩

theorem SameGrid.trans {s r u : Series} (h : SameGrid s r) (h' : SameGrid r u) : SameGrid s u :=
  ⟨h.step.trans h'.step, h.start.trans h'.start, h.stop.trans h'.stop, h.length.trans h'.length⟩

/-- on one step, the ends of the windows say how many samples there are -/
theorem OnStep.sameGrid {step : Int} {s r : Series} (hs : OnStep step s) (hr : OnStep step r)
    (hstart : s.start = r.start) (hstop : s.stop = r.stop) : SameGrid s r := by
  have hmul : (s.values.length : Int) * step = r.values.length * step := by
    have hs' := hs.stop_eq
    have hr' := hr.stop_eq
    omega
  have hlength := Int.eq_of_mul_eq_mul_right hs.pos.ne' hmul
  exact ⟨hs.step_eq.trans hr.step_eq.symm, hstart, hstop, by exact_mod_cast hlength⟩

/-! ## One series padded -/

section Window

variable {step start stop : Int} {s r : Series}

theorem OnStep.padToWindow (hs : OnStep step s) (start stop : Int) : OnStep step (padToWindow start stop s) := by
  unfold Series.padToWindow
  dsimp only
  split
  · exact hs
  · rw [hs.step_eq]
    exact onStep_onGrid s hs.pos _ _

theorem start_padToWindow (hs : OnStep step s) (hstart : start ≤ s.start) :
    (padToWindow start stop s).start = start + (s.start - start) % step := by
  have hlead := toNat_tdiv_mul (Int.sub_nonneg.2 hstart) hs.pos
  unfold padToWindow
  rw [hs.step_eq]
  dsimp only
  split
  · rename_i hnone
    rw [hnone.1] at hlead
    omega
  · simp only [onGrid]
    omega

theorem stop_padToWindow (hs : OnStep step s) (hstop : s.stop ≤ stop) :
    (padToWindow start stop s).stop = stop - (stop - s.stop) % step := by
  have htrail := toNat_tdiv_mul (Int.sub_nonneg.2 hstop) hs.pos
  have hown := hs.stop_eq
  unfold padToWindow
  rw [hs.step_eq]
  dsimp only
  split
  · rename_i hnone
    rw [hnone.2] at htrail
    omega
  · simp only [onGrid, missing, List.length_append, List.length_replicate, Nat.cast_add, Int.add_mul]
    omega

/-- a padded series misses less than one step of the window at either end -/
theorem ends_padToWindow (hs : OnStep step s) (hstart : start ≤ s.start) (hstop : s.stop ≤ stop) :
    (start ≤ (padToWindow start stop s).start ∧ (padToWindow start stop s).start < start + step) ∧
      stop - step < (padToWindow start stop s).stop ∧ (padToWindow start stop s).stop ≤ stop := by
  have hnonneg (t : Int) := Int.emod_nonneg t hs.pos.ne'
  have hlt (t : Int) := Int.emod_lt_of_pos t hs.pos
  rw [start_padToWindow hs hstart, stop_padToWindow hs hstop]
  have hlead₁ := hnonneg (s.start - start)
  have hlead₂ := hlt (s.start - start)
  have htrail₁ := hnonneg (stop - s.stop)
  have htrail₂ := hlt (stop - s.stop)
  omega

variable (hs : OnStep step s) (hr : OnStep step r) (hs₁ : start ≤ s.start) (hr₁ : start ≤ r.start)
  (hs₂ : s.stop ≤ stop) (hr₂ : r.stop ≤ stop)
include hs hr hs₁ hr₁ hs₂ hr₂

theorem padToWindow_near :
    |(padToWindow start stop s).start - (padToWindow start stop r).start| < step ∧
      |(padToWindow start stop s).stop - (padToWindow start stop r).stop| < step := by
  have hends := ends_padToWindow hs hs₁ hs₂
  have hends' := ends_padToWindow hr hr₁ hr₂
  rw [abs_lt, abs_lt]
  omega

/-- **Two series of one step are padded to one window where their starts are whole steps apart**, and only there. -/
theorem sameGrid_padToWindow_iff :
    SameGrid (padToWindow start stop s) (padToWindow start stop r) ↔ s.start % step = r.start % step := by
  constructor
  · intro hsame
    have hstart := hsame.start
    rw [start_padToWindow hs hs₁, start_padToWindow hr hr₁] at hstart
    exact (Int.emod_sub_cancel_right start).1 (Int.add_left_cancel hstart)
  · intro hphase
    have hstart : (s.start - start) % step = (r.start - start) % step := (Int.emod_sub_cancel_right start).2 hphase
    have hstop : (stop - s.stop) % step = (stop - r.stop) % step := by
      rw [Int.sub_emod, hs.stop_emod, hphase, ← hr.stop_emod, ← Int.sub_emod]
    refine (hs.padToWindow start stop).sameGrid (hr.padToWindow start stop) ?_ ?_
    · rw [start_padToWindow hs hs₁, start_padToWindow hr hr₁, hstart]
    · rw [stop_padToWindow hs hs₂, stop_padToWindow hr hr₂, hstop]

end Window

/-! ## One series brought to a step -/

/-- how long after a multiple of `step` a series begins once it is on that step -/
def phase (s : Series) (step : Int) : Int :=
  if s.step = step then s.start % step else 0

theorem phase_emod (s : Series) (step : Int) : s.phase step % step = s.phase step := by
  unfold phase
  split
  · exact Int.emod_emod_of_dvd _ dvd_rfl
  · exact Int.zero_emod step

section Step

variable {step start : Int} {s : Series}

theorem onStep_scaleOne (hs : s.Consistent) (hstep : 0 < step) (hdvd : s.step ∣ step) (start : Int) :
    OnStep step (scaleOne step start s) := by
  have hle : s.step ≤ step := Int.le_of_dvd hstep hdvd
  unfold scaleOne
  rw [if_neg (not_lt.2 hle)]
  split
  · rename_i heq
    dsimp only
    split
    · exact ⟨heq, hs⟩
    · exact onStep_onGrid s hstep _ _
  · exact onStep_onGrid s hstep _ _

theorem start_scaleOne (hstep : 0 < step) (hdvd : s.step ∣ step) (hstart : step ∣ start) (hle : start ≤ s.start) :
    (scaleOne step start s).start = start + s.phase step := by
  have hstep_le : s.step ≤ step := Int.le_of_dvd hstep hdvd
  unfold scaleOne phase
  rw [if_neg (not_lt.2 hstep_le)]
  split
  · -- whole steps are padded in front, and what is left below one step is the phase
    have htime := Int.sub_nonneg.2 hle
    have hlead := toNat_tdiv_mul htime hstep
    have hrest : (s.start - start) % step = s.start % step := by
      rw [Int.sub_emod, Int.emod_eq_zero_of_dvd hstart, Int.sub_zero, Int.emod_emod_of_dvd _ dvd_rfl]
    have hcount := Int.toNat_of_nonneg (Int.tdiv_nonneg htime hstep.le)
    rw [hrest, hcount] at hlead
    dsimp only
    split
    · rename_i hnone
      have hzero : (s.start - start).tdiv step = 0 := by omega
      rw [hzero] at hlead
      omega
    · simp only [onGrid]
      omega
  · simp only [onGrid]
    omega

theorem OnStep.padTo (hs : OnStep step s) (length : Nat) : OnStep step (padTo length s) := by
  unfold Series.padTo
  split
  · exact ⟨hs.step_eq, consistent_withValues s _ hs.consistent.1⟩
  · exact hs

theorem start_padTo (length : Nat) (s : Series) : (padTo length s).start = s.start := by
  unfold padTo
  split <;> rfl

end Step

/-! ## Many series -/

/-- what `align` pads is the list of series, each brought to the common step from its phase on -/
theorem exists_onStep {series : List Series} (h : ∀ s ∈ series, s.Consistent) :
    ∃ f : Series → Series, (if stepsDiffer series then scale series 0 else series) = series.map f ∧
      ∀ s ∈ series, OnStep (targetStep 0 series) (f s) ∧
        (f s).start % targetStep 0 series = s.phase (targetStep 0 series) := by
  have hpos : ∀ s ∈ series, 0 < s.step := fun s hs => (h s hs).1
  generalize hstep : targetStep 0 series = step
  cases hdiffer : stepsDiffer series with
  | false =>
    refine ⟨id, by simp, fun s hs => ?_⟩
    have heq : s.step = step := hstep ▸ step_eq_targetStep hpos hdiffer hs
    exact ⟨⟨heq, h s hs⟩, by rw [phase, if_pos heq, id]⟩
  | true =>
    have hne : series ≠ [] := by
      rintro rfl
      cases hdiffer
    have hstep_pos : 0 < step := hstep ▸ targetStep_pos hne hpos
    have hscale : ¬(series = [] ∨ step ≤ 0) := by
      rintro (hnil | hle)
      · exact hne hnil
      · omega
    set first := earliestStart series
    have hfirst_dvd : step ∣ first - first % step := Int.dvd_self_sub_emod
    refine ⟨padTo (longest (series.map (scaleOne step (first - first % step)))) ∘
      scaleOne step (first - first % step), ?_, fun s hs => ?_⟩
    · rw [if_pos rfl, scale, hstep, if_neg hscale, List.map_map]
    · have hdvd : s.step ∣ step := hstep ▸ step_dvd_targetStep hs
      have hle : first - first % step ≤ s.start := by
        have hfirst := earliestStart_le hs
        have hnonneg := Int.emod_nonneg first hstep_pos.ne'
        omega
      refine ⟨(onStep_scaleOne (h s hs) hstep_pos hdvd _).padTo _, ?_⟩
      rw [Function.comp_apply, start_padTo, start_scaleOne hstep_pos hdvd hfirst_dvd hle, Int.add_emod,
        Int.emod_eq_zero_of_dvd hfirst_dvd, Int.zero_add, Int.emod_emod_of_dvd _ dvd_rfl, phase_emod]

/-- series that all have their samples at the same times -/
def OneWindow (series : List Series) : Prop :=
  ∀ s ∈ series, ∀ r ∈ series, SameGrid s r

/-- `aligned` are `series` padded: one for each, on the least common multiple of the steps, with starts and stops less
than one such step apart. All have one window exactly where all series, once on the common step, begin equally long after
a multiple of it. -/
structure Aligned (series aligned : List Series) : Prop where
  length : aligned.length = series.length
  step : ∀ s ∈ aligned, s.step = targetStep 0 series
  near : ∀ s ∈ aligned, ∀ r ∈ aligned,
    |s.start - r.start| < targetStep 0 series ∧ |s.stop - r.stop| < targetStep 0 series
  window : OneWindow aligned ↔
    ∀ s ∈ series, ∀ r ∈ series, s.phase (targetStep 0 series) = r.phase (targetStep 0 series)

/-- **Aligned series cover one window where they are in phase.** -/
theorem aligned_align {series : List Series} (h : ∀ s ∈ series, s.Consistent) : Aligned series (align series) := by
  obtain ⟨f, hscaled, hf⟩ := exists_onStep h
  have halign : align series = (series.map f).map
      (padToWindow (earliestStart (series.map f)) (latestStop (series.map f))) := by
    rw [align, hscaled]
  have hstart : ∀ s ∈ series, earliestStart (series.map f) ≤ (f s).start := fun s hs =>
    earliestStart_le (List.mem_map_of_mem hs)
  have hstop : ∀ s ∈ series, (f s).stop ≤ latestStop (series.map f) := fun s hs =>
    le_latestStop (List.mem_map_of_mem hs)
  rw [halign]
  constructor
  · rw [List.length_map, List.length_map]
  · simp only [List.forall_mem_map]
    exact fun s hs => ((hf s hs).1.padToWindow _ _).step_eq
  · simp only [List.forall_mem_map]
    intro s hs r hr
    exact padToWindow_near (hf s hs).1 (hf r hr).1 (hstart s hs) (hstart r hr) (hstop s hs) (hstop r hr)
  · simp only [OneWindow, List.forall_mem_map]
    refine forall₂_congr fun s hs => forall₂_congr fun r hr => ?_
    rw [sameGrid_padToWindow_iff (hf s hs).1 (hf r hr).1 (hstart s hs) (hstart r hr) (hstop s hs) (hstop r hr),
      (hf s hs).2, (hf r hr).2]

end MetricQuery.Series
