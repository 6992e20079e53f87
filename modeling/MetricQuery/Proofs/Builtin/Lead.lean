/-
Samples in front of a window.

A function that needs to know what was before a window asks for its series from further back, and leaves out a number of
samples at the beginning of what it gets. The samples in front of the window (`lead`) may be more than that number, or
fewer.

- `forall_start_le_iff`: what is left begins before the window exactly if there are more, and never by more than the way
  back is longer than the samples left out (`le_of_mem_drop`).
- `drop_inside_widened`: where the way back is that number of steps there are never more. What is left are the samples
  of the window that have as many before them, and these are all exactly if the first has (`filter_eq_inside_iff`).
-/
import MetricQuery.Proofs.Builtin.Moving

namespace MetricQuery

/-- the window that begins some seconds earlier -/
def Time.Window.widened (w : Time.Window) (back : Int) : Time.Window :=
  ⟨w.start - back, w.stop⟩

theorem Builtin.moved_eq_ok {t offset u : Int} :
    moved t offset = .ok u ↔ Time.inRange (t + offset) = true ∧ u = t + offset := by
  unfold moved Time.checked
  by_cases h : Time.inRange (t + offset) = true
  · simp [h, eq_comm]
  · simp [h]

namespace Series

/-! ## Times -/

theorem of_getElem?_samples {s : Series} {i : Nat} {p : Int × Float} (h : s.samples[i]? = some p) :
    i < s.values.length ∧ p.1 = s.timestamp i := by
  rw [getElem?_samples] at h
  obtain ⟨v, hv, rfl⟩ := Option.map_eq_some_iff.1 h
  exact ⟨(List.getElem?_eq_some_iff.1 hv).1, rfl⟩

/-- the times of the samples -/
def times (s : Series) : List Int :=
  s.samples.map Prod.fst

theorem times_eq (s : Series) : s.times = (List.range s.values.length).map s.timestamp := by
  apply List.ext_getElem?
  intro i
  rw [times, List.getElem?_map, getElem?_samples, List.getElem?_map, Option.map_map]
  by_cases hi : i < s.values.length
  · rw [List.getElem?_range hi, List.getElem?_eq_getElem hi]
    rfl
  · rw [List.getElem?_eq_none (by omega), List.getElem?_eq_none (by rw [List.length_range]; omega)]
    rfl

/-- a series that begins `n` samples later, and has as many samples less, has the times that are left -/
theorem times_of_dropped {s o : Series} {n : Nat} (hstep : o.step = s.step)
    (hstart : o.start = s.timestamp (min n s.values.length)) (hlength : o.values.length = s.values.length - n) :
    o.times = s.times.drop n := by
  apply List.ext_getElem?
  intro i
  rw [List.getElem?_drop, times_eq, times_eq, List.getElem?_map, List.getElem?_map, hlength]
  by_cases hi : n + i < s.values.length
  · have htime : o.timestamp i = s.timestamp (n + i) := by
      rw [timestamp, hstart, hstep, min_eq_left (by omega), timestamp, timestamp]
      push_cast
      ring
    rw [List.getElem?_range (by omega), List.getElem?_range hi, Option.map_some, Option.map_some, htime]
  · rw [List.getElem?_eq_none (by rw [List.length_range]; omega),
      List.getElem?_eq_none (by rw [List.length_range]; omega)]
    rfl

/-! ## Samples in front -/

/-- the samples in the `back` seconds in front of a time -/
def lead (s : Series) (t back : Int) : List (Int × Float) :=
  s.inside ⟨t - back, t⟩

section Lead

variable {s : Series} (hstep : 0 < s.step)
include hstep

theorem before_eq_take {t : Int} (hfits : s.IndexFits t) : s.before t = s.samples.take (s.indexFrom t) := by
  rw [before, ← List.drop_zero (l := s.samples.take (s.indexFrom t))]
  refine filter_eq_run fun i p hp => ?_
  obtain ⟨hi, htime⟩ := of_getElem?_samples hp
  have hindex := indexFrom_le_iff hstep hfits hi
  rw [decide_eq_true_eq, htime]
  omega

theorem length_before_eq {t : Int} (hfits : s.IndexFits t) : (s.before t).length = s.indexFrom t := by
  rw [before_eq_take hstep hfits, List.length_take, length_samples, min_eq_left (s.indexFrom_le t)]

theorem indexFrom_mono {t u : Int} (hfits : s.IndexFits u) (hle : t ≤ u) : s.indexFrom t ≤ s.indexFrom u := by
  by_cases hlast : s.indexFrom u < s.values.length
  · have hbehind := (indexFrom_le_iff hstep hfits hlast).1 le_rfl
    exact (indexFrom_le_iff hstep (hfits.mono hle) hlast).2 (hle.trans hbehind)
  · exact (s.indexFrom_le t).trans (not_lt.1 hlast)

variable {w : Time.Window} (hle : w.start ≤ w.stop) (hfits : s.IndexFits w.stop)
include hle hfits

/-- **A window that begins earlier adds the samples in front.** -/
theorem inside_widened {back : Int} (hback : 0 ≤ back) :
    s.inside (w.widened back) = s.lead w.start back ++ s.inside w := by
  have hstart := hfits.mono hle
  have hearly : s.IndexFits (w.start - back) := hstart.mono (by omega)
  have hfirst : s.indexFrom (w.start - back) ≤ s.indexFrom w.start := indexFrom_mono hstep hstart (by omega)
  have hlast : s.indexFrom w.start ≤ s.indexFrom w.stop := indexFrom_mono hstep hfits hle
  have hrun := s.indexFrom_le w.start
  have hsplit : s.samples.take (s.indexFrom w.stop) =
      s.samples.take (s.indexFrom w.start) ++ (s.samples.take (s.indexFrom w.stop)).drop (s.indexFrom w.start) := by
    conv_lhs => rw [← List.take_append_drop (s.indexFrom w.start) (s.samples.take (s.indexFrom w.stop)),
      List.take_take, min_eq_left hlast]
  calc s.inside (w.widened back)
      = (s.samples.take (s.indexFrom w.stop)).drop (s.indexFrom (w.start - back)) :=
        inside_eq_run (w := w.widened back) hstep hearly hfits
    _ = (s.samples.take (s.indexFrom w.start)).drop (s.indexFrom (w.start - back)) ++
          (s.samples.take (s.indexFrom w.stop)).drop (s.indexFrom w.start) := by
        conv_lhs => rw [hsplit]
        refine List.drop_append_of_le_length ?_
        rwa [List.length_take, length_samples, min_eq_left hrun]
    _ = s.lead w.start back ++ s.inside w := by
        rw [lead, inside_eq_run (w := ⟨w.start - back, w.start⟩) hstep hearly hstart, inside_eq_run hstep hstart hfits]

/-- **What is left begins before a window exactly if more samples are in front of it than are left out.** -/
theorem forall_start_le_iff {back : Int} (hback : 0 ≤ back) (n : Nat) :
    (∀ p ∈ (s.inside (w.widened back)).drop n, w.start ≤ p.1) ↔ (s.lead w.start back).length ≤ n := by
  rw [inside_widened hstep hle hfits hback]
  constructor
  · intro hall
    by_contra hmore
    have hn : n < (s.lead w.start back).length := by omega
    have hmem : (s.lead w.start back)[n] ∈ (s.lead w.start back ++ s.inside w).drop n := by
      rw [List.drop_append_of_le_length hn.le]
      exact List.mem_append_left _ (List.mem_drop_iff_getElem.2 ⟨0, by omega, by simp⟩)
    have hbefore := (List.mem_filter.1 (List.getElem_mem hn)).2
    rw [decide_eq_true_eq] at hbefore
    exact absurd (hall _ hmem) (not_le.2 hbefore.2)
  · intro hfew p hp
    rw [List.drop_append, List.drop_eq_nil_of_le hfew, List.nil_append] at hp
    have hinside := (List.mem_filter.1 (List.mem_of_mem_drop hp)).2
    rw [decide_eq_true_eq] at hinside
    exact hinside.1

/-- what is left begins no earlier than as many steps behind the widened start as samples were left out -/
theorem le_of_mem_drop {back : Int} (hback : 0 ≤ back) {n : Nat} {p : Int × Float}
    (hp : p ∈ (s.inside (w.widened back)).drop n) : w.start - back + n * s.step ≤ p.1 := by
  have hearly : s.IndexFits (w.start - back) := (hfits.mono hle).mono (by omega)
  rw [inside_eq_run (w := w.widened back) hstep hearly hfits, List.drop_drop] at hp
  obtain ⟨i, hi⟩ := List.mem_iff_getElem?.1 hp
  rw [List.getElem?_drop, List.getElem?_take] at hi
  split at hi
  · obtain ⟨hindex, htime⟩ := of_getElem?_samples hi
    dsimp only [Time.Window.widened] at hindex htime
    have hfirst := (indexFrom_le_iff hstep hearly (i := s.indexFrom (w.start - back)) (by omega)).1 le_rfl
    have hnonneg : 0 ≤ (i : Int) * s.step := Int.mul_nonneg (Int.natCast_nonneg i) hstep.le
    calc w.start - back + n * s.step
        ≤ s.timestamp (s.indexFrom (w.start - back)) + n * s.step := by omega
      _ ≤ s.timestamp (s.indexFrom (w.start - back)) + n * s.step + i * s.step := by omega
      _ = p.1 := by
        rw [htime, timestamp, timestamp]
        push_cast
        ring
  · cases hi

/-! ## Whole steps -/

/-- **A way back of `n` steps** leaves the samples of the window that have `n` before them. -/
theorem drop_inside_widened (n : Nat) :
    (s.inside (w.widened (s.step * n))).drop n = (s.inside w).filter fun p => n ≤ (s.before p.1).length := by
  have hback : 0 ≤ s.step * n := Int.mul_nonneg hstep.le (Int.natCast_nonneg n)
  rw [filter_inside_eq_run hstep hle hfits, inside_eq_run (w := w.widened (s.step * n)) hstep
    ((hfits.mono hle).mono (by dsimp only [Time.Window.widened]; omega)) hfits, List.drop_drop]
  rfl

/-- **All samples of a window have `n` before them exactly if the window has**, or if there are none in it. -/
theorem filter_eq_inside_iff (n : Nat) :
    ((s.inside w).filter fun p => n ≤ (s.before p.1).length) = s.inside w ↔
      s.inside w = [] ∨ n ≤ (s.before w.start).length := by
  have hstart := hfits.mono hle
  rw [List.filter_eq_self]
  constructor
  · intro hall
    rw [or_iff_not_imp_left]
    intro hne
    obtain ⟨p, rest, hp⟩ := List.exists_cons_of_ne_nil hne
    have hn := hall p (hp ▸ List.mem_cons_self)
    rw [decide_eq_true_eq] at hn
    have hget : (s.inside w)[0]? = some p := by rw [hp]; rfl
    rw [inside_eq_run hstep hstart hfits, List.getElem?_drop, List.getElem?_take] at hget
    split at hget
    · obtain ⟨hindex, htime⟩ := of_getElem?_samples hget
      rw [htime, length_before hstep hindex.le, Nat.add_zero] at hn
      rwa [length_before_eq hstep hstart]
    · cases hget
  · rintro (hnil | hn) p hp
    · rw [hnil] at hp
      cases hp
    · have hinside := (List.mem_filter.1 hp).2
      rw [decide_eq_true_eq] at hinside ⊢
      refine hn.trans (List.Sublist.length_le (List.monotone_filter_right s.samples fun q hq => ?_))
      rw [decide_eq_true_eq] at hq ⊢
      omega

end Lead

end Series

end MetricQuery
