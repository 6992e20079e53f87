/-
Windows of points in front of samples.

A moving window of `n` points is told by the samples of a stored series: the value at a time is that of the last `n`
samples before it (`lastBefore`), and there is one wherever there are that many. The series that is reduced is not the
stored one but cut to a window that begins `n` steps before the one asked for, at whatever index that is, and its first
`n` samples are dropped. `movedOver_slice` says that nothing shows of either. A series that begins after the window cut
has no sample to drop in front of the window asked for, and then drops some that are in it: just those with less than
`n` samples before them.
-/
import MetricQuery.Proofs.Series.Slice
import MetricQuery.Builtin.Moving

namespace MetricQuery

open Target (Call)
open Time (Window)

namespace Series

/-! ## Samples before a time -/

/-- the samples of a series before a time, in order -/
def before (s : Series) (t : Int) : List (Int × Float) :=
  s.samples.filter fun p => p.1 < t

/-- the values of the last `n` samples before a time -/
def lastBefore (s : Series) (n : Nat) (t : Int) : List Float :=
  ((s.before t).drop ((s.before t).length - n)).map Prod.snd

theorem map_snd_samples (s : Series) : s.samples.map Prod.snd = s.values := by
  simp [samples, Function.comp_def]

section Grid

variable {s : Series} (hstep : 0 < s.step)
include hstep

theorem timestamp_lt_iff (i j : Nat) : s.timestamp i < s.timestamp j ↔ i < j := by
  have hmul : (i : Int) * s.step < j * s.step ↔ (i : Int) < j := Int.mul_lt_mul_right hstep
  unfold timestamp
  omega

theorem before_timestamp (i : Nat) : s.before (s.timestamp i) = s.samples.take i := by
  rw [before, ← List.drop_zero (l := s.samples.take i)]
  refine filter_eq_run fun j p hp => ?_
  rw [getElem?_samples] at hp
  obtain ⟨v, -, rfl⟩ := Option.map_eq_some_iff.1 hp
  rw [decide_eq_true_eq, timestamp_lt_iff hstep]
  omega

theorem length_before {i : Nat} (hi : i ≤ s.values.length) : (s.before (s.timestamp i)).length = i := by
  rw [before_timestamp hstep, List.length_take, length_samples, min_eq_left hi]

theorem lastBefore_timestamp {n i : Nat} (hn : n ≤ i) (hi : i ≤ s.values.length) :
    s.lastBefore n (s.timestamp i) = (s.values.drop (i - n)).take n := by
  rw [lastBefore, length_before hstep hi, before_timestamp hstep, List.map_drop, List.map_take, map_snd_samples,
    List.drop_take]
  congr 1
  omega

/-- the samples in a window that have `n` before them are those whose predecessor by `n` is not before the window moved
back by `n` steps -/
theorem filter_inside_eq_run {w : Window} (hle : w.start ≤ w.stop) (hfits : s.IndexFits w.stop) (n : Nat) :
    ((s.inside w).filter fun p => n ≤ (s.before p.1).length) =
      (s.samples.take (s.indexFrom w.stop)).drop (s.indexFrom (w.start - s.step * n) + n) := by
  have hback : 0 ≤ s.step * n := Int.mul_nonneg hstep.le (Int.natCast_nonneg n)
  rw [inside, List.filter_filter]
  refine filter_eq_run fun i p hp => ?_
  rw [getElem?_samples] at hp
  obtain ⟨v, hv, rfl⟩ := Option.map_eq_some_iff.1 hp
  have hi : i < s.values.length := (List.getElem?_eq_some_iff.1 hv).1
  have hlast := indexFrom_le_iff hstep hfits hi
  simp only [length_before hstep hi.le, Bool.and_eq_true, decide_eq_true_eq]
  by_cases hn : n ≤ i
  · have hfirst := indexFrom_le_iff hstep (hfits.mono (u := w.start - s.step * n) (by omega)) (i := i - n) (by omega)
    have htime : s.timestamp i = s.timestamp (i - n) + s.step * n := by
      rw [timestamp, timestamp, Nat.cast_sub hn]
      ring
    omega
  · omega

end Grid

end Series

namespace Builtin

/-! ## Moving windows of points -/

/-- `o` has a sample for each sample of `s` in a window that has `n` samples before it, which are reduced to its value -/
structure MovedOver (n : Nat) (r : Reducer) (factor : Option Float) (w : Window) (s o : Series) : Prop where
  step_eq : o.step = s.step
  samples_eq : o.samples = ((s.inside w).filter fun p => n ≤ (s.before p.1).length).map fun p =>
    (p.1, reduceWindow r n ((factor.map Float.toFloat32).getD s.xFilesFactor) (s.lastBefore n p.1))

theorem samples_moveOver (name : String) (c : Call) (n : Nat) (r : Reducer) (factor : Option Float) (s : Series) :
    (moveOver name c (.points n) r factor s).samples = (List.range (s.values.length - n)).map fun k =>
      (s.timestamp (n + k),
        reduceWindow r n ((factor.map Float.toFloat32).getD s.xFilesFactor) ((s.values.drop k).take n)) := by
  apply List.ext_getElem?
  intro k
  rw [Series.getElem?_samples, List.getElem?_map]
  show (((windowsBefore n s.values).map _)[k]?).map (fun v => (afterPoints s n + k * s.step, v)) = _
  rw [List.getElem?_map, windowsBefore, List.getElem?_map, Option.map_map, Option.map_map]
  by_cases hk : k < s.values.length - n
  · have htime : afterPoints s n + k * s.step = s.timestamp (n + k) := by
      rw [afterPoints, min_eq_left (by omega), Series.timestamp, Series.timestamp]
      push_cast
      ring
    rw [List.getElem?_range hk, Option.map_some, Option.map_some, ← htime]
    rfl
  · rw [List.getElem?_eq_none (by rw [List.length_range]; omega)]
    rfl

/-- the windows over a stretch of a series are windows of the series, at the times that they have there -/
theorem samples_moveOver_stretch (name : String) (c : Call) (n : Nat) (r : Reducer) (factor : Option Float) {s : Series}
    (hstep : 0 < s.step) (t : s.Stretch) (path : String) :
    (moveOver name c (.points n) r factor { t.series with path := path }).samples =
      ((s.samples.take (t.first + t.count)).drop (t.first + n)).map fun p =>
        (p.1, reduceWindow r n ((factor.map Float.toFloat32).getD s.xFilesFactor) (s.lastBefore n p.1)) := by
  have hinside := t.inside
  rw [samples_moveOver]
  show (List.range (t.series.values.length - n)).map (fun k => (t.series.timestamp (n + k),
    reduceWindow r n ((factor.map Float.toFloat32).getD s.xFilesFactor) ((t.series.values.drop k).take n))) = _
  apply List.ext_getElem?
  intro k
  rw [t.length_values, List.getElem?_map, List.getElem?_map, List.getElem?_drop, List.getElem?_take]
  by_cases hk : t.first + n + k < t.first + t.count
  · obtain ⟨v, hvalue⟩ : ∃ v, s.values[t.first + n + k]? = some v := ⟨_, List.getElem?_eq_getElem (by omega)⟩
    have hback : t.first + n + k - n = t.first + k := by omega
    rw [List.getElem?_range (by omega), if_pos hk, Series.getElem?_samples, hvalue, Option.map_some, Option.map_some,
      Option.map_some, t.timestamp_series, t.run_values (by omega), ← Nat.add_assoc,
      Series.lastBefore_timestamp hstep (by omega) (by omega), hback]
  · rw [List.getElem?_eq_none (by rw [List.length_range]; omega), if_neg hk]
    rfl

/-- **A moving window over a slice** from `n` steps further back is one over the whole series. -/
theorem movedOver_slice {s cut : Series} (hstep : 0 < s.step) {w : Window} (hle : w.start ≤ w.stop)
    (hfits : s.IndexFits w.stop) {n : Nat} (hcut : s.slice ⟨w.start - s.step * n, w.stop⟩ = some cut) (name : String)
    (c : Call) (r : Reducer) (factor : Option Float) (path : String) :
    MovedOver n r factor w s (moveOver name c (.points n) r factor { cut with path := path }) := by
  obtain ⟨rfl, hsome⟩ := Series.slice_eq_some hstep hcut
  refine ⟨rfl, ?_⟩
  rw [samples_moveOver_stretch name c n r factor hstep, Series.filter_inside_eq_run hstep hle hfits]
  show (List.drop (s.indexFrom (w.start - s.step * n) + n) (List.take (s.indexFrom (w.start - s.step * n) +
    (s.indexFrom w.stop - s.indexFrom (w.start - s.step * n))) s.samples)).map _ = _
  rw [Nat.add_sub_of_le hsome.le]

end Builtin

end MetricQuery
