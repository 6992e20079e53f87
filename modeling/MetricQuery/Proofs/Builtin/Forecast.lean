/-
The Holt-Winters model over time.

The model takes the samples one by one and keeps a state: the points so far, which it looks back into by a season, and
the prediction for the sample to come. So a point is what one step makes of its sample in the state that the samples
before it have left (`getElem?_analyze`), and lists that agree up to some sample leave the same state there. What is
predicted for a sample is in that state already, but for the first one, which predicts itself.

Of the points the first ones are not shown: as many as the bootstrap has steps (`times_shown`).
-/
import MetricQuery.Proofs.Builtin.Lead
import MetricQuery.Builtin.Forecast

namespace MetricQuery.Builtin.Forecast

/-- samples that are the same, or both missing -/
def Alike (x y : Float) : Prop :=
  x = y ∨ x.isNaN = true ∧ y.isNaN = true

theorem Alike.refl (x : Float) : Alike x x := Or.inl rfl

/-! ## One step -/

/-- the step on a missing sample is the same whatever bits it is written with -/
theorem step_congr (season : Nat) (st : State) {x y : Float} (h : Alike x y) : step season st x = step season st y := by
  rcases h with rfl | ⟨hx, hy⟩
  · rfl
  · rw [step, step, if_pos hx, if_pos hy]

/-- **A step adds one point**, and its prediction was in the state before, unless it is the first point. -/
theorem points_step (season : Nat) (st : State) (x : Float) :
    ∃ p, (step season st x).points = p :: st.points ∧ (st.points ≠ [] → p.prediction = st.next.getD Decimal.nan) ∧
      (st = {} → Alike p.prediction x) := by
  unfold step
  by_cases hx : x.isNaN = true
  · rw [if_pos hx]
    refine ⟨_, rfl, fun _ => rfl, ?_⟩
    rintro rfl
    exact Or.inr ⟨by decide, hx⟩
  · rw [if_neg hx]
    refine ⟨_, rfl, fun hne => ?_, ?_⟩
    · obtain ⟨p, rest, hpoints⟩ := List.exists_cons_of_ne_nil hne
      rw [hpoints]
    · rintro rfl
      exact Alike.refl x

/-! ## Runs -/

/-- the state that samples leave -/
def after (season : Nat) (xs : List Float) : State :=
  xs.foldl (step season) {}

theorem foldl_step_congr (season : Nat) {xs ys : List Float} (h : List.Forall₂ Alike xs ys) (st : State) :
    xs.foldl (step season) st = ys.foldl (step season) st := by
  induction h generalizing st with
  | nil => rfl
  | cons hxy _ ih => rw [List.foldl_cons, List.foldl_cons, step_congr season st hxy, ih]

/-- a run adds a point for each sample in front of those that were there -/
theorem points_foldl (season : Nat) (xs : List Float) (st : State) :
    ∃ later, (xs.foldl (step season) st).points = later ++ st.points ∧ later.length = xs.length := by
  induction xs generalizing st with
  | nil => exact ⟨[], rfl, rfl⟩
  | cons x xs ih =>
    obtain ⟨p, hp, -⟩ := points_step season st x
    obtain ⟨later, hlater, hlength⟩ := ih (step season st x)
    refine ⟨later ++ [p], ?_, by simp [hlength]⟩
    rw [List.foldl_cons, hlater, hp, List.append_assoc, List.singleton_append]

theorem length_points_after (season : Nat) (xs : List Float) : (after season xs).points.length = xs.length := by
  obtain ⟨later, hlater, hlength⟩ := points_foldl season xs {}
  rw [after, hlater, List.length_append, hlength]
  rfl

theorem length_analyze (season : Nat) (xs : List Float) : (analyze season xs).length = xs.length := by
  rw [analyze, List.length_reverse]
  exact length_points_after season xs

/-- **A point is made of its sample and the state before it.** -/
theorem getElem?_analyze (season : Nat) {xs : List Float} {i : Nat} {x : Float} (hx : xs[i]? = some x) :
    (analyze season xs)[i]? = (step season (after season (xs.take i)) x).points.head? := by
  obtain ⟨hi, rfl⟩ := List.getElem?_eq_some_iff.1 hx
  obtain ⟨p, hp, -⟩ := points_step season (after season (xs.take i)) xs[i]
  obtain ⟨later, hlater, -⟩ := points_foldl season (xs.drop (i + 1)) (step season (after season (xs.take i)) xs[i])
  have hsplit : xs = xs.take i ++ xs[i] :: xs.drop (i + 1) := by rw [List.getElem_cons_drop, List.take_append_drop]
  have hpoints : (xs.foldl (step season) {}).points = later ++ p :: (after season (xs.take i)).points := by
    rw [hp] at hlater
    conv_lhs => rw [hsplit]
    rw [List.foldl_append, List.foldl_cons]
    exact hlater
  have hlength : (after season (xs.take i)).points.reverse.length = i := by
    rw [List.length_reverse, length_points_after, List.length_take, min_eq_left hi.le]
  rw [analyze, hpoints, hp, List.head?_cons, List.reverse_append, List.reverse_cons, List.append_assoc,
    List.getElem?_append_right hlength.le, hlength, Nat.sub_self]
  rfl

/-! ## Causality -/

section Agreeing

variable (season : Nat) {k : Nat} {xs ys : List Float} (h : List.Forall₂ Alike (xs.take k) (ys.take k))
include h

/-- lists that agree up to `k` leave the same state before each sample up to there -/
theorem after_take_congr {i : Nat} (hi : i ≤ k) : after season (xs.take i) = after season (ys.take i) := by
  have hfirst := List.forall₂_take i h
  rw [List.take_take, List.take_take, min_eq_left hi] at hfirst
  exact foldl_step_congr season hfirst {}

/-- the points of the samples that agree are the same -/
theorem getElem?_analyze_congr {i : Nat} (hi : i < k) : (analyze season xs)[i]? = (analyze season ys)[i]? := by
  have hlength := h.length_eq
  rw [List.length_take, List.length_take] at hlength
  by_cases hx : i < xs.length
  · have hy : i < ys.length := by omega
    have halike : Alike xs[i] ys[i] := by
      have hget := List.Forall₂.get h (i := i) (by rw [List.length_take]; omega) (by rw [List.length_take]; omega)
      simpa using hget
    rw [getElem?_analyze season (List.getElem?_eq_getElem hx), getElem?_analyze season (List.getElem?_eq_getElem hy),
      after_take_congr season h hi.le, step_congr season _ halike]
  · rw [List.getElem?_eq_none (by rw [length_analyze]; omega), List.getElem?_eq_none (by rw [length_analyze]; omega)]

end Agreeing

/-- what is predicted for a sample behind the first one is in the state before it -/
theorem prediction_analyze (season : Nat) {xs : List Float} {i : Nat} (hi : i < xs.length) (hpos : 1 ≤ i) :
    ((analyze season xs).map Point.prediction)[i]? = some ((after season (xs.take i)).next.getD Decimal.nan) := by
  obtain ⟨p, hp, hprediction, -⟩ := points_step season (after season (xs.take i)) xs[i]
  have hne : (after season (xs.take i)).points ≠ [] := by
    rw [← List.length_pos_iff, length_points_after, List.length_take]
    omega
  rw [List.getElem?_map, getElem?_analyze season (List.getElem?_eq_getElem hi), hp, List.head?_cons, Option.map_some,
    hprediction hne]

/-- **The model is causal.** Of two lists of samples that agree on the first `k`, gaps included, it makes a point for
each sample. The deviations agree at these `k`, and the predictions also at the sample behind them where both lists have
one. The first prediction is the first sample itself. -/
theorem analyze_causal (season : Nat) {k : Nat} (hk : 1 ≤ k) {xs ys : List Float}
    (h : List.Forall₂ Alike (xs.take k) (ys.take k)) :
    ((analyze season xs).length = xs.length ∧ (analyze season ys).length = ys.length) ∧
      (∀ i ≤ k, i < xs.length → i < ys.length →
        ((analyze season xs).map Point.prediction)[i]? = ((analyze season ys).map Point.prediction)[i]?) ∧
      (∀ i < k, ((analyze season xs).map Point.deviation)[i]? = ((analyze season ys).map Point.deviation)[i]?) ∧
      ∀ x ∈ xs.head?, ∃ p ∈ (analyze season xs).head?, Alike p.prediction x := by
  refine ⟨⟨length_analyze season xs, length_analyze season ys⟩, fun i hi hx hy => ?_, fun i hi => ?_, fun x hx => ?_⟩
  · rcases hi.lt_or_eq with hi | rfl
    · rw [List.getElem?_map, List.getElem?_map, getElem?_analyze_congr season h hi]
    · rw [prediction_analyze season hx hk, prediction_analyze season hy hk, after_take_congr season h le_rfl]
  · rw [List.getElem?_map, List.getElem?_map, getElem?_analyze_congr season h hi]
  · obtain ⟨p, hp, -, hfirst⟩ := points_step season {} x
    refine ⟨p, ?_, hfirst rfl⟩
    rw [List.head?_eq_getElem?, Option.mem_def] at *
    rw [getElem?_analyze season hx, List.take_zero, after, List.foldl_nil, hp, List.head?_cons]

/-- a gap behind the first sample, and then different samples: the same is predicted for both -/
theorem analyze_causal_gap :
    let xs : List Float := [1, Decimal.nan, 3, 4]
    let ys : List Float := [1, -Decimal.nan, 5]
    1 ≤ 2 ∧ List.Forall₂ Alike (xs.take 2) (ys.take 2) ∧
      ((analyze 1 xs).map Point.prediction)[2]? = ((analyze 1 ys).map Point.prediction)[2]? ∧
      ((analyze 1 xs).map Point.deviation)[1]? = ((analyze 1 ys).map Point.deviation)[1]? := by
  intro xs ys
  have hagree : List.Forall₂ Alike (xs.take 2) (ys.take 2) :=
    .cons (.refl 1) (.cons (Or.inr ⟨by decide, by decide⟩) .nil)
  obtain ⟨-, hpredictions, hdeviations, -⟩ := analyze_causal 1 (k := 2) (by decide) hagree
  exact ⟨by decide, hagree, hpredictions 2 (by decide) (by decide) (by decide), hdeviations 1 (by decide)⟩

/-! ## What is shown -/

theorem length_shown (k : Kind) (set : Setting) (s : Series) : (shown k set s).length = if k = .bands then 2 else 1 := by
  cases k <;> rfl

/-- **A series is shown without its first samples**, as many as the bootstrap has steps. -/
theorem times_shown {k : Kind} {set : Setting} {s o : Series} (ho : o ∈ shown k set s) :
    o.times = s.times.drop (set.bootstrap.tdiv s.step).toNat := by
  have hkept : ((analyze (max 1 (set.season.tdiv s.step)).toNat s.values).drop
      (min (set.bootstrap.tdiv s.step).toNat s.values.length)).length =
        s.values.length - (set.bootstrap.tdiv s.step).toNat := by
    rw [List.length_drop, length_analyze]
    omega
  cases k with
  | forecast =>
    rw [List.mem_singleton.1 ho]
    exact Series.times_of_dropped rfl rfl ((List.length_map _).trans hkept)
  | bands =>
    rcases List.mem_pair.1 ho with rfl | rfl
    · exact Series.times_of_dropped rfl rfl ((List.length_map _).trans hkept)
    · exact Series.times_of_dropped rfl rfl ((List.length_map _).trans hkept)
  | aberration =>
    rw [List.mem_singleton.1 ho]
    refine Series.times_of_dropped rfl rfl (List.length_zipWith.trans ?_)
    rw [hkept, List.length_drop]
    omega

end MetricQuery.Builtin.Forecast
