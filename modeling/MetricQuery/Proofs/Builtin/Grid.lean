/-
Builtin functions keep series on their grid.

A function that changes samples, names or tags copies the grid of the series it is given; one that puts samples into
buckets builds a grid of its own, with an interval that it has refused unless positive. So every builtin function gives
sound series wherever its operands do (`all_keepSound`), over whatever window it evaluates them.
-/
import MetricQuery.Proofs.Builtin.Registry
import MetricQuery.Proofs.Engine.Outcome
import MetricQuery.Proofs.Series.Grid

namespace MetricQuery

open Target (Expr Call)
open Time (Window)
open Series (Sound AllSound)

/-- operands that give sound series over every window -/
structure Operands.YieldSound (ops : Operands) (R : Regime) : Prop where
  args : ∀ arg ∈ ops.args, ∀ w, Yields R AllSound (arg w)
  named : ∀ arg ∈ ops.named, ∀ w, Yields R AllSound (arg.2 w)
  fetch : ∀ e w, Yields R (fun _ => True) (ops.fetch e w)

/-- a function that gives sound series wherever its operands do -/
def Function.KeepsSound (f : Function) : Prop :=
  ∀ {R : Regime} {ops : Operands}, ops.YieldSound R → ∀ c w, Yields R AllSound (f.evaluate ops c w)

namespace Builtin

/-! ## Series arguments -/

section Series

variable {R : Regime} {ops : Operands} (h : ops.YieldSound R)

theorem yields_seriesOf (c : Call) (index : Nat) (e : Expr) {arg : Windowed} (harg : ∀ w, Yields R AllSound (arg w))
    (w : Window) : Yields R AllSound (seriesOf c index e arg w) := by
  unfold seriesOf
  exact Yields.guarded (harg w)

include h

theorem yields_seriesAt (c : Call) (index : Nat) (w : Window) : Yields R AllSound (seriesAt ops c index w) := by
  unfold seriesAt
  split
  · rename_i e arg _ harg
    exact yields_seriesOf c index e (h.args arg (List.mem_of_getElem? harg)) w
  · exact Yields.throw _ _

theorem yields_seriesPerArg (c : Call) (w : Window) :
    Yields R (fun found : List (Expr × List Series) => ∀ p ∈ found, AllSound p.2) (seriesPerArg ops c w) := by
  refine Yields.mapM fun a ha => ?_
  obtain ⟨⟨e, arg⟩, index⟩ := a
  have hzip : (e, arg) ∈ c.args.zip ops.args := (List.mem_zipIdx' ha).2 ▸ List.getElem_mem _
  have harg : arg ∈ ops.args := (List.of_mem_zip hzip).2
  exact (yields_seriesOf c index e (h.args arg harg) w).bind fun series hs => Yields.pure hs

theorem yields_singleSeriesAt (c : Call) (index : Nat) (w : Window) :
    Yields R (fun found : Option Series => ∀ s ∈ found, s.Sound) (singleSeriesAt ops c index w) := by
  refine (yields_seriesAt h c index w).bind fun series hs => ?_
  split
  · exact Yields.pure (by simp)
  · refine Yields.pure fun s hmem => hs s ?_
    rw [Option.mem_some_iff.1 hmem]
    exact List.mem_cons_self
  · exact Yields.throw _ _

end Series

/-! ## Functions of one list of series -/

theorem Mapping.keepsSound (m : Mapping) (descriptions : List Description)
    (hfinish : ∀ c early w series, AllSound series → Ensures (m.finish c early w series) AllSound) :
    (m.toFunction descriptions).KeepsSound := by
  intro R ops h c w
  refine Yields.skip fun early => Yields.skip fun inner => ?_
  exact (yields_seriesAt h c 0 inner).bind fun series hs => Yields.lift (hfinish c early w series hs)

theorem Mapping.keepsSound_simple {finish : Call → Window → List Series → Except EvalError (List Series)}
    (descriptions : List Description) (h : ∀ c w series, AllSound series → Ensures (finish c w series) AllSound) :
    ((Mapping.simple finish).toFunction descriptions).KeepsSound :=
  Mapping.keepsSound _ descriptions fun c _ w series hs => h c w series hs

theorem Mapping.keepsSound_perSeries {read : Call → Window → Except EvalError (Series → Series)}
    (descriptions : List Description) (h : ∀ c w, Ensures (read c w) fun f => ∀ s : Series, s.Sound → (f s).Sound) :
    ((Mapping.perSeries read).toFunction descriptions).KeepsSound :=
  Mapping.keepsSound_simple descriptions fun c w _ hs => (h c w).bind fun _ hf => Ensures.ok (hs.map hf)

/-! ## Combining -/

theorem sound_aggregateGroups (r : Reducer) {groups : List (String × List Series)} (h : ∀ g ∈ groups, AllSound g.2) :
    AllSound (aggregateGroups r groups) :=
  AllSound.flatMap fun g hg => (h g hg).aggregate _ _ _

theorem mem_add {α : Type} {g : Groups α} {key : String} {x y : α} {group : String × List α}
    (hgroup : group ∈ (g.add key x).listed) (hy : y ∈ group.2) : y = x ∨ ∃ group' ∈ g.listed, y ∈ group'.2 := by
  unfold Groups.add at hgroup
  split at hgroup
  · rename_i i _
    obtain ⟨j, hj⟩ := List.mem_iff_getElem?.1 hgroup
    rw [List.getElem?_modify] at hj
    obtain ⟨group', hgroup', rfl⟩ := Option.map_eq_some_iff.1 hj
    have hmem := List.mem_of_getElem? hgroup'
    split at hy
    · rcases List.mem_append.1 hy with hy | hy
      · exact Or.inr ⟨group', hmem, hy⟩
      · exact Or.inl (List.mem_singleton.1 hy)
    · exact Or.inr ⟨group', hmem, hy⟩
  · rcases List.mem_append.1 hgroup with hgroup | hgroup
    · exact Or.inr ⟨group, hgroup, hy⟩
    · rw [List.mem_singleton.1 hgroup] at hy
      exact Or.inl (List.mem_singleton.1 hy)

/-- a group has no members but those that were grouped -/
theorem mem_groupBy {α : Type} {key : α → String} {xs : List α} {group : String × List α} {y : α}
    (hgroup : group ∈ groupBy key xs) (hy : y ∈ group.2) : y ∈ xs := by
  have hfold : ∀ (xs : List α) (g : Groups α), group ∈ (xs.foldl (fun (g : Groups α) x => g.add (key x) x) g).listed →
      y ∈ xs ∨ ∃ group' ∈ g.listed, y ∈ group'.2 := by
    intro xs
    induction xs with
    | nil => exact fun g hgroup => Or.inr ⟨group, hgroup, hy⟩
    | cons x xs ih =>
      intro g hgroup
      rcases ih _ hgroup with hmem | ⟨group', hgroup', hmem⟩
      · exact Or.inl (List.mem_cons_of_mem _ hmem)
      · rcases mem_add hgroup' hmem with rfl | hmem
        · exact Or.inl List.mem_cons_self
        · exact Or.inr hmem
  rcases hfold xs _ hgroup with hmem | ⟨group', hgroup', -⟩
  · exact hmem
  · cases hgroup'

theorem sound_groupBy {series : List Series} (h : AllSound series) (key : Series → String) (r : Reducer) :
    AllSound (aggregateGroups r (groupBy key series)) :=
  sound_aggregateGroups r fun _ hg s hs => h s (mem_groupBy hg hs)

theorem keepsSound_summarizer (base : String) (r : Reducer) : (summarizer base r).KeepsSound := by
  intro R ops h c w
  refine (yields_seriesPerArg h c w).bind fun found hfound => Yields.pure ?_
  refine AllSound.aggregate (AllSound.flatMap fun p hp => hfound p ?_) _ _ _
  exact (List.mem_filter.1 hp).1

theorem sound_divide {dividend divisor : Series} (h : dividend.Sound) (h' : divisor.Sound) :
    (divide dividend divisor).Sound := by
  have hboth : AllSound [dividend, divisor] := by
    intro s hs
    rcases List.mem_cons.1 hs with rfl | hs
    · exact h
    · rw [List.mem_singleton.1 hs]
      exact h'
  have haligned := hboth.align
  unfold divide
  split
  · rename_i a b hab
    rw [hab] at haligned
    exact ((haligned a List.mem_cons_self).shell _).withValues _
  · exact h

theorem keepsSound_divideSeries : divideSeries.KeepsSound := by
  intro R ops h c w
  refine (yields_seriesAt h c 0 w).bind fun dividends hdividends => ?_
  refine (yields_singleSeriesAt h c 1 w).bind fun divisor hdivisor => ?_
  split
  · exact Yields.pure Series.allSound_nil
  · rename_i d
    exact Yields.pure (hdividends.map fun s hs => sound_divide hs (hdivisor d rfl))

theorem keepsSound_combining : ∀ f ∈ combining, f.KeepsSound := by
  intro f hf
  simp only [combining, List.mem_append, List.mem_cons, List.not_mem_nil, or_false] at hf
  rcases hf with (rfl | hf) | rfl | rfl | rfl | rfl | rfl
  · refine Mapping.keepsSound_simple _ fun c w series hs => ?_
    refine Ensures.skip fun name => Ensures.skip fun r => ?_
    split
    · exact Ensures.ok Series.allSound_nil
    · exact Ensures.skip fun factor => Ensures.ok (hs.aggregate _ _ _)
  · obtain ⟨base, _, hb⟩ := List.mem_filterMap.1 hf
    obtain ⟨r, _, rfl⟩ := Option.map_eq_some_iff.1 hb
    exact keepsSound_summarizer base r
  · refine Mapping.keepsSound_simple _ fun c w series hs => ?_
    exact Ensures.skip fun name => Ensures.skip fun r => Ensures.skip fun positions => Ensures.ok (sound_groupBy hs _ r)
  · refine Mapping.keepsSound_simple _ fun c w series hs => ?_
    exact Ensures.skip fun selector => Ensures.skip fun name => Ensures.skip fun r => Ensures.ok (sound_groupBy hs _ r)
  · refine Mapping.keepsSound_simple _ fun c w series hs => ?_
    exact Ensures.skip fun name => Ensures.skip fun r => Ensures.skip fun selectors => Ensures.ok (sound_groupBy hs _ r)
  · refine Mapping.keepsSound_simple _ fun c w series hs => ?_
    refine Ensures.skip fun n => ?_
    split
    · refine (Ensures.error _ fun _ => True).bind fun _ _ => Ensures.skip fun interpolate => ?_
      exact Ensures.ok (hs.aggregate _ _ _)
    · exact Ensures.skip fun interpolate => Ensures.ok (hs.aggregate _ _ _)
  · exact keepsSound_divideSeries

/-! ## Naming and filtering -/

theorem keepsSound_aliasing : ∀ f ∈ aliasing, f.KeepsSound := by
  intro f hf
  simp only [aliasing, List.mem_cons, List.not_mem_nil, or_false] at hf
  rcases hf with rfl | rfl | rfl | rfl
  · refine Mapping.keepsSound_perSeries _ fun c w => ?_
    exact Ensures.skip fun name => Ensures.ok fun s hs => (hs.renamed name).withPath name
  · exact Mapping.keepsSound_perSeries _ fun c w => Ensures.ok fun s hs => (hs.renamed _).withPath _
  · refine Mapping.keepsSound_perSeries _ fun c w => ?_
    exact Ensures.skip fun selectors => Ensures.ok fun s hs => hs.renamed _
  · refine Mapping.keepsSound_perSeries _ fun c w => ?_
    refine Ensures.skip fun search => Ensures.skip fun replace => Ensures.skip fun newName => ?_
    split
    · exact Ensures.error _ _
    · exact Ensures.ok fun s hs => hs.renamed _

theorem keepsSound_grepLike (keep : Bool) (name text : String) : (grepLike keep name text).KeepsSound := by
  refine Mapping.keepsSound_simple _ fun c w series hs => ?_
  refine Ensures.skip fun pattern => ?_
  split
  · exact Ensures.error _ _
  · exact Ensures.ok (hs.subset (List.filter_subset_self _))

theorem keepsSound_filtering : ∀ f ∈ filtering, f.KeepsSound := by
  intro f hf
  simp only [filtering, List.mem_cons, List.not_mem_nil, or_false] at hf
  rcases hf with rfl | rfl | rfl
  · exact keepsSound_grepLike _ _ _
  · exact keepsSound_grepLike _ _ _
  · refine Mapping.keepsSound_simple _ fun c w series hs => ?_
    exact Ensures.skip fun n => Ensures.ok (hs.subset (List.take_subset _ _))

/-! ## Transforming -/

theorem sound_reshaped {s : Series} (h : s.Sound) (name : String) (values : List Float) (key value : String) :
    (reshaped s name values key value).Sound :=
  ((h.shell name).withValues values).withTag key value

theorem yields_referenceOf {R : Regime} {ops : Operands} (h : ops.YieldSound R) (c : Call) (w : Window) :
    Yields R (fun _ => True) (referenceOf ops c w) := by
  unfold referenceOf
  split
  · rename_i e arg _ harg
    exact Yields.map ((yields_seriesOf c 2 e (h.named _ (Keyed.mem_of_get? harg)) w).imp fun _ _ => trivial)
  · split
    · exact Yields.map ((yields_seriesAt h c 2 w).imp fun _ _ => trivial)
    · exact Yields.pure trivial

theorem keepsSound_transformNull : transformNull.KeepsSound := by
  intro R ops h c w
  refine (yields_seriesAt h c 0 w).bind fun series hs => ?_
  refine Yields.skip fun default => ?_
  exact (yields_referenceOf h c w).bind fun reference _ => Yields.pure (hs.map fun s hs => sound_reshaped hs _ _ _ _)

theorem keepsSound_transforming : ∀ f ∈ transforming, f.KeepsSound := by
  intro f hf
  simp only [transforming, List.mem_cons, List.not_mem_nil, or_false] at hf
  rcases hf with rfl | rfl | rfl | rfl | rfl | rfl | rfl | rfl | rfl | rfl
  · exact Mapping.keepsSound_perSeries _ fun c w => Ensures.ok fun s hs => sound_reshaped hs _ _ _ _
  · refine Mapping.keepsSound_perSeries _ fun c w => ?_
    exact Ensures.skip fun factor => Ensures.ok fun s hs => sound_reshaped hs _ _ _ _
  · refine Mapping.keepsSound_perSeries _ fun c w => ?_
    exact Ensures.skip fun amount => Ensures.ok fun s hs => sound_reshaped hs _ _ _ _
  · exact Mapping.keepsSound_perSeries _ fun c w => Ensures.ok fun s hs => sound_reshaped hs _ _ _ _
  · refine Mapping.keepsSound_perSeries _ fun c w => ?_
    exact Ensures.skip fun greatest => Ensures.skip fun least => Ensures.ok fun s hs => sound_reshaped hs _ _ _ _
  · exact Mapping.keepsSound_perSeries _ fun c w => Ensures.ok fun s hs => sound_reshaped hs _ _ _ _
  · refine Mapping.keepsSound_perSeries _ fun c w => ?_
    refine Ensures.skip fun unit => Ensures.skip fun seconds => Ensures.skip fun interval => ?_
    exact Ensures.ok fun s hs => sound_reshaped hs _ _ _ _
  · refine Mapping.keepsSound_perSeries _ fun c w => ?_
    exact Ensures.skip fun limit => Ensures.ok fun s hs => sound_reshaped hs _ _ _ _
  · exact keepsSound_transformNull
  · refine Mapping.keepsSound_perSeries _ fun c w => ?_
    refine Ensures.skip fun reducerName => Ensures.skip fun r => ?_
    exact Ensures.ok fun s hs => (sound_reshaped hs _ _ _ _).withReducer reducerName

/-! ## Moving in time -/

theorem sound_shown (k : Forecast.Kind) (set : Forecast.Setting) {s : Series} (h : s.Sound) :
    AllSound (Forecast.shown k set s) := by
  have hnamed : ∀ name start values, (((s.shell name).withStart start).withValues values).Sound :=
    fun name start values => ((h.shell name).withStart start).withValues values
  intro r hr
  cases k with
  | forecast =>
    rw [List.mem_singleton.1 hr]
    exact hnamed _ _ _
  | bands =>
    rcases List.mem_cons.1 hr with rfl | hr
    · exact hnamed _ _ _
    · rw [List.mem_singleton.1 hr]
      exact hnamed _ _ _
  | aberration =>
    rw [List.mem_singleton.1 hr]
    exact hnamed _ _ _

theorem keepsSound_forecasting : ∀ f ∈ forecasting, f.KeepsSound := by
  intro f hf
  obtain ⟨k, rfl⟩ : ∃ k, f = Forecast.function k := by
    simp only [forecasting, List.mem_cons, List.not_mem_nil, or_false] at hf
    rcases hf with rfl | rfl | rfl <;> exact ⟨_, rfl⟩
  refine Mapping.keepsSound _ _ fun c set w series hs => ?_
  exact Ensures.ok (AllSound.flatMap fun s hmem => sound_shown k set (hs s hmem))

theorem sound_shiftSeries (text : String) (shift : Int) (resetEnd : Bool) (w : Window) {s : Series} (h : s.Sound) :
    (shiftSeries text shift resetEnd w s).Sound :=
  (((h.shell _).withStart _).withValues _).withTag "timeShift" text

theorem sound_lineUp {latest : List Mark} {newest : Mark} {rank : Nat} {s moved : Series} (h : s.Sound)
    (hmoved : lineUp latest newest rank s = some moved) : moved.Sound := by
  simp only [lineUp, Option.bind_eq_bind, Option.bind_eq_some_iff] at hmoved
  obtain ⟨node, -, version, -, mark, -, hmoved⟩ := hmoved
  rw [← Option.some.inj hmoved]
  exact ((h.shell _).withValues _).withTag _ _

theorem keepsSound_timeShiftByMetric : timeShiftByMetric.KeepsSound := by
  intro R ops h c w
  refine (yields_seriesAt h c 0 w).bind fun metrics hmetrics => ?_
  refine (yields_seriesAt h c 1 w).bind fun marks _ => ?_
  refine Yields.skip fun rank => ?_
  refine Yields.guarded ?_
  split
  · exact Yields.throw _ _
  · split
    · refine Yields.pure fun moved hmoved => ?_
      obtain ⟨s, hs, hline⟩ := List.mem_filterMap.1 hmoved
      exact sound_lineUp (hmetrics s hs) hline
    · exact Yields.throw _ _

theorem keepsSound_shifting : ∀ f ∈ shifting, f.KeepsSound := by
  intro f hf
  simp only [shifting, List.mem_cons, List.not_mem_nil, or_false] at hf
  rcases hf with rfl | rfl
  · refine Mapping.keepsSound _ _ fun c early w series hs => ?_
    exact Ensures.ok (hs.map fun s hs => sound_shiftSeries _ _ _ w hs)
  · exact keepsSound_timeShiftByMetric

/-! ## Buckets -/

/-- an interval that is not refused is positive -/
theorem positive_pos (c : Call) (seconds : Int) : Ensures (positive c seconds) (0 < ·) := by
  unfold positive
  split
  · exact Ensures.error _ _
  · exact Ensures.ok (by omega)

theorem intervalOf_pos (c : Call) : Ensures (intervalOf c) (0 < ·) :=
  Ensures.skip fun _ => positive_pos c _

theorem keepsSound_summarize : summarize.KeepsSound := by
  refine Mapping.keepsSound_simple _ fun c w series hs => ?_
  refine (intervalOf_pos c).bind fun interval hpos => ?_
  refine Ensures.skip fun reducerName => Ensures.skip fun r => Ensures.skip fun alignToFrom => ?_
  refine Ensures.mapM fun s hmem => ?_
  have hbucket : ∀ (start : Int) (name text : String) (values : List Float),
      ((((s.shell name).onGrid start interval values).withTag "summarize" text).withTag "summarizeFunction"
        reducerName).Sound :=
    fun start name text values => ((((hs s hmem).shell name).onGrid hpos start values).withTag _ _).withTag _ _
  split
  · exact Ensures.skip fun start => Ensures.skip fun buckets => Ensures.ok (hbucket start _ _ _)
  · exact Ensures.skip fun start => Ensures.skip fun buckets => Ensures.ok (hbucket start _ _ _)

theorem keepsSound_smartSummarize : smartSummarize.KeepsSound := by
  refine Mapping.keepsSound _ _ fun c early w series hs => ?_
  refine (intervalOf_pos c).bind fun interval hpos => ?_
  refine Ensures.skip fun reducerName => Ensures.skip fun r => Ensures.skip fun unit => ?_
  refine Ensures.mapM fun s hmem => Ensures.skip fun g => Ensures.ok ?_
  exact ((((hs s hmem).shell _).onGrid hpos _ _).withTag _ _).withTag _ _

theorem keepsSound_hitcount : hitcount.KeepsSound := by
  refine Mapping.keepsSound _ _ fun c early w series hs => ?_
  refine (intervalOf_pos c).bind fun interval hpos => Ensures.skip fun aligned => ?_
  refine Ensures.mapM fun s hmem => Ensures.skip fun buckets => ?_
  have hbucket : ∀ (start : Int) (name text : String) (values : List Float),
      (((s.shell name).onGrid start interval values).withTag "hitcount" text).Sound :=
    fun start name text values => (((hs s hmem).shell name).onGrid hpos start values).withTag _ _
  dsimp only
  split
  · exact Ensures.skip fun start => Ensures.ok (hbucket start _ _ _)
  · exact Ensures.skip fun start => Ensures.ok (hbucket start _ _ _)

theorem keepsSound_rebucketing : ∀ f ∈ rebucketing, f.KeepsSound := by
  intro f hf
  simp only [rebucketing, List.mem_cons, List.not_mem_nil, or_false] at hf
  rcases hf with rfl | rfl | rfl
  · exact keepsSound_summarize
  · exact keepsSound_smartSummarize
  · exact keepsSound_hitcount

/-! ## Moving windows -/

theorem yields_reachedSeries {R : Regime} {ops : Operands} (h : ops.YieldSound R) (c : Call) (r : Reach) (w : Window) :
    Yields R AllSound (reachedSeries ops c r w) := by
  unfold reachedSeries
  split
  · exact Yields.skip fun inner => yields_seriesAt h c 0 inner
  · refine (yields_seriesAt h c 0 w).bind fun sampled hs => ?_
    split
    · refine Yields.skip fun start => ?_
      exact (h.fetch _ _).bind fun _ _ => yields_seriesAt h c 0 _
    · exact Yields.pure hs

theorem sound_moveOver (name : String) (c : Call) (reach : Reach) (r : Reducer) (factor : Option Float) {s : Series}
    (h : s.Sound) : (moveOver name c reach r factor s).Sound :=
  (((h.shell _).withStart _).withValues _).withTag _ _

theorem keepsSound_movingFixed (name : String) (r : Reducer) : (movingFixed name r).KeepsSound := by
  intro R ops h c w
  refine Yields.skip fun reach => Yields.skip fun factor => ?_
  exact (yields_reachedSeries h c reach w).bind fun series hs =>
    Yields.pure (hs.map fun s hs => sound_moveOver _ _ _ _ _ hs)

theorem keepsSound_movingWindow : movingWindow.KeepsSound := by
  intro R ops h c w
  refine Yields.skip fun reach => Yields.skip fun reducerName => Yields.skip fun r => Yields.skip fun factor => ?_
  exact (yields_reachedSeries h c reach w).bind fun series hs =>
    Yields.pure (hs.map fun s hs => sound_moveOver _ _ _ _ _ hs)

theorem keepsSound_exponentialMovingAverage : exponentialMovingAverage.KeepsSound := by
  intro R ops h c w
  refine Yields.skip fun reach => ?_
  refine (yields_reachedSeries h c reach w).bind fun series hs => Yields.pure (hs.map fun s hs => ?_)
  exact (((hs.shell _).withStart _).withValues _).withTag _ _

theorem keepsSound_moving : ∀ f ∈ moving, f.KeepsSound := by
  intro f hf
  simp only [moving, List.mem_cons, List.not_mem_nil, or_false] at hf
  rcases hf with rfl | rfl | rfl | rfl | rfl | rfl | rfl
  · exact keepsSound_movingWindow
  · exact keepsSound_movingFixed _ _
  · exact keepsSound_movingFixed _ _
  · exact keepsSound_movingFixed _ _
  · exact keepsSound_movingFixed _ _
  · exact keepsSound_movingFixed _ _
  · exact keepsSound_exponentialMovingAverage

/-! ## All builtin functions -/

/-- **Every builtin function gives sound series** wherever its operands do. -/
theorem all_keepSound : ∀ f ∈ all, f.KeepsSound :=
  forall_all keepsSound_combining keepsSound_aliasing keepsSound_filtering keepsSound_forecasting
    keepsSound_moving keepsSound_shifting keepsSound_rebucketing keepsSound_transforming

end Builtin

end MetricQuery
