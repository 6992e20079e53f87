/-
How builtin functions use their operands.

A function announces the window its arguments are fetched over (`Function.window`) and evaluates them itself
(`Function.evaluate`). The two agree for every builtin function (`all_keepWindow`): it evaluates its operands over the
announced window only, so it follows any discipline that they follow there. A moving window of points is the one
exception. Its window is known once the first argument has been evaluated; then it fetches that argument again and
evaluates it over the wider window, so there the argument has to follow the discipline after being fetched again as
well.

Apart from what its operands fail with, a function fails with refusals of its call only. That an argument is missing is
among them for the parameters that it reads by place only (`Function.places`).
-/
import MetricQuery.Proofs.Builtin.Refusals
import MetricQuery.Proofs.Builtin.Registry

namespace MetricQuery

open Target (Expr Call)
open Time (Window)
open Discipline (Holds)

/-! ## Operands over a window -/

/-- every operand follows a discipline over a window -/
structure Operands.HoldAt (ops : Operands) (D : Discipline) (w : Window) : Prop where
  args : ∀ arg ∈ ops.args, D.Holds (arg w)
  named : ∀ arg ∈ ops.named, D.Holds (arg.2 w)

/-- the first operand follows a discipline over every window it is fetched for anew -/
def Operands.HoldAgain (ops : Operands) (D : Discipline) (c : Call) : Prop :=
  ∀ e arg, c.args.head? = some e → ops.args.head? = some arg → ∀ w, D.Holds (do ops.fetch e w; arg w)

/-- whether a call of a function is a moving window of points, which fetches its argument again -/
def Function.Refetches (f : Function) (c : Call) : Prop :=
  f ∈ Builtin.moving ∧ ∃ n, Builtin.Reach.ofCall c = .ok (.points n)

/-! ## Places -/

/-- the texts that functions read by place only -/
def Builtin.textsByPlace : List (String × String) :=
  [("aggregateWithWildcards", "func"), ("groupByNodes", "callback"), ("summarize", "intervalString"),
    ("smartSummarize", "intervalString"), ("hitcount", "intervalString")]

/-- a required parameter that its function reads by place only, though validation takes it by name too -/
def Param.readByPlace (function : String) (p : Param) : Bool :=
  p.required && !p.variadic && (p.type == .seriesList || Builtin.textsByPlace.contains (function, p.name))

/-- the places that are read as such -/
def Description.places (d : Description) : List Nat :=
  (d.params.zipIdx.filter fun q => q.1.readByPlace d.name).map Prod.snd

def Function.places (f : Function) : List Nat :=
  f.descriptions.flatMap Description.places

/-- every refusal of a call that reads some places is allowed -/
def Discipline.Grants (D : Discipline) (c : Call) (places : List Nat) : Prop :=
  ∀ e : EvalError, e.IsRefusal c places → D.Allows e

namespace Discipline.Grants

variable {α β : Type} {D : Discipline} {c : Call} {places : List Nat} (h : D.Grants c places)
include h

theorem lift {x : Except EvalError α} (hx : Refuses c places x) : D.Holds (liftM x : Eval α) :=
  Holds.lift (hx.imp h)

theorem throw {e : EvalError} (he : e.IsRefusal c places) : D.Holds (MonadExcept.throw e : Eval α) :=
  Holds.throw (h e he)

theorem lift_bind {x : Except EvalError α} {f : α → Eval β} (hx : Refuses c places x)
    (hf : ∀ a, x = .ok a → D.Holds (f a)) : D.Holds ((liftM x : Eval α) >>= f) :=
  Holds.lift_bind (hx.imp h) hf

end Discipline.Grants

/-- a function that follows any discipline its operands follow over the window it announces, if it announces one -/
structure Function.KeepsWindow (f : Function) : Prop where
  window : ∀ c w, Refuses c f.places (f.window c w)
  evaluate : ∀ {D : Discipline} {ops : Operands} {c : Call} {w : Window}, D.Grants c f.places →
    ops.args.length = c.args.length → (∀ inner, f.window c w = .ok inner → ops.HoldAt D inner) →
      (f.Refetches c → ops.HoldAgain D c) → D.Holds (f.evaluate ops c w)

namespace Builtin

/-! ## Series arguments -/

section Series

variable {D : Discipline} {ops : Operands} {c : Call} {places : List Nat} {w : Window} (hD : D.Grants c places)
include hD

theorem holds_seriesOf (index : Nat) (e : Expr) {arg : Windowed} (harg : D.Holds (arg w)) :
    D.Holds (seriesOf c index e arg w) := by
  unfold seriesOf
  exact Holds.guarded (hD (.missingTimeSeries c.function index) trivial) harg

variable (hlen : ops.args.length = c.args.length) (h : ops.HoldAt D w)
include hlen h

theorem holds_seriesAt {index : Nat} (hindex : c.args.length ≤ index → index ∈ places) :
    D.Holds (seriesAt ops c index w) := by
  rcases lt_or_ge index c.args.length with hlt | hge
  · have hops : index < ops.args.length := hlen ▸ hlt
    rw [seriesAt, List.getElem?_eq_getElem hlt, List.getElem?_eq_getElem hops]
    exact holds_seriesOf hD index _ (h.args _ (List.getElem_mem hops))
  · rw [seriesAt, List.getElem?_eq_none hge]
    exact hD.throw ⟨rfl, index, hindex hge, hge, rfl⟩

omit hlen in
theorem holds_seriesPerArg : D.Holds (seriesPerArg ops c w) := by
  refine Holds.mapM fun a ha => ?_
  obtain ⟨⟨e, arg⟩, index⟩ := a
  have hzip : (e, arg) ∈ c.args.zip ops.args := (List.mem_zipIdx' ha).2 ▸ List.getElem_mem _
  have harg : arg ∈ ops.args := (List.of_mem_zip hzip).2
  exact (holds_seriesOf hD index e (h.args arg harg)).bind fun series => Holds.pure (e, series)

theorem holds_singleSeriesAt {index : Nat} (hindex : index ∈ places) : D.Holds (singleSeriesAt ops c index w) := by
  refine (holds_seriesAt hD hlen h fun _ => hindex).bind fun series => ?_
  split
  · exact Holds.pure none
  · exact Holds.pure _
  · exact hD.throw trivial

end Series

/-- a function whose first parameter is the list of series that most take reads it by place -/
theorem zero_mem_places {f : Function} {d : Description} (hd : d ∈ f.descriptions)
    (hfirst : d.params.head? = some seriesList) : 0 ∈ f.places := by
  refine List.mem_flatMap.2 ⟨d, hd, ?_⟩
  obtain ⟨rest, hparams⟩ := List.head?_eq_some_iff.1 hfirst
  simp [Description.places, hparams, Param.readByPlace, seriesList]

/-- the functions that read two arguments by place -/
def placedSecond : List Function :=
  [divideSeries, timeShiftByMetric, aggregateWithWildcards, groupByNodes, summarize, smartSummarize, hitcount]

theorem mem_places_of_placedSecond : ∀ f ∈ placedSecond, ∀ i ≤ 1, i ∈ f.places := by decide +kernel

/-! ## Functions of one list of series -/

section Mapping

variable {f : Function} {descriptions : List Description}

/-- a mapping evaluates its series over its own window -/
theorem Mapping.keepsWindow {m : Mapping} (hf : f = m.toFunction descriptions) (hfirst : 0 ∈ f.places)
    (hearly : ∀ c, Refuses c f.places (m.early c)) (hwindow : ∀ c w, Refuses c f.places (m.window c w))
    (hfinish : ∀ c early w series, Refuses c f.places (m.finish c early w series)) : f.KeepsWindow where
  window := by
    rw [hf] at hwindow ⊢
    exact hwindow
  evaluate := by
    intro D ops c w hD hlen h _
    rw [hf] at h ⊢
    refine (hD.lift (hearly c)).bind fun early => ?_
    refine hD.lift_bind (hwindow c w) fun inner hw => ?_
    refine (holds_seriesAt hD hlen (h inner hw) fun _ => hfirst).bind fun series => ?_
    exact hD.lift (hfinish c early w series)

theorem Mapping.keepsWindow_simple {finish : Call → Window → List Series → Except EvalError (List Series)}
    (hf : f = (Mapping.simple finish).toFunction descriptions) (hfirst : 0 ∈ f.places)
    (h : ∀ c w series, Refuses c f.places (finish c w series)) : f.KeepsWindow :=
  Mapping.keepsWindow hf hfirst (fun _ => FailsOnly.ok ()) (fun _ w => FailsOnly.ok w) fun c _ w series => h c w series

theorem Mapping.keepsWindow_perSeries {read : Call → Window → Except EvalError (Series → Series)}
    (hf : f = (Mapping.perSeries read).toFunction descriptions) (hfirst : 0 ∈ f.places)
    (h : ∀ c w, Refuses c f.places (read c w)) : f.KeepsWindow :=
  Mapping.keepsWindow_simple hf hfirst fun c w series => by simp [h c w]

end Mapping

/-! ## Combining -/

/-- a function that announces the window it is given -/
theorem keepsWindow_of_sameWindow {f : Function} (hwindow : f.window = fun _ w => .ok w)
    (h : ∀ {D : Discipline} {ops : Operands} {c : Call} {w : Window}, D.Grants c f.places →
      ops.args.length = c.args.length → ops.HoldAt D w → D.Holds (f.evaluate ops c w)) : f.KeepsWindow where
  window c w := by simp [hwindow]
  evaluate := by
    intro D ops c w hD hlen hops _
    exact h hD hlen (hops w (by rw [hwindow]))

theorem keepsWindow_summarizer (base : String) (r : Reducer) : (summarizer base r).KeepsWindow := by
  refine keepsWindow_of_sameWindow rfl fun hD _ h => ?_
  exact (holds_seriesPerArg hD h).bind fun found => Holds.pure _

theorem keepsWindow_divideSeries : divideSeries.KeepsWindow := by
  refine keepsWindow_of_sameWindow rfl fun hD hlen h => ?_
  have hplaces := mem_places_of_placedSecond divideSeries (by simp [placedSecond])
  refine (holds_seriesAt hD hlen h fun _ => hplaces 0 zero_le_one).bind fun dividends => ?_
  refine (holds_singleSeriesAt hD hlen h (hplaces 1 le_rfl)).bind fun divisor => ?_
  split <;> exact Holds.pure _

theorem keepsWindow_aggregate : aggregate.KeepsWindow := by
  refine Mapping.keepsWindow_simple rfl (zero_mem_places List.mem_cons_self rfl) fun c w series => ?_
  simp only [FailsOnly.bind_iff, Refuses.stringOr, Refuses.reducerNamed, true_and]
  intro name _ r _
  split <;> simp

theorem keepsWindow_aggregateWithWildcards : aggregateWithWildcards.KeepsWindow := by
  refine Mapping.keepsWindow_simple rfl (zero_mem_places List.mem_cons_self rfl) fun c w series => ?_
  have hfunc := mem_places_of_placedSecond aggregateWithWildcards (by simp [placedSecond]) 1 le_rfl
  simp [Refuses.stringAt hfunc]

theorem keepsWindow_groupByNodes : groupByNodes.KeepsWindow := by
  refine Mapping.keepsWindow_simple rfl (zero_mem_places List.mem_cons_self rfl) fun c w series => ?_
  have hcallback := mem_places_of_placedSecond groupByNodes (by simp [placedSecond]) 1 le_rfl
  simp [Refuses.stringAt hcallback]

theorem keepsWindow_percentileOfSeries : percentileOfSeries.KeepsWindow := by
  refine Mapping.keepsWindow_simple rfl (zero_mem_places List.mem_cons_self rfl) fun c w series => ?_
  simp only [FailsOnly.bind_iff, Refuses.floatOr, true_and]
  intro n _
  split <;> simp

theorem keepsWindow_combining : ∀ f ∈ combining, f.KeepsWindow := by
  intro f hf
  simp only [combining, List.mem_append, List.mem_cons, List.not_mem_nil, or_false] at hf
  rcases hf with (rfl | hf) | rfl | rfl | rfl | rfl | rfl
  · exact keepsWindow_aggregate
  · obtain ⟨base, _, hb⟩ := List.mem_filterMap.1 hf
    obtain ⟨r, _, rfl⟩ := Option.map_eq_some_iff.1 hb
    exact keepsWindow_summarizer base r
  · exact keepsWindow_aggregateWithWildcards
  · exact Mapping.keepsWindow_simple rfl (zero_mem_places List.mem_cons_self rfl) fun c w series => by simp
  · exact keepsWindow_groupByNodes
  · exact keepsWindow_percentileOfSeries
  · exact keepsWindow_divideSeries

/-! ## Naming, filtering and transforming -/

theorem keepsWindow_aliasing : ∀ f ∈ aliasing, f.KeepsWindow := by
  intro f hf
  simp only [aliasing, List.mem_cons, List.not_mem_nil, or_false] at hf
  rcases hf with rfl | rfl | rfl | rfl
  · exact Mapping.keepsWindow_perSeries rfl (zero_mem_places List.mem_cons_self rfl) fun c w => by simp
  · exact Mapping.keepsWindow_perSeries rfl (zero_mem_places List.mem_cons_self rfl) fun c w => by simp
  · exact Mapping.keepsWindow_perSeries rfl (zero_mem_places List.mem_cons_self rfl) fun c w => by simp
  · refine Mapping.keepsWindow_perSeries rfl (zero_mem_places List.mem_cons_self rfl) fun c w => ?_
    simp only [FailsOnly.bind_iff, Refuses.stringOr, true_and]
    intro search _ replace _ newName _
    split <;> simp

theorem keepsWindow_grepLike (keep : Bool) (name text : String) : (grepLike keep name text).KeepsWindow := by
  refine Mapping.keepsWindow_simple rfl (zero_mem_places List.mem_cons_self rfl) fun c w series => ?_
  simp only [FailsOnly.bind_iff, Refuses.stringOr, true_and]
  intro pattern _
  split <;> simp

theorem keepsWindow_filtering : ∀ f ∈ filtering, f.KeepsWindow := by
  intro f hf
  simp only [filtering, List.mem_cons, List.not_mem_nil, or_false] at hf
  rcases hf with rfl | rfl | rfl
  · exact keepsWindow_grepLike _ _ _
  · exact keepsWindow_grepLike _ _ _
  · exact Mapping.keepsWindow_simple rfl (zero_mem_places List.mem_cons_self rfl) fun c w series => by simp

theorem holds_referenceOf {D : Discipline} {ops : Operands} {c : Call} {places : List Nat} {w : Window}
    (hD : D.Grants c places) (hlen : ops.args.length = c.args.length) (h : ops.HoldAt D w) :
    D.Holds (referenceOf ops c w) := by
  unfold referenceOf
  split
  · rename_i e arg _ harg
    have hmem : ("referenceSeries", arg) ∈ ops.named := Keyed.mem_of_get? harg
    exact (holds_seriesOf hD 2 e (h.named _ hmem)).map some
  · split
    · rename_i hgiven
      obtain ⟨e, he⟩ := Option.isSome_iff_exists.1 hgiven
      have hlt : 2 < c.args.length := (List.getElem?_eq_some_iff.1 he).1
      exact (holds_seriesAt hD hlen h fun hge => absurd hlt (by omega)).map some
    · exact Holds.pure none

theorem keepsWindow_transformNull : transformNull.KeepsWindow := by
  refine keepsWindow_of_sameWindow rfl fun hD hlen h => ?_
  refine (holds_seriesAt hD hlen h fun _ => zero_mem_places List.mem_cons_self rfl).bind fun series => ?_
  refine (hD.lift (by simp)).bind fun default => ?_
  exact (holds_referenceOf hD hlen h).bind fun reference => Holds.pure _

theorem keepsWindow_transforming : ∀ f ∈ transforming, f.KeepsWindow := by
  intro f hf
  simp only [transforming, List.mem_cons, List.not_mem_nil, or_false] at hf
  rcases hf with rfl | rfl | rfl | rfl | rfl | rfl | rfl | rfl | rfl | rfl
  case inr.inr.inr.inr.inr.inr.inr.inr.inl => exact keepsWindow_transformNull
  all_goals exact Mapping.keepsWindow_perSeries rfl (zero_mem_places List.mem_cons_self rfl) fun c w => by simp

/-! ## Moving in time -/

theorem keepsWindow_forecasting : ∀ f ∈ forecasting, f.KeepsWindow := by
  intro f hf
  obtain ⟨k, rfl⟩ : ∃ k, f = Forecast.function k := by
    simp only [forecasting, List.mem_cons, List.not_mem_nil, or_false] at hf
    rcases hf with rfl | rfl | rfl <;> exact ⟨_, rfl⟩
  refine Mapping.keepsWindow rfl (zero_mem_places List.mem_cons_self rfl) (fun c => by simp) (fun c w => ?_)
    fun c set w series => FailsOnly.ok _
  simp [Forecast.bootstrapOf]

theorem keepsWindow_timeShiftByMetric : timeShiftByMetric.KeepsWindow := by
  refine keepsWindow_of_sameWindow rfl ?_
  intro D ops c w hD hlen h
  refine (holds_seriesAt hD hlen h fun _ => zero_mem_places List.mem_cons_self rfl).bind fun metrics => ?_
  have hmarks := mem_places_of_placedSecond timeShiftByMetric (by simp [placedSecond]) 1 le_rfl
  refine (holds_seriesAt hD hlen h fun _ => hmarks).bind fun marks => ?_
  refine (hD.lift (by simp)).bind fun rank => ?_
  refine Holds.guarded (hD (.invalidArgument c.function (.negativeRank rank)) trivial) ?_
  split
  · exact hD.throw trivial
  · split
    · exact Holds.pure _
    · exact hD.throw trivial

theorem keepsWindow_timeShift : timeShift.KeepsWindow := by
  refine Mapping.keepsWindow rfl (zero_mem_places List.mem_cons_self rfl) (fun c => ?_) (fun c w => ?_)
    fun c early w series => FailsOnly.ok _
  · simp [shiftOf]
  · simp [shiftOf]

theorem keepsWindow_shifting : ∀ f ∈ shifting, f.KeepsWindow := by
  intro f hf
  simp only [shifting, List.mem_cons, List.not_mem_nil, or_false] at hf
  rcases hf with rfl | rfl
  · exact keepsWindow_timeShift
  · exact keepsWindow_timeShiftByMetric

theorem keepsWindow_summarize : summarize.KeepsWindow := by
  have hinterval := mem_places_of_placedSecond summarize (by simp [placedSecond]) 1 le_rfl
  refine Mapping.keepsWindow_simple rfl (zero_mem_places List.mem_cons_self rfl) fun c w series => ?_
  simp only [FailsOnly.bind_iff, Refuses.intervalOf hinterval, Refuses.stringOr, Refuses.reducerNamed,
    Refuses.boolOr, true_and]
  intro interval _ reducerName _ r _ alignToFrom _
  refine FailsOnly.mapM fun s _ => ?_
  split <;> simp

theorem keepsWindow_smartSummarize : smartSummarize.KeepsWindow := by
  have hinterval := mem_places_of_placedSecond smartSummarize (by simp [placedSecond]) 1 le_rfl
  refine Mapping.keepsWindow rfl (zero_mem_places List.mem_cons_self rfl) (fun c => by simp) (fun c w => ?_)
    fun c early w series => ?_
  · simp only [alignmentOf, FailsOnly.bind_iff, Refuses.string?, true_and]
    intro unit _
    split <;> simp
  · simp only [alignmentOf, FailsOnly.bind_iff, Refuses.intervalOf hinterval, Refuses.stringOr,
      Refuses.reducerNamed, Refuses.string?, true_and]
    intro interval _ reducerName _ r _ unit _
    exact FailsOnly.mapM fun s _ => by simp

theorem keepsWindow_hitcount : hitcount.KeepsWindow := by
  have hinterval := mem_places_of_placedSecond hitcount (by simp [placedSecond]) 1 le_rfl
  refine Mapping.keepsWindow rfl (zero_mem_places List.mem_cons_self rfl) (fun c => by simp) (fun c w => ?_)
    fun c early w series => ?_
  · simp only [hitcountAligned, FailsOnly.bind_iff, Refuses.boolOr, true_and]
    intro aligned _
    split
    · simp only [FailsOnly.bind_iff, Refuses.intervalAt hinterval, true_and]
      intro interval _
      split <;> simp
    · simp
  · simp only [hitcountAligned, FailsOnly.bind_iff, Refuses.intervalOf hinterval, Refuses.boolOr, true_and]
    intro interval _ aligned _
    refine FailsOnly.mapM fun s _ => ?_
    simp only [FailsOnly.bind_iff, Refuses.grid, true_and]
    intro g _
    split <;> simp

theorem keepsWindow_rebucketing : ∀ f ∈ rebucketing, f.KeepsWindow := by
  intro f hf
  simp only [rebucketing, List.mem_cons, List.not_mem_nil, or_false] at hf
  rcases hf with rfl | rfl | rfl
  · exact keepsWindow_summarize
  · exact keepsWindow_smartSummarize
  · exact keepsWindow_hitcount

/-! ## Moving windows -/

/-- the first argument as series is what its operand gives, or a refusal that no window changes -/
theorem seriesAt_zero {ops : Operands} {c : Call} (hlen : ops.args.length = c.args.length) {places : List Nat}
    (hfirst : 0 ∈ places) :
    (∃ e arg, c.args.head? = some e ∧ ops.args.head? = some arg ∧ ∀ w, seriesAt ops c 0 w = arg w) ∨
      ∃ e : EvalError, e.IsRefusal c places ∧ ∀ w, seriesAt ops c 0 w = throw e := by
  cases hargs : c.args with
  | nil =>
    refine Or.inr ⟨.missingArgument c.function (Arguments.placeName 0), ⟨rfl, 0, hfirst, by simp [hargs], rfl⟩, ?_⟩
    intro w
    simp [seriesAt, hargs]
  | cons e es =>
    cases hops : ops.args with
    | nil => simp [hargs, hops] at hlen
    | cons arg rest =>
      by_cases hs : e.isSeries = true
      · refine Or.inl ⟨e, arg, rfl, rfl, fun w => ?_⟩
        simp [seriesAt, seriesOf, hargs, hops, hs]
      · refine Or.inr ⟨.missingTimeSeries c.function 0, trivial, fun w => ?_⟩
        simp only [seriesAt, hargs, hops, List.getElem?_cons_zero, seriesOf, Bool.not_eq_true] at hs ⊢
        rw [hs]
        rfl

/-- a span of time is evaluated over the window it announces; points are evaluated twice, fetched again in between -/
theorem holds_reachedSeries {D : Discipline} {ops : Operands} {c : Call} {places : List Nat} {r : Reach} {w : Window}
    (hD : D.Grants c places) (hfirst : 0 ∈ places) (hlen : ops.args.length = c.args.length)
    (h : ∀ inner, r.widen w = .ok inner → ops.HoldAt D inner) (hagain : (∃ n, r = .points n) → ops.HoldAgain D c) :
    D.Holds (reachedSeries ops c r w) := by
  cases r with
  | seconds span =>
    unfold reachedSeries
    exact hD.lift_bind (by simp) fun inner hw => holds_seriesAt hD hlen (h inner hw) fun _ => hfirst
  | points n =>
    unfold reachedSeries
    rcases seriesAt_zero hlen hfirst with ⟨e, arg, he, harg, hs⟩ | ⟨error, hrefusal, hs⟩
    · simp only [hs, he]
      have hmem : arg ∈ ops.args := List.mem_of_mem_head? harg
      refine ((h w rfl).args arg hmem).bind fun sampled => ?_
      split
      · rename_i step e' _ he'
        cases he'
        refine (hD.lift (by simp)).bind fun start => ?_
        exact hagain ⟨n, rfl⟩ e arg he harg ⟨start, w.stop⟩
      · exact Holds.pure sampled
    · simp only [hs, Eval.throw_bind]
      exact hD.throw hrefusal

/-- a function of a moving window announces what its reach does, and evaluates no other series than it reaches for -/
theorem keepsWindow_of_reach {f : Function} (hf : f ∈ moving) (hfirst : 0 ∈ f.places)
    (hwindow : ∀ c w, f.window c w = do (← Reach.ofCall c).widen w)
    (heval : ∀ {D : Discipline} {ops : Operands} {c : Call} {w : Window}, D.Grants c f.places →
      (∀ reach, Reach.ofCall c = .ok reach → D.Holds (reachedSeries ops c reach w)) → D.Holds (f.evaluate ops c w)) :
    f.KeepsWindow where
  window c w := by simp [hwindow]
  evaluate := by
    intro D ops c w hD hlen h hagain
    refine heval hD fun reach hr =>
      holds_reachedSeries hD hfirst hlen (fun inner hw => h inner ?_) fun hpoints => hagain ⟨hf, ?_⟩
    · rw [hwindow, hr]
      exact hw
    · obtain ⟨n, hn⟩ := hpoints
      exact ⟨n, by rw [hr, hn]⟩

theorem keepsWindow_movingFixed {name : String} {r : Reducer} (hf : movingFixed name r ∈ moving) :
    (movingFixed name r).KeepsWindow := by
  refine keepsWindow_of_reach hf (zero_mem_places List.mem_cons_self rfl) (fun c w => rfl) fun hD hs => ?_
  refine hD.lift_bind (by simp) fun reach hr => ?_
  refine (hD.lift (by simp)).bind fun factor => ?_
  exact (hs reach hr).bind fun series => Holds.pure _

theorem keepsWindow_movingWindow : movingWindow.KeepsWindow := by
  refine keepsWindow_of_reach (by simp [moving]) (zero_mem_places List.mem_cons_self rfl) (fun c w => rfl)
    fun hD hs => ?_
  refine hD.lift_bind (by simp) fun reach hr => ?_
  refine (hD.lift (by simp)).bind fun reducerName => ?_
  refine (hD.lift (by simp)).bind fun r => ?_
  refine (hD.lift (by simp)).bind fun factor => ?_
  exact (hs reach hr).bind fun series => Holds.pure _

theorem keepsWindow_exponentialMovingAverage : exponentialMovingAverage.KeepsWindow := by
  refine keepsWindow_of_reach (by simp [moving]) (zero_mem_places List.mem_cons_self rfl) (fun c w => rfl)
    fun hD hs => ?_
  refine hD.lift_bind (by simp) fun reach hr => ?_
  exact (hs reach hr).bind fun series => Holds.pure _

theorem keepsWindow_moving : ∀ f ∈ moving, f.KeepsWindow := by
  intro f hf
  have hmem := hf
  simp only [moving, List.mem_cons, List.not_mem_nil, or_false] at hf
  rcases hf with rfl | rfl | rfl | rfl | rfl | rfl | rfl
  · exact keepsWindow_movingWindow
  · exact keepsWindow_movingFixed hmem
  · exact keepsWindow_movingFixed hmem
  · exact keepsWindow_movingFixed hmem
  · exact keepsWindow_movingFixed hmem
  · exact keepsWindow_movingFixed hmem
  · exact keepsWindow_exponentialMovingAverage

/-! ## All builtin functions -/

/-- **Announced and evaluated windows agree** for every builtin function. -/
theorem all_keepWindow : ∀ f ∈ all, f.KeepsWindow :=
  forall_all keepsWindow_combining keepsWindow_aliasing keepsWindow_filtering keepsWindow_forecasting
    keepsWindow_moving keepsWindow_shifting keepsWindow_rebucketing keepsWindow_transforming

end Builtin

end MetricQuery
