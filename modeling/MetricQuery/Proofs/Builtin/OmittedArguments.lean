/-
Arguments that are left out, or written as a bare `None`.

Readers of optional arguments take a bare `None` for no argument (`Target.Call.given?`). So two calls of which one
leaves an optional parameter out, and the other gives it as `None` (`Target.Call.Omits`), are read alike. They pass
validation or fail it alike, and a builtin function has the same window and the same evaluation for both
(`Builtin.all_forgiveNone`). The reference of `transformNull` is the exception: it is taken for a series by its name
alone, and `None` is the name of one.
-/
import MetricQuery.Proofs.Builtin.Registry
import MetricQuery.Proofs.Call.Validation
import MetricQuery.Proofs.Engine.Regime

namespace MetricQuery

open Target (Expr Call)
open Time (Window)
open Arguments

/-! ## Calls -/

/-- a call that omits the parameter at a place, and one that differs in that it gives a bare `None` for it -/
structure Target.Call.Omits (key : String) (place : Nat) (c c' : Call) : Prop where
  function : c'.function = c.function
  args : c'.args = c.args
  named : ∀ k, k ≠ key → c'.named? k = c.named? k
  place : c.args.length ≤ place
  absent : c.named? key = none
  bare : c'.named? key = some (.name "None")

/-- the call with a bare `None` for a parameter, whatever is written in its parentheses then -/
def Target.Call.withNone (c : Call) (key argText : String) : Call :=
  { c with named := c.named.insert key (.name "None"), argText }

theorem Target.Call.omits_withNone {c : Call} {key : String} {place : Nat} (habsent : c.named? key = none)
    (hplace : c.args.length ≤ place) (argText : String) : c.Omits key place (c.withNone key argText) where
  function := rfl
  args := rfl
  named _ hk := Keyed.get?_insert_of_ne _ c.named hk
  place := hplace
  absent := habsent
  bare := Keyed.get?_insert_self key _ c.named

namespace Target.Call.Omits

variable {key : String} {place : Nat} {c c' : Call} (h : Omits key place c c')
include h

theorem arg? (i : Nat) : c'.arg? i = c.arg? i := by
  rw [Call.arg?, h.args, Call.arg?]

/-- other parameters are given alike -/
theorem namedOrAt? {k : String} (hk : k ≠ key) (i : Nat) : c'.namedOrAt? k i = c.namedOrAt? k i := by
  rw [Call.namedOrAt?, h.named k hk, h.arg?, Call.namedOrAt?]

/-- as optional parameters all are given alike, if each is looked for at one place -/
theorem given? {k : String} {i : Nat} (hk : k = key → i = place) : c'.given? k i = c.given? k i := by
  rw [Call.given?, Call.given?]
  by_cases hkey : k = key
  · have hplace : c.arg? place = none := List.getElem?_eq_none h.place
    rw [hkey, hk hkey, Call.namedOrAt?, Call.namedOrAt?, h.absent, h.bare, h.arg?, hplace]
    rfl
  · rw [h.namedOrAt? hkey]

/-! ## Readers -/

theorem asString (param : String) : asString c' param = asString c param := by
  funext e
  cases e <;> simp [Arguments.asString, badType, h.function]

theorem asFloat (param : String) : asFloat c' param = asFloat c param := by
  funext e
  cases e <;> simp [Arguments.asFloat, badType, h.function]

theorem asInt (param : String) : asInt c' param = asInt c param := by
  funext e
  simp [Arguments.asInt, badType, h.function, h.asFloat]

theorem asBool (param : String) : asBool c' param = asBool c param := by
  funext e
  cases e <;> simp [Arguments.asBool, badType, h.function]

theorem asInterval (param : String) (sign : Int) : asInterval c' param sign = asInterval c param sign := by
  funext e
  cases e <;> simp [Arguments.asInterval, badType, h.function]

theorem intervalAt (i : Nat) (sign : Int) : c'.intervalAt i sign = c.intervalAt i sign := by
  rw [Call.intervalAt, Call.at?, h.arg?, h.function, h.asInterval, Call.intervalAt, Call.at?]

section Optional

variable {k : String} {i : Nat} (hk : k = key → i = place)
include hk

theorem orDefault {α : Type} (read : Expr → Except EvalError α) (default : α) :
    c'.orDefault k i read default = c.orDefault k i read default := by
  rw [Call.orDefault, h.given? hk, Call.orDefault]

theorem stringOr (default : String) : c'.stringOr k i default = c.stringOr k i default := by
  rw [Call.stringOr, h.orDefault hk, h.asString, Call.stringOr]

theorem floatOr (default : Float) : c'.floatOr k i default = c.floatOr k i default := by
  rw [Call.floatOr, h.orDefault hk, h.asFloat, Call.floatOr]

theorem intOr (default : Int) : c'.intOr k i default = c.intOr k i default := by
  rw [Call.intOr, h.orDefault hk, h.asInt, Call.intOr]

theorem boolOr (default : Bool) : c'.boolOr k i default = c.boolOr k i default := by
  rw [Call.boolOr, h.orDefault hk, h.asBool, Call.boolOr]

theorem intervalOr (sign default : Int) : c'.intervalOr k i sign default = c.intervalOr k i sign default := by
  rw [Call.intervalOr, h.orDefault hk, h.asInterval, Call.intervalOr]

theorem float? : c'.float? k i = c.float? k i := by
  rw [Call.float?, h.orDefault hk, h.asFloat, Call.float?]

theorem string? : c'.string? k i = c.string? k i := by
  rw [Call.string?, h.orDefault hk, h.asString, Call.string?]

end Optional

theorem plainText {k : String} (hk : k ≠ key) (i : Nat) : c'.plainText k i = c.plainText k i := by
  rw [Call.plainText, h.namedOrAt? hk, Call.plainText]

theorem literalText {k : String} (hk : k ≠ key) (i : Nat) : c'.literalText k i = c.literalText k i := by
  rw [Call.literalText, h.namedOrAt? hk, Call.literalText]

end Target.Call.Omits

/-! ## Functions -/

/-- operands that differ in what stands under one key only -/
structure Operands.Besides (key : String) (ops ops' : Operands) : Prop where
  args : ops'.args = ops.args
  named : ∀ k, k ≠ key → ops'.named.get? k = ops.named.get? k
  fetch : ops'.fetch = ops.fetch

/-- a function that takes a bare `None` for an optional parameter at a place as the parameter left out -/
structure Function.Forgives (f : Function) (key : String) (place : Nat) : Prop where
  window : ∀ {c c' : Call}, c.Omits key place c' → f.window c' = f.window c
  evaluate : ∀ {c c' : Call} {ops ops' : Operands}, c.Omits key place c' → ops.Besides key ops' →
    f.evaluate ops' c' = f.evaluate ops c

namespace Builtin

variable {key : String} {place : Nat}

theorem seriesAt_besides {c c' : Call} {ops ops' : Operands} (h : c.Omits key place c') (hops : ops.Besides key ops')
    (i : Nat) : seriesAt ops' c' i = seriesAt ops c i := by
  funext w
  simp only [seriesAt, seriesOf, h.args, h.function, hops.args]

section Mapping

variable {f : Function} {descriptions : List Description}

theorem Mapping.forgives {m : Mapping} (hf : f = m.toFunction descriptions)
    (hearly : ∀ {c c' : Call}, c.Omits key place c' → m.early c' = m.early c)
    (hwindow : ∀ {c c' : Call}, c.Omits key place c' → m.window c' = m.window c)
    (hfinish : ∀ {c c' : Call}, c.Omits key place c' → m.finish c' = m.finish c) : f.Forgives key place := by
  subst hf
  refine ⟨hwindow, fun h hops => ?_⟩
  simp only [Mapping.toFunction, hearly h, hwindow h, hfinish h, seriesAt_besides h hops]

theorem Mapping.forgives_simple {finish : Call → Window → List Series → Except EvalError (List Series)}
    (hf : f = (Mapping.simple finish).toFunction descriptions)
    (hfinish : ∀ {c c' : Call}, c.Omits key place c' → ∀ w series, finish c' w series = finish c w series) :
    f.Forgives key place := by
  refine Mapping.forgives hf (fun _ => rfl) (fun _ => rfl) fun h => ?_
  funext _ w series
  exact hfinish h w series

theorem Mapping.forgives_perSeries {read : Call → Window → Except EvalError (Series → Series)}
    (hf : f = (Mapping.perSeries read).toFunction descriptions)
    (hread : ∀ {c c' : Call}, c.Omits key place c' → ∀ w, read c' w = read c w) : f.Forgives key place :=
  Mapping.forgives_simple hf fun h w series => by rw [hread h]

end Mapping

theorem forgives_aggregate : aggregate.Forgives "xFilesFactor" 2 := by
  refine Mapping.forgives_simple rfl fun h w series => ?_
  simp [h.stringOr, h.float?, h.args]

theorem forgives_groupByNode : groupByNode.Forgives "callback" 2 := by
  refine Mapping.forgives_simple rfl fun h w series => ?_
  simp [nodeSelector, h.namedOrAt?, h.intOr, h.stringOr]

theorem forgives_percentileOfSeries : percentileOfSeries.Forgives "interpolate" 2 := by
  refine Mapping.forgives_simple rfl fun h w series => ?_
  simp [h.floatOr, h.boolOr, h.function, h.args]

theorem forgives_nonNegativeDerivative (hkey : (key, place) ∈ [("maxValue", 1), ("minValue", 2)]) :
    nonNegativeDerivative.Forgives key place := by
  refine Mapping.forgives_perSeries rfl fun h w => ?_
  simp only [List.mem_cons, Prod.mk.injEq, List.not_mem_nil, or_false] at hkey
  rcases hkey with ⟨rfl, rfl⟩ | ⟨rfl, rfl⟩
  all_goals simp [h.float?]

theorem forgives_keepLastValue : keepLastValue.Forgives "limit" 1 :=
  Mapping.forgives_perSeries rfl fun h w => by simp [h.floatOr]

theorem forgives_timeShift : timeShift.Forgives "resetEnd" 2 := by
  refine Mapping.forgives rfl (fun h => ?_) (fun h => ?_) fun h => ?_
  · simp [shiftOf, h.intervalOr, h.boolOr]
  · simp [shiftOf, h.intervalOr]
  · simp [h.plainText]

theorem intervalOf_omits {c c' : Call} (h : c.Omits key place c') : intervalOf c' = intervalOf c := by
  simp only [intervalOf, positive, h.intervalAt, h.function]

theorem forgives_summarize (hkey : (key, place) ∈ [("func", 2), ("alignToFrom", 3)]) :
    summarize.Forgives key place := by
  refine Mapping.forgives_simple rfl fun h w series => ?_
  simp only [List.mem_cons, Prod.mk.injEq, List.not_mem_nil, or_false] at hkey
  rcases hkey with ⟨rfl, rfl⟩ | ⟨rfl, rfl⟩
  all_goals simp [h.plainText, intervalOf_omits h, h.stringOr, h.boolOr]

theorem forgives_smartSummarize (hkey : (key, place) ∈ [("func", 2), ("alignTo", 3)]) :
    smartSummarize.Forgives key place := by
  simp only [List.mem_cons, Prod.mk.injEq, List.not_mem_nil, or_false] at hkey
  refine Mapping.forgives rfl (fun _ => rfl) (fun h => ?_) fun h => ?_
  · rcases hkey with ⟨rfl, rfl⟩ | ⟨rfl, rfl⟩
    all_goals simp [alignmentOf, h.string?]
  · rcases hkey with ⟨rfl, rfl⟩ | ⟨rfl, rfl⟩
    all_goals simp [h.plainText, intervalOf_omits h, h.stringOr, alignmentOf, h.string?]

theorem forgives_hitcount : hitcount.Forgives "alignToInterval" 2 := by
  refine Mapping.forgives rfl (fun _ => rfl) (fun h => ?_) fun h => ?_
  · simp [hitcountAligned, h.boolOr, h.intervalAt]
  · simp [h.plainText, intervalOf_omits h, hitcountAligned, h.boolOr]

namespace Forecast

/-- the parameters of the model are looked for at the places that the description gives them -/
theorem forgives_function (k : Kind) (hdelta : k.hasDelta = true → "delta" = key → 1 = place)
    (hbootstrap : "bootstrapInterval" = key → k.bootstrapIndex = place)
    (hseason : "seasonality" = key → k.bootstrapIndex + 1 = place) : (function k).Forgives key place := by
  have hstart : ∀ {c c' : Call}, c.Omits key place c' → bootstrapOf k c' = bootstrapOf k c := fun h => by
    simp only [bootstrapOf, h.intervalOr hbootstrap]
  refine Mapping.forgives rfl (fun h => ?_) (fun h => ?_) fun _ => rfl
  · simp only [Setting.ofCall, hstart h, seasonOf, h.intervalOr hseason]
    cases hk : k.hasDelta with
    | false => rfl
    | true => simp only [h.floatOr (hdelta hk)]
  · funext w
    simp only [hstart h]

end Forecast

/-! ## Moving windows -/

section Moving

variable (hkey : Reach.param ≠ key)
include hkey

theorem ofCall_omits {c c' : Call} (h : c.Omits key place c') : Reach.ofCall c' = Reach.ofCall c := by
  simp only [Reach.ofCall, positive, h.namedOrAt? hkey, h.intOr fun hk => absurd hk hkey, h.function]

theorem moveOver_omits {c c' : Call} (h : c.Omits key place c') (name : String) (reach : Reach) (r : Reducer)
    (factor : Option Float) : moveOver name c' reach r factor = moveOver name c reach r factor := by
  funext s
  simp only [moveOver, windowTag, h.literalText hkey, h.plainText hkey]

omit hkey in
theorem reachedSeries_besides {c c' : Call} {ops ops' : Operands} (h : c.Omits key place c')
    (hops : ops.Besides key ops') (r : Reach) (w : Window) : reachedSeries ops' c' r w = reachedSeries ops c r w := by
  cases r with
  | seconds span => simp only [reachedSeries, seriesAt_besides h hops]
  | points n => simp only [reachedSeries, seriesAt_besides h hops, h.args, hops.fetch]

theorem forgives_movingFixed (name : String) (r : Reducer) (hfactor : "xFilesFactor" = key → 2 = place) :
    (movingFixed name r).Forgives key place := by
  refine ⟨fun h => ?_, fun h hops => ?_⟩
  · funext w
    simp only [movingFixed, ofCall_omits hkey h]
  · funext w
    simp only [movingFixed, ofCall_omits hkey h, h.float? hfactor, reachedSeries_besides h hops, moveOver_omits hkey h]

theorem forgives_movingWindow (hfunc : "func" = key → 2 = place) (hfactor : "xFilesFactor" = key → 3 = place) :
    movingWindow.Forgives key place := by
  refine ⟨fun h => ?_, fun h hops => ?_⟩
  · funext w
    simp only [movingWindow, ofCall_omits hkey h]
  · funext w
    simp only [movingWindow, ofCall_omits hkey h, h.stringOr hfunc, h.float? hfactor, reachedSeries_besides h hops,
      moveOver_omits hkey h]

end Moving

/-! ## Gaps -/

theorem forgives_transformNull : transformNull.Forgives "default" 1 := by
  refine ⟨fun _ => rfl, fun h hops => ?_⟩
  funext w
  have hreference : "referenceSeries" ≠ "default" := by decide
  simp only [transformNull, referenceOf, seriesAt_besides h hops, seriesOf, h.floatOr fun _ => rfl,
    h.named _ hreference, hops.named _ hreference, h.arg?, h.function]

end Builtin

/-! ## Optional parameters -/

/-- the parameters that may be left out, with their places -/
def Description.optional (d : Description) : List (String × Nat) :=
  (d.params.zipIdx.filter fun q => !q.1.required && !q.1.variadic).map fun q => (q.1.name, q.2)

def Function.optional (f : Function) : List (String × Nat) :=
  f.descriptions.flatMap Description.optional

theorem Function.mem_optional {f : Function} {d : Description} (hd : d ∈ f.descriptions) {i : Nat} {param : Param}
    (hparam : d.params[i]? = some param) (hoptional : param.required = false) (hsingle : param.variadic = false) :
    (param.name, i) ∈ f.optional := by
  refine List.mem_flatMap.2 ⟨d, hd, List.mem_map.2 ⟨(param, i), List.mem_filter.2 ⟨?_, ?_⟩, rfl⟩⟩
  · exact List.mk_mem_zipIdx_iff_getElem?.2 hparam
  · simp [hoptional, hsingle]

namespace Builtin

/-- the optional parameter that is taken for a series by its name -/
def reference : String × Nat := ("referenceSeries", 2)

/-- a function that takes `None` for an optional parameter left out, but for a reference -/
def ForgivesNone (f : Function) : Prop :=
  ∀ q ∈ f.optional, q ≠ reference → f.Forgives q.1 q.2

theorem forgivesNone_of_nil {f : Function} (h : f.optional = []) : ForgivesNone f := by
  intro q hq
  rw [h] at hq
  cases hq

theorem forgivesNone_singleton {f : Function} {key : String} {place : Nat} (h : f.optional = [(key, place)])
    (hf : f.Forgives key place) : ForgivesNone f := by
  intro q hq _
  rw [h] at hq
  rw [List.mem_singleton.1 hq]
  exact hf

theorem forgivesNone_pair {f : Function} {p p' : String × Nat} (h : f.optional = [p, p']) (hf : f.Forgives p.1 p.2)
    (hf' : p' ≠ reference → f.Forgives p'.1 p'.2) : ForgivesNone f := by
  intro q hq hne
  rw [h] at hq
  rcases List.mem_pair.1 hq with rfl | rfl
  · exact hf
  · exact hf' hne

theorem forgivesNone_combining : ∀ f ∈ combining, ForgivesNone f := by
  intro f hf
  simp only [combining, List.mem_append, List.mem_cons, List.not_mem_nil, or_false] at hf
  rcases hf with (rfl | hf) | rfl | rfl | rfl | rfl | rfl
  · exact forgivesNone_singleton rfl forgives_aggregate
  · obtain ⟨base, _, hb⟩ := List.mem_filterMap.1 hf
    obtain ⟨r, _, rfl⟩ := Option.map_eq_some_iff.1 hb
    exact forgivesNone_of_nil rfl
  · exact forgivesNone_of_nil rfl
  · exact forgivesNone_singleton rfl forgives_groupByNode
  · exact forgivesNone_of_nil rfl
  · exact forgivesNone_singleton rfl forgives_percentileOfSeries
  · exact forgivesNone_of_nil rfl

theorem forgivesNone_aliasing : ∀ f ∈ aliasing, ForgivesNone f := by
  intro f hf
  simp only [aliasing, List.mem_cons, List.not_mem_nil, or_false] at hf
  rcases hf with rfl | rfl | rfl | rfl
  all_goals exact forgivesNone_of_nil rfl

theorem forgivesNone_filtering : ∀ f ∈ filtering, ForgivesNone f := by
  intro f hf
  simp only [filtering, List.mem_cons, List.not_mem_nil, or_false] at hf
  rcases hf with rfl | rfl | rfl
  all_goals exact forgivesNone_of_nil rfl

theorem forgivesNone_forecasting : ∀ f ∈ forecasting, ForgivesNone f := by
  intro f hf
  simp only [forecasting, List.mem_cons, List.not_mem_nil, or_false] at hf
  rcases hf with rfl | rfl | rfl
  · exact forgivesNone_pair rfl (Forecast.forgives_function _ (by decide) (by decide) (by decide)) fun _ =>
      Forecast.forgives_function _ (by decide) (by decide) (by decide)
  all_goals
    intro q hq _
    change q ∈ [("delta", 1), ("bootstrapInterval", 2), ("seasonality", 3)] at hq
    simp only [List.mem_cons, List.not_mem_nil, or_false] at hq
    rcases hq with rfl | rfl | rfl
    all_goals exact Forecast.forgives_function _ (by decide) (by decide) (by decide)

theorem forgivesNone_moving : ∀ f ∈ moving, ForgivesNone f := by
  intro f hf
  simp only [moving, List.mem_cons, List.not_mem_nil, or_false] at hf
  rcases hf with rfl | rfl | rfl | rfl | rfl | rfl | rfl
  case inl =>
    exact forgivesNone_pair rfl (forgives_movingWindow (by decide) (by decide) (by decide)) fun _ =>
      forgives_movingWindow (by decide) (by decide) (by decide)
  case inr.inr.inr.inr.inr.inr => exact forgivesNone_of_nil rfl
  all_goals exact forgivesNone_singleton rfl (forgives_movingFixed (by decide) _ _ (by decide))

theorem forgivesNone_shifting : ∀ f ∈ shifting, ForgivesNone f := by
  intro f hf
  simp only [shifting, List.mem_cons, List.not_mem_nil, or_false] at hf
  rcases hf with rfl | rfl
  · exact forgivesNone_singleton rfl forgives_timeShift
  · exact forgivesNone_of_nil rfl

theorem forgivesNone_rebucketing : ∀ f ∈ rebucketing, ForgivesNone f := by
  intro f hf
  simp only [rebucketing, List.mem_cons, List.not_mem_nil, or_false] at hf
  rcases hf with rfl | rfl | rfl
  · exact forgivesNone_pair rfl (forgives_summarize (by decide)) fun _ => forgives_summarize (by decide)
  · exact forgivesNone_pair rfl (forgives_smartSummarize (by decide)) fun _ => forgives_smartSummarize (by decide)
  · exact forgivesNone_singleton rfl forgives_hitcount

theorem forgivesNone_transforming : ∀ f ∈ transforming, ForgivesNone f := by
  intro f hf
  simp only [transforming, List.mem_cons, List.not_mem_nil, or_false] at hf
  rcases hf with rfl | rfl | rfl | rfl | rfl | rfl | rfl | rfl | rfl | rfl
  case inr.inr.inr.inr.inl =>
    exact forgivesNone_pair rfl (forgives_nonNegativeDerivative (by decide)) fun _ =>
      forgives_nonNegativeDerivative (by decide)
  case inr.inr.inr.inr.inr.inr.inr.inl => exact forgivesNone_singleton rfl forgives_keepLastValue
  case inr.inr.inr.inr.inr.inr.inr.inr.inl =>
    exact forgivesNone_pair rfl forgives_transformNull fun hne => absurd rfl hne
  all_goals exact forgivesNone_of_nil rfl

/-- **Every builtin function takes `None` for an optional parameter left out**, but for the reference of one. -/
theorem all_forgiveNone : ∀ f ∈ all, ForgivesNone f :=
  forall_all forgivesNone_combining forgivesNone_aliasing forgivesNone_filtering forgivesNone_forecasting
    forgivesNone_moving forgivesNone_shifting forgivesNone_rebucketing forgivesNone_transforming

/-! ## Descriptions -/

/-- no description gives two parameters one name -/
theorem nodup_params : ∀ f ∈ all, ∀ d ∈ f.descriptions, (d.params.map Param.name).Nodup := by decide +kernel

/-- only `transformNull` has a reference -/
theorem eq_reference_iff : ∀ f ∈ all, ∀ d ∈ f.descriptions, ∀ q ∈ f.optional,
    q = reference ↔ d.name = "transformNull" ∧ q.1 = "referenceSeries" := by decide +kernel

/-- validation looks at required parameters alone -/
theorem validate_omits {f : Function} (hf : f ∈ all) {d : Description} (hd : d ∈ f.descriptions) {i : Nat}
    {param : Param} (hparam : d.params[i]? = some param) (hoptional : param.required = false) {c c' : Call}
    (h : c.Omits param.name i c') : d.validate c' = d.validate c := by
  refine Description.validate_congr h.function (congrArg _ h.args) fun j other hother hrequired => ?_
  have hne : other.name ≠ param.name := by
    intro heq
    have hplaces : (d.params.map Param.name)[j]? = (d.params.map Param.name)[i]? := by
      rw [List.getElem?_map, List.getElem?_map, hother, hparam, Option.map_some, Option.map_some, heq]
    have hlt : j < (d.params.map Param.name).length := by
      rw [List.length_map]
      exact (List.getElem?_eq_some_iff.1 hother).1
    cases (List.getElem?_inj hlt (nodup_params f hf d hd)).1 hplaces
    cases hother.symm.trans hparam
    rw [hoptional] at hrequired
    cases hrequired
  rw [Call.hasArg, h.namedOrAt? hne, Call.hasArg]

end Builtin

end MetricQuery
