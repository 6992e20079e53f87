/-
Arguments that a function finds missing.

Validation takes a required parameter by name or by place, but not every function reads it both ways: series, and the
texts of `Builtin.textsByPlace`, are read by place only. So a call that passes can still be refused for an argument that
it gives. `evaluate_missingArgument` says of every builtin function when: what it reports missing is such a parameter
given by name, unless one of its operands reports it; and without such a parameter at its place it never succeeds.

The first half is a discipline (`Discipline.failing`), so all builtin functions follow it as they keep their windows.
The second half goes by what a function evaluates or reads before it can succeed (`Function.NeedsPlaces`).
-/
import MetricQuery.Proofs.Call.Validation
import MetricQuery.Proofs.Engine.Calls
import MetricQuery.Proofs.Builtin.Rebucketing

namespace MetricQuery

open Target (Expr Call)
open Time (Window)

/-! ## Failures -/

/-- to fail only with certain errors -/
def Discipline.failing (E : EvalError → Prop) : Discipline where
  Allows := E
  Holds x := ∀ p, FailsOnly (x.runFrom p).1 E
  lift h _ := h
  bind := by
    intro α β x f hx hf p
    have hfirst := hx p
    cases hr : x.runFrom p with
    | mk r q =>
      rw [hr] at hfirst
      cases r with
      | error e =>
        rw [Eval.runFrom_bind_error hr]
        exact (FailsOnly.error_iff e).2 ((FailsOnly.error_iff e).1 hfirst)
      | ok a =>
        rw [Eval.runFrom_bind_ok hr]
        exact hf a q

/-- an operand of a call fails with an error: an argument over some window, or what is fetched again -/
def Operands.FailWith (ops : Operands) (e : EvalError) : Prop :=
  (∃ arg ∈ ops.args, ∃ w p, ((arg w).runFrom p).1 = .error e) ∨
    (∃ arg ∈ ops.named, ∃ w p, ((arg.2 w).runFrom p).1 = .error e) ∨
      ∃ x w p, ((ops.fetch x w).runFrom p).1 = .error e

/-- **A builtin function fails with what its operands fail with, or refuses its call.** -/
theorem Builtin.evaluate_failsOnly {f : Function} (hf : f ∈ all) {ops : Operands} {c : Call}
    (hlen : ops.args.length = c.args.length) (w : Window) (p : Progress) :
    FailsOnly ((f.evaluate ops c w).runFrom p).1 fun e => ops.FailWith e ∨ e.IsRefusal c f.places := by
  have hargs : ∀ arg ∈ ops.args, ∀ w p, FailsOnly ((arg w).runFrom p).1 ops.FailWith :=
    fun arg harg w p e he => Or.inl ⟨arg, harg, w, p, he⟩
  have hnamed : ∀ arg ∈ ops.named, ∀ w p, FailsOnly ((arg.2 w).runFrom p).1 ops.FailWith :=
    fun arg harg w p e he => Or.inr (Or.inl ⟨arg, harg, w, p, he⟩)
  have hfetch : ∀ x w p, FailsOnly ((ops.fetch x w).runFrom p).1 ops.FailWith :=
    fun x w p e he => Or.inr (Or.inr ⟨x, w, p, he⟩)
  let D := Discipline.failing fun e => ops.FailWith e ∨ e.IsRefusal c f.places
  have hops : ∀ inner, ops.HoldAt D inner := fun inner =>
    ⟨fun arg harg p => (hargs arg harg inner p).imp fun _ => Or.inl,
      fun arg harg p => (hnamed arg harg inner p).imp fun _ => Or.inl⟩
  refine (all_keepWindow f hf).evaluate (D := D) (fun e he => Or.inr he) hlen (fun inner _ => hops inner) ?_ p
  intro _ x arg _ harg inner
  have hx : D.Holds (ops.fetch x inner) := fun p => (hfetch x inner p).imp fun _ => Or.inl
  exact D.bind hx fun _ => (hops inner).args arg (List.mem_of_mem_head? harg)

/-! ## Places that are needed -/

/-- a function that succeeds only for a call with arguments at all places it reads as such -/
def Function.NeedsPlaces (f : Function) : Prop :=
  ∀ ops c w p outs, ((f.evaluate ops c w).runFrom p).1 = .ok outs → ∀ i ∈ f.places, i < c.args.length

namespace Builtin

theorem lt_of_at? {c : Call} {i : Nat} {e : Expr} (h : c.at? i = .ok e) : i < c.args.length := by
  unfold Call.at? at h
  split at h
  · rename_i he
    exact (List.getElem?_eq_some_iff.1 he).1
  · cases h

theorem lt_of_stringAt {c : Call} {i : Nat} {text : String} (h : c.stringAt i = .ok text) : i < c.args.length := by
  obtain ⟨e, he, -⟩ := bind_eq_ok.1 h
  exact lt_of_at? he

theorem lt_of_intervalOf {c : Call} {seconds : Int} (h : intervalOf c = .ok seconds) : 1 < c.args.length := by
  obtain ⟨interval, hinterval, -⟩ := bind_eq_ok.1 h
  obtain ⟨e, he, -⟩ := bind_eq_ok.1 hinterval
  exact lt_of_at? he

theorem lt_of_seriesAt {ops : Operands} {c : Call} {i : Nat} {w : Window} {p : Progress} {series : List Series}
    (h : ((seriesAt ops c i w).runFrom p).1 = .ok series) : i < c.args.length := by
  by_contra hlt
  rw [seriesAt, List.getElem?_eq_none (not_lt.1 hlt)] at h
  cases h

/-- the functions that read at most their series by place -/
def placedFirst : List Function :=
  [aggregate, groupByNode, percentileOfSeries, timeShift] ++ aliasing ++ filtering ++ forecasting ++ moving ++
    transforming

theorem eq_zero_of_placedFirst : ∀ f ∈ placedFirst, ∀ i ∈ f.places, i = 0 := by decide +kernel

/-- no more than two arguments are read by place -/
theorem places_le_one : ∀ f ∈ all, ∀ i ∈ f.places, i ≤ 1 := by decide +kernel

section Mapping

variable {f : Function} {m : Mapping} {descriptions : List Description} (hf : f = m.toFunction descriptions)
include hf

/-- a mapping evaluates its series, and finishes only with what it reads by place -/
theorem Mapping.needsPlaces (hplaces : ∀ i ∈ f.places, i = 0 ∨
    ∀ c early w series outs, m.finish c early w series = .ok outs → i < c.args.length) : f.NeedsPlaces := by
  intro ops c w p outs h i hi
  rw [hf] at h
  obtain ⟨early, -, h⟩ := Eval.runFrom_lift_bind_eq_ok h
  obtain ⟨inner, -, h⟩ := Eval.runFrom_lift_bind_eq_ok h
  obtain ⟨series, q, hseries, hfinish⟩ := Eval.runFrom_bind_eq_ok h
  rcases hplaces i hi with rfl | hread
  · exact lt_of_seriesAt (congrArg Prod.fst hseries)
  · exact hread c early w series outs hfinish

theorem Mapping.needsPlaces_first (hfirst : f ∈ placedFirst) : f.NeedsPlaces :=
  Mapping.needsPlaces hf fun i hi => Or.inl (eq_zero_of_placedFirst f hfirst i hi)

theorem Mapping.needsPlaces_second (hall : f ∈ all)
    (hfinish : ∀ c early w series outs, m.finish c early w series = .ok outs → 1 < c.args.length) :
    f.NeedsPlaces :=
  Mapping.needsPlaces hf fun i hi => Or.inr fun c early w series outs h =>
    (places_le_one f hall i hi).trans_lt (hfinish c early w series outs h)

end Mapping

theorem needsPlaces_summarizer (base : String) (r : Reducer) : (summarizer base r).NeedsPlaces := by
  intro ops c w p outs _ i hi
  simp [Function.places, Description.places, summarizer, Description.under, Param.readByPlace] at hi

theorem needsPlaces_divideSeries : divideSeries.NeedsPlaces := by
  intro ops c w p outs h i hi
  obtain ⟨dividends, q, -, h⟩ := Eval.runFrom_bind_eq_ok h
  obtain ⟨divisor, q', hdivisor, -⟩ := Eval.runFrom_bind_eq_ok h
  obtain ⟨series, q'', hseries, -⟩ := Eval.runFrom_bind_eq_ok (congrArg Prod.fst hdivisor)
  have hsecond := lt_of_seriesAt (congrArg Prod.fst hseries)
  exact (places_le_one divideSeries (by simp [all, combining]) i hi).trans_lt hsecond

theorem needsPlaces_combining : ∀ f ∈ combining, f.NeedsPlaces := by
  intro f hf
  have hall : f ∈ all := by simp [all, hf]
  simp only [combining, List.mem_append, List.mem_cons, List.not_mem_nil, or_false] at hf
  rcases hf with (rfl | hf) | rfl | rfl | rfl | rfl | rfl
  · exact Mapping.needsPlaces_first rfl (by simp [placedFirst])
  · obtain ⟨base, _, hb⟩ := List.mem_filterMap.1 hf
    obtain ⟨r, _, rfl⟩ := Option.map_eq_some_iff.1 hb
    exact needsPlaces_summarizer base r
  · refine Mapping.needsPlaces_second rfl hall fun c _ w series outs h => ?_
    obtain ⟨name, hname, -⟩ := bind_eq_ok.1 h
    exact lt_of_stringAt hname
  · exact Mapping.needsPlaces_first rfl (by simp [placedFirst])
  · refine Mapping.needsPlaces_second rfl hall fun c _ w series outs h => ?_
    obtain ⟨name, hname, -⟩ := bind_eq_ok.1 h
    exact lt_of_stringAt hname
  · exact Mapping.needsPlaces_first rfl (by simp [placedFirst])
  · exact needsPlaces_divideSeries

theorem needsPlaces_aliasing : ∀ f ∈ aliasing, f.NeedsPlaces := by
  intro f hf
  have hfirst : f ∈ placedFirst := by simp [placedFirst, hf]
  simp only [aliasing, List.mem_cons, List.not_mem_nil, or_false] at hf
  rcases hf with rfl | rfl | rfl | rfl
  all_goals exact Mapping.needsPlaces_first rfl hfirst

theorem needsPlaces_filtering : ∀ f ∈ filtering, f.NeedsPlaces := by
  intro f hf
  have hfirst : f ∈ placedFirst := by simp [placedFirst, hf]
  simp only [filtering, List.mem_cons, List.not_mem_nil, or_false] at hf
  rcases hf with rfl | rfl | rfl
  all_goals exact Mapping.needsPlaces_first rfl hfirst

theorem needsPlaces_forecasting : ∀ f ∈ forecasting, f.NeedsPlaces := by
  intro f hf
  have hfirst : f ∈ placedFirst := by simp [placedFirst, hf]
  simp only [forecasting, List.mem_cons, List.not_mem_nil, or_false] at hf
  rcases hf with rfl | rfl | rfl
  all_goals exact Mapping.needsPlaces_first rfl hfirst

theorem needsPlaces_transformNull : transformNull.NeedsPlaces := by
  intro ops c w p outs h i hi
  obtain ⟨series, q, hseries, -⟩ := Eval.runFrom_bind_eq_ok h
  rw [eq_zero_of_placedFirst transformNull (by simp [placedFirst, transforming]) i hi]
  exact lt_of_seriesAt (congrArg Prod.fst hseries)

theorem needsPlaces_transforming : ∀ f ∈ transforming, f.NeedsPlaces := by
  intro f hf
  have hfirst : f ∈ placedFirst := by simp [placedFirst, hf]
  simp only [transforming, List.mem_cons, List.not_mem_nil, or_false] at hf
  rcases hf with rfl | rfl | rfl | rfl | rfl | rfl | rfl | rfl | rfl | rfl
  case inr.inr.inr.inr.inr.inr.inr.inr.inl => exact needsPlaces_transformNull
  all_goals exact Mapping.needsPlaces_first rfl hfirst

theorem needsPlaces_timeShiftByMetric : timeShiftByMetric.NeedsPlaces := by
  intro ops c w p outs h i hi
  obtain ⟨metrics, q, -, h⟩ := Eval.runFrom_bind_eq_ok h
  obtain ⟨marks, q', hmarks, -⟩ := Eval.runFrom_bind_eq_ok h
  have hsecond := lt_of_seriesAt (congrArg Prod.fst hmarks)
  exact (places_le_one timeShiftByMetric (by simp [all, shifting]) i hi).trans_lt hsecond

theorem needsPlaces_shifting : ∀ f ∈ shifting, f.NeedsPlaces := by
  intro f hf
  simp only [shifting, List.mem_cons, List.not_mem_nil, or_false] at hf
  rcases hf with rfl | rfl
  · exact Mapping.needsPlaces_first rfl (by simp [placedFirst])
  · exact needsPlaces_timeShiftByMetric

theorem needsPlaces_rebucketing : ∀ f ∈ rebucketing, f.NeedsPlaces := by
  intro f hf
  have hall : f ∈ all := by simp [all, hf]
  simp only [rebucketing, List.mem_cons, List.not_mem_nil, or_false] at hf
  rcases hf with rfl | rfl | rfl
  all_goals
    refine Mapping.needsPlaces_second rfl hall fun c _ w series outs h => ?_
    obtain ⟨interval, hinterval, -⟩ := bind_eq_ok.1 h
    exact lt_of_intervalOf hinterval

/-- whatever a moving window reaches for, its series are the first argument -/
theorem lt_of_reachedSeries {ops : Operands} {c : Call} {reach : Reach} {w : Window} {p : Progress}
    {series : List Series} (h : ((reachedSeries ops c reach w).runFrom p).1 = .ok series) : 0 < c.args.length := by
  unfold reachedSeries at h
  cases reach with
  | seconds span =>
    obtain ⟨inner, -, h⟩ := Eval.runFrom_lift_bind_eq_ok h
    exact lt_of_seriesAt h
  | points n =>
    obtain ⟨sampled, q, hsampled, -⟩ := Eval.runFrom_bind_eq_ok h
    exact lt_of_seriesAt (congrArg Prod.fst hsampled)

theorem needsPlaces_movingFixed {name : String} {r : Reducer} (hfirst : movingFixed name r ∈ placedFirst) :
    (movingFixed name r).NeedsPlaces := by
  intro ops c w p outs h i hi
  obtain ⟨reach, -, h⟩ := Eval.runFrom_lift_bind_eq_ok h
  obtain ⟨factor, -, h⟩ := Eval.runFrom_lift_bind_eq_ok h
  obtain ⟨series, q, hseries, -⟩ := Eval.runFrom_bind_eq_ok h
  rw [eq_zero_of_placedFirst _ hfirst i hi]
  exact lt_of_reachedSeries (congrArg Prod.fst hseries)

theorem needsPlaces_movingWindow (hfirst : movingWindow ∈ placedFirst) : movingWindow.NeedsPlaces := by
  intro ops c w p outs h i hi
  obtain ⟨reach, -, h⟩ := Eval.runFrom_lift_bind_eq_ok h
  obtain ⟨reducerName, -, h⟩ := Eval.runFrom_lift_bind_eq_ok h
  obtain ⟨r, -, h⟩ := Eval.runFrom_lift_bind_eq_ok h
  obtain ⟨factor, -, h⟩ := Eval.runFrom_lift_bind_eq_ok h
  obtain ⟨series, q, hseries, -⟩ := Eval.runFrom_bind_eq_ok h
  rw [eq_zero_of_placedFirst _ hfirst i hi]
  exact lt_of_reachedSeries (congrArg Prod.fst hseries)

theorem needsPlaces_exponentialMovingAverage (hfirst : exponentialMovingAverage ∈ placedFirst) :
    exponentialMovingAverage.NeedsPlaces := by
  intro ops c w p outs h i hi
  obtain ⟨reach, -, h⟩ := Eval.runFrom_lift_bind_eq_ok h
  obtain ⟨series, q, hseries, -⟩ := Eval.runFrom_bind_eq_ok h
  rw [eq_zero_of_placedFirst _ hfirst i hi]
  exact lt_of_reachedSeries (congrArg Prod.fst hseries)

theorem needsPlaces_moving : ∀ f ∈ moving, f.NeedsPlaces := by
  intro f hf
  have hfirst : f ∈ placedFirst := by simp [placedFirst, hf]
  simp only [moving, List.mem_cons, List.not_mem_nil, or_false] at hf
  rcases hf with rfl | rfl | rfl | rfl | rfl | rfl | rfl
  case inl => exact needsPlaces_movingWindow hfirst
  case inr.inr.inr.inr.inr.inr => exact needsPlaces_exponentialMovingAverage hfirst
  all_goals exact needsPlaces_movingFixed hfirst

/-- **No builtin function succeeds without what it reads by place.** -/
theorem all_needPlaces : ∀ f ∈ all, f.NeedsPlaces :=
  forall_all needsPlaces_combining needsPlaces_aliasing needsPlaces_filtering needsPlaces_forecasting
    needsPlaces_moving needsPlaces_shifting needsPlaces_rebucketing needsPlaces_transforming

end Builtin

/-! ## Calls that pass -/

/-- a parameter at its place in a description, which the function reads by place only -/
def Description.ReadsByPlace (d : Description) (i : Nat) (param : Param) : Prop :=
  d.params[i]? = some param ∧ param.readByPlace d.name = true

theorem Description.mem_places {d : Description} {i : Nat} : i ∈ d.places ↔ ∃ param, d.ReadsByPlace i param := by
  simp only [places, List.mem_map, List.mem_filter, List.mem_zipIdx_iff_getElem?, ReadsByPlace]
  constructor
  · rintro ⟨q, hq, rfl⟩
    exact ⟨q.1, hq⟩
  · rintro ⟨param, hparam⟩
    exact ⟨(param, i), hparam, rfl⟩

/-- under each of its names a function reads the same places -/
theorem Builtin.mem_places_iff {f : Function} (hf : f ∈ all) {d : Description} (hd : d ∈ f.descriptions) {i : Nat} :
    i ∈ f.places ↔ ∃ param, d.ReadsByPlace i param := by
  have hall : ∀ f ∈ all, ∀ d ∈ f.descriptions, ∀ i ∈ f.places, i ∈ d.places := by decide +kernel
  rw [← Description.mem_places]
  exact ⟨hall f hf d hd i, fun hi => List.mem_flatMap.2 ⟨d, hd, hi⟩⟩

/-- a parameter read by place that a call passes without at its place is given by name -/
theorem Description.ReadsByPlace.named {d : Description} {c : Call} {i : Nat} {param : Param}
    (h : d.ReadsByPlace i param) (hvalid : d.validate c = .ok ()) (hplace : c.args.length ≤ i) :
    ∃ e, c.named? param.name = some e := by
  obtain ⟨hparam, hread⟩ := h
  have hrequired : param.required = true := by
    rw [Param.readByPlace, Bool.and_eq_true, Bool.and_eq_true] at hread
    exact hread.1.1
  have hgiven := hasArg_of_validate hvalid hparam hrequired
  rw [Call.hasArg, Call.namedOrAt?, Call.arg?, List.getElem?_eq_none hplace] at hgiven
  rw [← Option.isSome_iff_exists]
  simpa using hgiven

/-- **What is read by place is missing where it is given by name.** For every builtin function and every call that
passes validation: an argument that its evaluation reports missing, unless an operand reports it, is a parameter that is
read by place only and that the call gives by name. Conversely, no call that gives such a parameter by name alone
succeeds. -/
theorem evaluate_missingArgument {c : Call} {entry : Entry} (hentry : Registry.builtins.get? c.function = some entry)
    (hvalid : entry.description.validate c = .ok ()) {ops : Operands} (hlen : ops.args.length = c.args.length)
    (w : Window) (p : Progress) :
    (∀ target name, ((entry.function.evaluate ops c w).runFrom p).1 = .error (.missingArgument target name) →
      ops.FailWith (.missingArgument target name) ∨
        target = c.function ∧ ∃ i param, entry.description.ReadsByPlace i param ∧ c.args.length ≤ i ∧
          (∃ e, c.named? param.name = some e) ∧ name = Arguments.placeName i) ∧
      ∀ i param, entry.description.ReadsByPlace i param → c.args.length ≤ i →
        ∀ outs, ((entry.function.evaluate ops c w).runFrom p).1 ≠ .ok outs := by
  obtain ⟨hall, hdesc, -⟩ := Registry.builtins_get? hentry
  refine ⟨fun target name h => ?_, fun i param hparam hplace outs h => ?_⟩
  · refine (Builtin.evaluate_failsOnly hall hlen w p _ h).imp_right ?_
    rintro ⟨htarget, i, hi, hplace, hname⟩
    obtain ⟨param, hparam⟩ := (Builtin.mem_places_iff hall hdesc).1 hi
    exact ⟨htarget, i, param, hparam, hplace, hparam.named hvalid hplace, hname⟩
  · have hi : i ∈ entry.function.places := (Builtin.mem_places_iff hall hdesc).2 ⟨param, hparam⟩
    have hlt := Builtin.all_needPlaces _ hall ops c w p outs h i hi
    omega

/-! ## A summary with its interval by name -/

/-- a summary with its interval by name -/
def namedSummary : Call :=
  ⟨"summarize", [.name "m"], [("intervalString", .string "1h" .single)], "m,intervalString='1h'"⟩

theorem namedSummary_passes : ∃ d ∈ Builtin.summarize.descriptions,
    Registry.builtins.get? "summarize" = some ⟨Builtin.summarize, d⟩ ∧ d.validate namedSummary = .ok () := by
  have hentry : ∃ d ∈ Builtin.summarize.descriptions,
      Registry.builtins.get? "summarize" = some ⟨Builtin.summarize, d⟩ := by
    apply Registry.exists_get?_builtins
    · simp [Builtin.all, Builtin.rebucketing]
    · simp [Builtin.summarize, Builtin.Mapping.toFunction]
    · simp [Builtin.summarize, Builtin.Mapping.toFunction]
  obtain ⟨d, hd, hentry⟩ := hentry
  refine ⟨d, hd, hentry, ?_⟩
  cases List.mem_singleton.1 hd
  rfl

/-- its series are evaluated, and then its interval is missing -/
theorem runFrom_namedSummary {ops : Operands} {w : Window} {p q : Progress} {series : List Series}
    (hseries : (Builtin.seriesAt ops namedSummary 0 w).runFrom p = (.ok series, q)) :
    (Builtin.summarize.evaluate ops namedSummary w).runFrom p = (.error (.missingArgument "summarize" "#2"), q) := by
  rw [Builtin.summarize, Builtin.Mapping.runFrom_evaluate _ _ rfl rfl hseries]
  rfl

/-- one operand that comes to some series over every window -/
def Operands.always (series : List Series) : Operands :=
  ⟨[fun _ => pure series], [], fun _ _ => pure ()⟩

theorem Operands.not_failWith_always (series : List Series) (e : EvalError) : ¬(Operands.always series).FailWith e := by
  rintro (⟨arg, harg, w, p, h⟩ | ⟨arg, harg, -⟩ | ⟨x, w, p, h⟩)
  · rw [List.mem_singleton.1 harg] at h
    cases h
  · cases harg
  · cases h

/-- what is missing is a parameter that is given by name, and whatever its series are it never succeeds -/
theorem evaluate_missingArgument_summary : ∃ entry, Registry.builtins.get? "summarize" = some entry ∧
    entry.description.validate namedSummary = .ok () ∧
    ∃ i param, entry.description.ReadsByPlace i param ∧ (∃ e, namedSummary.named? param.name = some e) ∧
      ∀ series w p outs, ((entry.function.evaluate (.always series) namedSummary w).runFrom p).1 ≠ .ok outs := by
  obtain ⟨d, -, hentry, hvalid⟩ := namedSummary_passes
  have hlen (series : List Series) : (Operands.always series).args.length = namedSummary.args.length := rfl
  have hrun := congrArg Prod.fst (runFrom_namedSummary (p := {}) (w := ⟨0, 3600⟩)
    (show (Builtin.seriesAt (.always []) namedSummary 0 ⟨0, 3600⟩).runFrom {} = (.ok [], {}) from rfl))
  obtain ⟨hreports, -⟩ := evaluate_missingArgument (c := namedSummary) hentry hvalid (hlen []) ⟨0, 3600⟩ {}
  obtain ⟨-, i, param, hparam, hplace, hnamed, -⟩ :=
    (hreports "summarize" "#2" hrun).resolve_left (Operands.not_failWith_always [] _)
  refine ⟨_, hentry, hvalid, i, param, hparam, hnamed, fun series w p => ?_⟩
  exact (evaluate_missingArgument (c := namedSummary) hentry hvalid (hlen series) w p).2 i param hparam hplace

/-- a target that passes, and over every store and window is refused for an argument that it gives -/
theorem execute_namedSummary : Target.parse "summarize(m,intervalString='1h')" = .ok namedSummary.toExpr ∧
    ∃ entry, Registry.builtins.get? namedSummary.function = some entry ∧
      entry.description.validate namedSummary = .ok () ∧
      ∀ (store : Store) (w : Window), (((store.engine false).execute "summarize(m,intervalString='1h')" w).runFrom {}).1 =
        .error (.missingArgument namedSummary.function "#2") := by
  have hparse : Target.parse "summarize(m,intervalString='1h')" = .ok namedSummary.toExpr := by
    show _ = Except.ok (Expr.call "summarize" [.name "m"] [("intervalString", .string "1h" .single)]
      "m,intervalString='1h'")
    cbv
  obtain ⟨d, -, hentry, hvalid⟩ := namedSummary_passes
  refine ⟨hparse, _, hentry, hvalid, fun store w => ?_⟩
  have hargs : ∀ e ∈ namedSummary.args, e.Plain := by
    intro e he
    rw [List.mem_singleton.1 he]
    exact ⟨_, Glob.compile_m⟩
  have hnamed : ∀ q ∈ namedSummary.named, q.2.Plain := by
    intro q hq
    rw [List.mem_singleton.1 hq]
    trivial
  obtain ⟨q, hq, hrun⟩ := @Engine.execute_call store _ _ hparse _ hentry w w rfl hvalid hargs hnamed {}
  rw [hrun, runFrom_namedSummary (Engine.seriesAt_ready hq rfl Glob.compile_m)]
  rfl

end MetricQuery
