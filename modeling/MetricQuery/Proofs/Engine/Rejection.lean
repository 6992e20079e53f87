/-
Calls that do not pass validation.

A call is validated when it is evaluated, and by then its requests have been gathered and fetched: the function was
asked for the window of its arguments, which it reads off the call without knowing whether the call passes. So the error
of validation is the one that shows, but for a function that cannot tell its window, and for a fault in fetching
(`execute_rejected`). Only few functions have a window of their own at all (`Builtin.widening`). The functions of a
moving window are among them, and one that is not given its window fails for that and not for the missing argument.
-/
import MetricQuery.Proofs.Engine.Calls

namespace MetricQuery

open Target (Expr Call)
open Time (Window)

/-! ## Announced windows -/

namespace Builtin

/-- the functions that fetch their arguments over another window than they are given -/
def widening : List Function :=
  forecasting ++ moving ++ [timeShift, smartSummarize, hitcount]

def wideningNames : List String :=
  widening.flatMap fun f => f.descriptions.map Description.name

example : wideningNames = ["holtWintersForecast", "holtWintersConfidenceBands", "holtWintersAberration", "movingWindow",
    "movingAverage", "movingSum", "movingMin", "movingMax", "movingMedian", "exponentialMovingAverage", "timeShift",
    "smartSummarize", "hitcount"] := rfl

theorem widening_or_window_eq : ∀ f ∈ all, f ∈ widening ∨ f.window = fun _ w => .ok w := by
  refine forall_all ?_ ?_ ?_ ?_ ?_ ?_ ?_ ?_
  all_goals intro f hf
  · right
    simp only [combining, List.mem_append, List.mem_cons, List.not_mem_nil, or_false] at hf
    rcases hf with (rfl | hf) | rfl | rfl | rfl | rfl | rfl
    case inl.inr =>
      obtain ⟨base, _, hb⟩ := List.mem_filterMap.1 hf
      obtain ⟨r, _, rfl⟩ := Option.map_eq_some_iff.1 hb
      rfl
    all_goals rfl
  · right
    simp only [aliasing, List.mem_cons, List.not_mem_nil, or_false] at hf
    rcases hf with rfl | rfl | rfl | rfl <;> rfl
  · right
    simp only [filtering, List.mem_cons, List.not_mem_nil, or_false] at hf
    rcases hf with rfl | rfl | rfl <;> rfl
  · left
    simp [widening, hf]
  · left
    simp [widening, hf]
  · simp only [shifting, List.mem_cons, List.not_mem_nil, or_false] at hf
    rcases hf with rfl | rfl
    · left
      simp [widening]
    · right
      rfl
  · simp only [rebucketing, List.mem_cons, List.not_mem_nil, or_false] at hf
    rcases hf with rfl | rfl | rfl
    · right
      rfl
    · left
      simp [widening]
    · left
      simp [widening]
  · right
    simp only [transforming, List.mem_cons, List.not_mem_nil, or_false] at hf
    rcases hf with rfl | rfl | rfl | rfl | rfl | rfl | rfl | rfl | rfl | rfl <;> rfl

theorem window_of_absent : ∀ f ∈ moving, ∀ c w, c.namedOrAt? Reach.param 1 = none →
    f.window c w = .error (.invalidArgument c.function (.windowNotPositive 0)) := by
  intro f hf c w habsent
  have hwindow : f.window c w = (Reach.ofCall c >>= fun reach => reach.widen w) := by
    simp only [moving, List.mem_cons, List.not_mem_nil, or_false] at hf
    rcases hf with rfl | rfl | rfl | rfl | rfl | rfl | rfl <;> rfl
  rw [hwindow, Reach.ofCall_of_absent habsent]
  rfl

end Builtin

namespace Engine

/-! ## Phases -/

/-- a call whose function cannot tell the window of its arguments fails for that -/
theorem execute_window_error {g : Engine} {target : String} {c : Call} (hparse : Target.parse target = .ok c.toExpr)
    {entry : Entry} (hentry : g.registry.get? c.function = some entry) {w : Window} {e : EvalError}
    (hwindow : entry.function.window c w = .error e) (p : Progress) :
    ((g.execute target w).runFrom p).1 = .error e := by
  have hgather : gather g.registry c.toExpr w = .error e := by
    rw [Call.toExpr, gather]
    exact bind_eq_error.2 (Or.inr ⟨entry, Registry.resolve_eq_ok.2 hentry, bind_eq_error.2 (Or.inl hwindow)⟩)
  rw [execute_run_ok hparse, executeExpr_run,
    Eval.runFrom_bind_error (fetch_lacking_error (lacking_error (requests_single_error hgather) []))]

/-- a call that resolves but does not pass fails for that -/
theorem eval_call_rejected {g : Engine} (hc : g.cancelled = false) {c : Call} {entry : Entry}
    (hentry : g.registry.get? c.function = some entry) {e : EvalError}
    (hreject : entry.description.validate c = .error e) (w : Window) (p : Progress) :
    (g.eval c.toExpr w).runFrom p = (.error e, p) := by
  rw [Call.toExpr, eval]
  show (g.apply c (evalAll g c.args) (evalNamed g c.named) w).runFrom p = _
  unfold apply
  rw [hc, Registry.resolve_eq_ok.2 hentry]
  show (do
    entry.description.validate c
    entry.function.evaluate ⟨evalAll g c.args, evalNamed g c.named, fun e inner => g.fetch [e] inner⟩ c w
    : Eval _).runFrom p = _
  rw [hreject]
  rfl

section OverStore

variable {g : Engine} {store : Store} (hg : g.source = store.source)

/-- the first bad request of an expression is what its fetch fails with -/
theorem fetched_fault (hc : g.cancelled = false) {e : Expr} {w : Window} {requests : List Request}
    (hgather : gather g.registry e w = .ok requests) {fault : SourceFault}
    (hfault : requests.findSome? store.fault? = some fault) : g.fetched store [e] w = .error (.fetch fault) := by
  have hne : requests.eraseDups ≠ [] := by
    intro hnil
    rw [← store.findSome?_eraseDups, hnil] at hfault
    cases hfault
  rw [fetched, requests_single hgather]
  simp [hc, hne, store.findSome?_eraseDups, hfault]

include hg

/-- an expression whose fetch fails fails with that -/
theorem executeExpr_unfetched {e : Expr} {w : Window} {err : EvalError} (h : g.fetched store [e] w = .error err)
    (p : Progress) : ((g.executeExpr e w).runFrom p).1 = .error err := by
  have hrun := fetch_result hg (kept_nil g store p.asked) [e] w
  rw [h] at hrun
  rw [executeExpr_run, Eval.runFrom_bind_error (Prod.ext hrun rfl)]

end OverStore

/-- what the arguments of a call ask for over a window can be gathered -/
def Collected (c : Call) (w : Window) : Prop :=
  ∀ e, e ∈ c.args ∨ e ∈ c.named.map Prod.snd → ∃ requests, gather Registry.builtins e w = .ok requests

/-- **The error of validation is the one that shows, but for those of the phases before it.** A call that does not pass,
with arguments that can be gathered, fails with the error of its function about their window if there is one, then with
the first fault in fetching them, and else with the error of validation. Every function can tell the window but those
with one of their own; and a moving window that is not given is always reported as one of no points. -/
theorem execute_rejected {store : Store} {target : String} {c : Call} (hparse : Target.parse target = .ok c.toExpr)
    {entry : Entry} (hentry : Registry.builtins.get? c.function = some entry) {err : EvalError}
    (hreject : entry.description.validate c = .error err) (w : Window)
    (hcollected : ∀ inner, entry.function.window c w = .ok inner → Collected c inner) (p : Progress) :
    let outcome := (((store.engine false).execute target w).runFrom p).1
    (∀ e, entry.function.window c w = .error e → outcome = .error e) ∧
      ((∃ inner, entry.function.window c w = .ok inner) ∨ c.function ∉ Builtin.wideningNames →
        ∃ requests, gather Registry.builtins c.toExpr w = .ok requests ∧
          (∀ fault, requests.findSome? store.fault? = some fault → outcome = .error (.fetch fault)) ∧
          (store.AnswersAll requests → outcome = .error err)) ∧
      (c.function ∈ Builtin.movingNames → c.namedOrAt? Builtin.Reach.param 1 = none →
        outcome = .error (.invalidArgument c.function (.windowNotPositive 0))) := by
  intro outcome
  obtain ⟨hall, hdesc, hname⟩ := Registry.builtins_get? hentry
  have hentry' := hentry
  rw [← store.engine_registry false] at hentry'
  have hwindow : ∀ e, entry.function.window c w = .error e → outcome = .error e :=
    fun e he => execute_window_error hparse hentry' he p
  refine ⟨hwindow, fun htold => ?_, fun hmoving habsent => ?_⟩
  · obtain ⟨inner, hinner⟩ : ∃ inner, entry.function.window c w = .ok inner := by
      refine htold.elim id fun hnot => ⟨w, ?_⟩
      rw [(Builtin.widening_or_window_eq _ hall).resolve_left fun hmem =>
        hnot (List.mem_flatMap.2 ⟨entry.function, hmem, List.mem_map.2 ⟨entry.description, hdesc, hname⟩⟩)]
    have hargs : ∀ e, e ∈ c.args ∨ e ∈ c.named.map Prod.snd →
        ∃ requests, gather Registry.builtins e inner = .ok requests ∧ ∀ r ∈ requests, True := by
      intro e he
      obtain ⟨requests, hrequests⟩ := hcollected inner hinner e he
      exact ⟨requests, hrequests, fun _ _ => trivial⟩
    obtain ⟨requests, hgather, -⟩ := gather_call_each Registry.builtins w hentry hinner
      (fun e he => hargs e (Or.inl he)) fun q hq => hargs q.2 (Or.inr (List.mem_map_of_mem hq))
    refine ⟨requests, hgather, fun fault hfault => ?_, fun hanswers => ?_⟩
    all_goals
      rw [← store.engine_registry false] at hgather
      show (((store.engine false).execute target w).runFrom p).1 = _
      rw [execute_run_ok hparse]
    · exact executeExpr_unfetched (store.engine_source false) (fetched_fault rfl hgather hfault) p
    · obtain ⟨q, hfetch, -⟩ :=
        fetch_answered (store.engine_source false) rfl hgather hanswers (kept_nil _ store p.asked)
      rw [executeExpr_run, Eval.runFrom_bind_ok hfetch, eval_call_rejected rfl hentry' hreject]
  · obtain ⟨f, hf, hnames⟩ := List.mem_flatMap.1 hmoving
    obtain ⟨d, hd, hdname⟩ := List.mem_map.1 hnames
    have hfall : f ∈ Builtin.all := by simp [Builtin.all, hf]
    have hfound := Registry.get?_builtins hfall hd
    rw [hdname, hentry] at hfound
    cases hfound
    exact hwindow _ (Builtin.window_of_absent f hf c w habsent)

/-! ## Calls of a pattern alone -/

/-- a call of a function with a pattern alone -/
def bareCall (function : String) : Call :=
  ⟨function, [.name "m"], [], "m"⟩

theorem collected_bareCall (function : String) (w : Window) : Collected (bareCall function) w := by
  intro e he
  have hm : e = .name "m" := by simpa [bareCall] using he
  rw [hm, gather]
  exact ⟨_, rfl⟩

theorem plain_bareCall (function : String) : ∀ e ∈ (bareCall function).args, e.Plain := by
  intro e he
  rw [List.mem_singleton.1 he]
  exact ⟨_, Glob.compile_m⟩

theorem scale_bareCall : ∃ d, Registry.builtins.get? "scale" = some ⟨Builtin.scale, d⟩ ∧
    Target.parse "scale(m)" = .ok (bareCall "scale").toExpr ∧
    d.validate (bareCall "scale") = .error (.missingArgument "scale" "factor") := by
  have hentry : ∃ d ∈ Builtin.scale.descriptions, Registry.builtins.get? "scale" = some ⟨Builtin.scale, d⟩ := by
    apply Registry.exists_get?_builtins
    · simp [Builtin.all, Builtin.transforming]
    · simp [Builtin.scale, Builtin.Mapping.toFunction]
    · simp [Builtin.scale, Builtin.Mapping.toFunction]
  obtain ⟨d, hd, hentry⟩ := hentry
  refine ⟨d, hentry, ?_, ?_⟩
  · show _ = Except.ok (Expr.call "scale" [.name "m"] [] "m")
    cbv
  · rw [List.mem_singleton.1 hd]
    rfl

theorem movingAverage_bareCall : ∃ d, Registry.builtins.get? "movingAverage" =
      some ⟨Builtin.movingFixed "movingAverage" .average, d⟩ ∧
    Target.parse "movingAverage(m)" = .ok (bareCall "movingAverage").toExpr ∧
    d.validate (bareCall "movingAverage") = .error (.missingArgument "movingAverage" "windowSize") := by
  obtain ⟨d, hd, hentry⟩ := Builtin.get?_movingFixed List.mem_cons_self
  refine ⟨d, hentry, ?_, ?_⟩
  · show _ = Except.ok (Expr.call "movingAverage" [.name "m"] [] "m")
    cbv
  · rw [List.mem_singleton.1 hd]
    rfl

/-- a call without its factor is told so, and one without its moving window is told that the window has no points -/
theorem execute_rejected_bare :
    (((Store.engine [] false).execute "scale(m)" ⟨0, 60⟩).runFrom {}).1 = .error (.missingArgument "scale" "factor") ∧
      (((Store.engine [] false).execute "movingAverage(m)" ⟨0, 60⟩).runFrom {}).1 =
        .error (.invalidArgument "movingAverage" (.windowNotPositive 0)) := by
  obtain ⟨d, hentry, hparse, hreject⟩ := scale_bareCall
  obtain ⟨-, hscale, -⟩ := @execute_rejected [] _ _ hparse _ hentry _ hreject ⟨0, 60⟩
    (fun inner _ => collected_bareCall "scale" inner) {}
  obtain ⟨requests, hgather, -, hanswered⟩ := hscale (Or.inr (by decide))
  obtain ⟨asked, hasked, hanswers⟩ := @gather_call_plain [] Registry.builtins ⟨0, 60⟩ (bareCall "scale") _ ⟨0, 60⟩
    hentry rfl (plain_bareCall "scale") (by simp [bareCall])
  cases hgather.symm.trans hasked
  obtain ⟨d, hentry, hparse, hreject⟩ := movingAverage_bareCall
  obtain ⟨-, -, hmoving⟩ := @execute_rejected [] _ _ hparse _ hentry _ hreject ⟨0, 60⟩
    (fun inner _ => collected_bareCall "movingAverage" inner) {}
  exact ⟨hanswered hanswers, hmoving (by decide) rfl⟩

/-- a moving average without its window does not fail with the error of validation, though its series are collected -/
theorem execute_bareAverage : ∃ entry, Registry.builtins.get? "movingAverage" = some entry ∧
    Target.parse "movingAverage(m)" = .ok (bareCall "movingAverage").toExpr ∧
    (∀ w, Collected (bareCall "movingAverage") w) ∧
    entry.description.validate (bareCall "movingAverage") = .error (.missingArgument "movingAverage" "windowSize") ∧
    (((Store.engine [] false).execute "movingAverage(m)" ⟨0, 60⟩).runFrom {}).1 ≠
      .error (.missingArgument "movingAverage" "windowSize") := by
  obtain ⟨d, hentry, hparse, hreject⟩ := movingAverage_bareCall
  refine ⟨_, hentry, hparse, collected_bareCall "movingAverage", hreject, ?_⟩
  rw [← Store.engine_registry [] false] at hentry
  have hmoving : Builtin.movingFixed "movingAverage" .average ∈ Builtin.moving := by simp [Builtin.moving]
  have hwindow := Builtin.window_of_absent _ hmoving (bareCall "movingAverage") ⟨0, 60⟩ rfl
  rw [execute_window_error hparse hentry hwindow]
  simp

end Engine

end MetricQuery
