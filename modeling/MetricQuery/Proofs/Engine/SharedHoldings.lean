/-
Holdings shared between queries.

Queries may share what is held. A `Step` fetches expressions or evaluates one, on whatever was held before; evaluation
may fetch again by itself, and a step that fails keeps what it got. Steps are in no order: an expression may be
evaluated before anything was fetched for it.

`step_grows`: a step keeps the answers the store's own and changes no entry. `shared_transparent`: hence after any
steps every entry is what the store alone answers, none that was there is changed or gone, and a query on shared
holdings comes to what it comes to on holdings of its own.
-/
import MetricQuery.Proofs.Engine.PhaseAgreement

namespace MetricQuery

open Target (Expr Call)
open Time (Window)

namespace Engine

/-- what a query does on shared holdings -/
inductive Step where
  | fetch (es : List Expr) (w : Window)
  | eval (e : Expr) (w : Window)

/-- the progress a step leaves, also where it fails -/
def step (g : Engine) (p : Progress) : Step → Progress
  | .fetch es w => ((g.fetch es w).runFrom p).2
  | .eval e w => ((g.eval e w).runFrom p).2

def run (g : Engine) (p : Progress) (steps : List Step) : Progress := steps.foldl g.step p

theorem run_append (g : Engine) (p : Progress) (steps more : List Step) :
    g.run p (steps ++ more) = g.run (g.run p steps) more :=
  List.foldl_append

section OverStore

variable {g : Engine} {store : Store} (hreg : g.registry = Registry.builtins) (hg : g.source = store.source)
include hg

theorem staying_fetch (es : List Expr) (w : Window) (asks : Request → Prop) :
    Staying (g.regime store asks) (g.fetch es w) :=
  fun p _ => fetch_grows hg es w p

omit hg in
theorem staying_lookUp (R : Regime) (request : Request) : Staying R (lookUp request) := by
  intro p _
  rw [lookUp_run]
  exact R.leads_refl p

include hreg

/-- an evaluation only adds, whether its requests were fetched or not -/
theorem staying_eval (e : Expr) (w : Window) (asks : Request → Prop) : Staying (g.regime store asks) (g.eval e w) := by
  induction e using Expr.induct generalizing w with
  | name path => exact staying_lookUp _ _
  | call f args named argText hargs hnamed =>
    refine holds_call hreg (D := Discipline.staying (g.regime store asks)) (fun _ _ => trivial)
      (fun entry inner _ _ e he => ?_) ?_
    · exact forall_argument hargs hnamed e he inner
    · intro _ e he inner
      exact (staying_fetch hg [e] inner asks).bind fun _ => hargs e he inner
  | number value literal => exact Staying.lift _ (.error _)
  | string value quote => exact Staying.lift _ (.error _)
  | flag value => exact Staying.lift _ (.error _)

/-- **A step only adds.** -/
theorem step_grows (s : Step) {p : Progress} (hp : g.Kept store p) : g.Grows store p (g.step p s) := by
  cases s with
  | fetch es w => exact fetch_grows hg es w p
  | eval e w => exact staying_eval hreg hg e w (fun _ => False) p ⟨hp, fun r hr => hr.elim⟩

theorem run_grows (steps : List Step) {p : Progress} (hp : g.Kept store p) : g.Grows store p (g.run p steps) := by
  induction steps generalizing p with
  | nil => exact Grows.refl g store p
  | cons s steps ih =>
    have h := step_grows hreg hg s hp
    exact h.trans (ih (h.kept hp))

/-- on any holdings that steps can leave, a query comes to what it comes to on empty ones -/
theorem fetch_eval_eq_executeExpr {p : Progress} (hp : g.Kept store p) (e : Expr) (w : Window) (q : Progress) :
    ((do g.fetch [e] w; g.eval e w : Eval _).runFrom p).1 = ((g.executeExpr e w).runFrom q).1 := by
  obtain ⟨v, -, hrun⟩ := settles_fetch_eval hreg hg (fun _ => False) w fun asks requests hgather hasks =>
    settles_eval hreg hg e w asks requests hgather hasks
  have hshared := (hrun p ⟨hp, fun r hr => hr.elim⟩).1
  have hown := (hrun { q with held := [] } ⟨kept_nil g store q.asked, fun r hr => hr.elim⟩).1
  rw [executeExpr_run, hshared, hown]

end OverStore

/-- **Shared holdings are transparent.** After any fetches and evaluations from empty holdings on, whether they failed
or not, every entry is the store's own answer to that request alone; no entry once there is changed or gone; and
fetching and evaluating an expression there comes to the series or the error that it comes to on holdings of its own.
-/
theorem shared_transparent (store : Store) (cancelled : Bool) (steps : List Step) :
    (∀ request series, ((store.engine cancelled).run {} steps).held.get? request = some series →
      store.source [request] = .ok [(request, series)]) ∧
    (∀ earlier later, steps = earlier ++ later → ∀ request series,
      ((store.engine cancelled).run {} earlier).held.get? request = some series →
        ((store.engine cancelled).run {} steps).held.get? request = some series) ∧
    ∀ e w p, ((do (store.engine cancelled).fetch [e] w; (store.engine cancelled).eval e w : Eval _).runFrom
        ((store.engine cancelled).run {} steps)).1 = (((store.engine cancelled).executeExpr e w).runFrom p).1 := by
  have hreg := store.engine_registry cancelled
  have hg := store.engine_source cancelled
  generalize store.engine cancelled = g at hreg hg ⊢
  have hempty : g.Kept store {} := kept_nil g store []
  have hkept : ∀ steps, g.Kept store (g.run {} steps) := fun steps => (run_grows hreg hg steps hempty).kept hempty
  refine ⟨fun request series hheld => ?_, fun earlier later hsteps request series hheld => ?_, fun e w p => ?_⟩
  · simp [Store.source, (hkept steps).agrees request series hheld]
    rfl
  · rw [hsteps, run_append]
    exact (run_grows hreg hg later (hkept earlier)).stays (hkept earlier) request series hheld
  · exact fetch_eval_eq_executeExpr hreg hg (hkept steps) e w p

/-- an evaluation before any fetch fails, and what is fetched afterwards is the store's answer -/
theorem shared_transparent_name : ∃ s : Series,
    ((Store.engine [s] false).run {} [.eval (.name "a") ⟨0, 1⟩, .fetch [.name "a"] ⟨0, 1⟩]).held.get? ⟨"a", ⟨0, 1⟩⟩ =
      some [s] ∧ Store.source [s] [⟨"a", ⟨0, 1⟩⟩] = .ok [(⟨"a", ⟨0, 1⟩⟩, [s])] := by
  have hheld : ((Store.engine [Store.Fixture.toSeries ⟨"a", 0, 1, [Decimal.nan], [], none, none⟩ {}] false).run {}
      [.eval (.name "a") ⟨0, 1⟩, .fetch [.name "a"] ⟨0, 1⟩]).held.get? ⟨"a", ⟨0, 1⟩⟩ =
        some [Store.Fixture.toSeries ⟨"a", 0, 1, [Decimal.nan], [], none, none⟩ {}] := rfl
  exact ⟨_, hheld, (shared_transparent _ false _).1 _ _ hheld⟩

end Engine

end MetricQuery
