/-
Calls inside calls over a store.

`ComesTo` says of an expression and a window that a store answers all that is asked for, and which series come of it
wherever the answers are held. It goes along with the tree: a pattern comes to its parts (`comesTo_pattern`), a call of
a function of one list to what the function makes of what its argument comes to, over the window announced for it
(`ComesTo.mapping`), and a target to what its expression comes to (`ComesTo.execute`).
-/
import MetricQuery.Proofs.Engine.Calls
import MetricQuery.Proofs.Builtin.Rebucketing

namespace MetricQuery

open Target (Expr Call)
open Time (Window)

namespace Engine

/-- what an expression asks for over a window is answered by a store, and with the answers held it comes to series -/
structure ComesTo (store : Store) (e : Expr) (w : Window) (series : List Series) : Prop where
  answered : ∃ requests, gather (store.engine false).registry e w = .ok requests ∧ store.AnswersAll requests
  value : ∀ requests q, gather (store.engine false).registry e w = .ok requests → (store.engine false).Kept store q →
    (∀ r ∈ requests, q.held.holds r = true) → ((store.engine false).eval e w).runFrom q = (.ok series, q)

theorem comesTo_pattern (store : Store) {m : String} {glob : Glob} (hglob : Glob.compile m = some glob) (w : Window) :
    ComesTo store (.name m) w ((store.matched glob).filterMap (Request.part ⟨m, w⟩)) := by
  refine ⟨gather_plain store _ w ⟨glob, hglob⟩, fun requests q hgather hq hholds => ?_⟩
  rw [gather] at hgather
  cases hgather
  rw [eval]
  exact lookUp_pattern hq (hholds _ List.mem_cons_self) hglob

/-- the first argument of a call, where it stands for series -/
theorem seriesAt_first (g : Engine) {c : Call} {e : Expr} (he : c.args[0]? = some e) (hseries : e.isSeries = true)
    (w : Window) : Builtin.seriesAt (g.operands c) c 0 w = g.eval e w := by
  rw [Builtin.seriesAt, arg_operands, he]
  show Builtin.seriesOf c 0 e (g.eval e) w = _
  rw [Builtin.seriesOf, hseries]
  rfl

/-- **A function of one list makes its series of those that its argument comes to.** -/
theorem ComesTo.mapping {store : Store} {c : Call} {e : Expr} {rest : List Expr} {w inner : Window}
    {series outs : List Series} (he : ComesTo store e inner series) (hseries : e.isSeries = true)
    (hargs : c.args = e :: rest) (hrest : ∀ e ∈ rest, e.Plain) (hnamed : ∀ p ∈ c.named, p.2.Plain)
    {m : Builtin.Mapping} {descriptions : List Description} {d : Description}
    (hentry : Registry.builtins.get? c.function = some ⟨m.toFunction descriptions, d⟩) (hvalid : d.validate c = .ok ())
    {early : m.Early} (hearly : m.early c = .ok early) (hwindow : m.window c w = .ok inner)
    (hfinish : m.finish c early w series = .ok outs) : ComesTo store c.toExpr w outs := by
  rw [← store.engine_registry false] at hentry
  refine ⟨gather_call_answered store _ w hentry hwindow ?_ fun p hp => gather_plain store _ inner (hnamed p hp), ?_⟩
  · rw [hargs]
    exact List.forall_mem_cons.2 ⟨he.answered, fun e' he' => gather_plain store _ inner (hrest e' he')⟩
  · intro requests q hgather hq hholds
    obtain ⟨entry, inner', hentry', hinner', hparts⟩ := gather_call hgather
    cases hentry.symm.trans hentry'
    cases hwindow.symm.trans hinner'
    have hfirst : c.args[0]? = some e := by rw [hargs]; rfl
    obtain ⟨part, hpart, hsub⟩ := hparts e (Or.inl (List.mem_of_getElem? hfirst))
    have hrun : (Builtin.seriesAt ((store.engine false).operands c) c 0 inner).runFrom q = (.ok series, q) := by
      rw [seriesAt_first _ hfirst hseries]
      exact he.value part q hpart hq fun r hr => hholds r (hsub hr)
    rw [eval_call_run rfl hentry hvalid, ← hfinish]
    exact Builtin.Mapping.runFrom_evaluate m descriptions hearly hwindow hrun

/-- **A target comes to what its expression comes to.** -/
theorem ComesTo.execute {store : Store} {e : Expr} {w : Window} {series : List Series} (h : ComesTo store e w series)
    {target : String} (hparse : Target.parse target = .ok e) (p : Progress) :
    (((store.engine false).execute target w).runFrom p).1 = .ok series := by
  obtain ⟨requests, hgather, hanswers⟩ := h.answered
  obtain ⟨q, hfetch, hq, hholds⟩ :=
    fetch_answered (store.engine_source false) rfl hgather hanswers (kept_nil _ store p.asked)
  rw [execute_run_ok hparse, executeExpr_run, Eval.runFrom_bind_ok hfetch, h.value requests q hgather hq hholds]

end Engine

end MetricQuery
