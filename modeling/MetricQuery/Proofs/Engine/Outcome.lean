/-
What a successful evaluation comes to.

`Yields` says of an evaluation under a regime, from every progress it may start from, that its value, if it has one,
satisfies a property. It follows a chain of steps to its end: what one step yields is known to the next.
-/
import MetricQuery.Proofs.Result
import MetricQuery.Proofs.Engine.Regime

namespace MetricQuery

/-! ## Evaluations -/

/-- an evaluation that stays within a regime, and whose value, if it has one, satisfies a property -/
def Yields {α : Type} (R : Regime) (P : α → Prop) (x : Eval α) : Prop :=
  ∀ p, R.Fit p → R.Leads p (x.runFrom p).2 ∧ Ensures (x.runFrom p).1 P

namespace Yields

variable {α β : Type} {R : Regime}

theorem lift {x : Except EvalError α} {P : α → Prop} (h : Ensures x P) : Yields R P (liftM x : Eval α) :=
  fun p _ => ⟨R.leads_refl p, h⟩

theorem pure {a : α} {P : α → Prop} (h : P a) : Yields R P (Pure.pure a : Eval α) :=
  lift (Ensures.ok h)

theorem throw (e : EvalError) (P : α → Prop) : Yields R P (MonadExcept.throw e : Eval α) :=
  lift (x := .error e) (Ensures.error e P)

theorem bind {x : Eval α} {f : α → Eval β} {P : α → Prop} {Q : β → Prop} (hx : Yields R P x)
    (hf : ∀ a, P a → Yields R Q (f a)) : Yields R Q (x >>= f) := by
  intro p hp
  obtain ⟨h1, h2⟩ := hx p hp
  cases hr : x.runFrom p with
  | mk r q =>
    rw [hr] at h1 h2
    cases r with
    | error e =>
      rw [Eval.runFrom_bind_error hr]
      exact ⟨h1, Ensures.error e Q⟩
    | ok a =>
      rw [Eval.runFrom_bind_ok hr]
      obtain ⟨h3, h4⟩ := hf a (h2 a rfl) q (R.fit_of_leads hp h1)
      exact ⟨R.leads_trans h1 h3, h4⟩

/-- a check that is made before going on -/
theorem guarded {p : Prop} [Decidable p] {e : EvalError} {next : PUnit → Eval α} {Q : α → Prop}
    (h : Yields R Q (next ⟨⟩)) : Yields R Q (if p then (MonadExcept.throw e : Eval PUnit) >>= next else next ⟨⟩) := by
  split
  · exact (throw e fun _ => True).bind fun _ _ => h
  · exact h

theorem imp {x : Eval α} {P Q : α → Prop} (hx : Yields R P x) (h : ∀ a, P a → Q a) : Yields R Q x :=
  fun p hp => ⟨(hx p hp).1, fun a ha => h a ((hx p hp).2 a ha)⟩

/-- what is read off the call, of which nothing needs to be known -/
theorem skip {x : Except EvalError α} {f : α → Eval β} {Q : β → Prop} (hf : ∀ a, Yields R Q (f a)) :
    Yields R Q ((liftM x : Eval α) >>= f) :=
  (lift (P := fun _ => True) fun _ _ => trivial).bind fun a _ => hf a

theorem map {x : Eval α} {f : α → β} {Q : β → Prop} (hx : Yields R (fun a => Q (f a)) x) : Yields R Q (f <$> x) := by
  rw [← bind_pure_comp]
  exact hx.bind fun a ha => pure ha

theorem mapM {f : α → Eval β} {l : List α} {P : β → Prop} (h : ∀ a ∈ l, Yields R P (f a)) :
    Yields R (fun bs => ∀ b ∈ bs, P b) (l.mapM f) := by
  induction l with
  | nil => exact pure (by simp)
  | cons a l ih =>
    rw [List.mapM_cons]
    refine (h a List.mem_cons_self).bind fun b hb => ?_
    refine (ih fun a ha => h a (List.mem_cons_of_mem _ ha)).bind fun bs hbs => pure ?_
    exact List.forall_mem_cons.2 ⟨hb, hbs⟩

end Yields

end MetricQuery
