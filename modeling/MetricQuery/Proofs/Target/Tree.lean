/-
Expressions as trees: induction over the arguments of calls, and the calls that occur in an expression.
-/
import Mathlib
import MetricQuery.Target.Syntax

namespace MetricQuery.Target

/-- a statement holds of every expression if it holds of the leaves and of each call of whose arguments it holds -/
@[elab_as_elim]
theorem Expr.induct {P : Expr → Prop} (name : ∀ path, P (.name path))
    (call : ∀ f args named argText, (∀ e ∈ args, P e) → (∀ p ∈ named, P p.2) → P (.call f args named argText))
    (number : ∀ value literal, P (.number value literal)) (string : ∀ value quote, P (.string value quote))
    (flag : ∀ value, P (.flag value)) (e : Expr) : P e :=
  Expr.rec (motive_1 := P) (motive_2 := fun es => ∀ e ∈ es, P e) (motive_3 := fun ps => ∀ p ∈ ps, P p.2)
    (motive_4 := fun p => P p.2) name (fun f args named argText hargs hnamed => call f args named argText hargs hnamed)
    number string flag (fun _ h => nomatch h)
    (fun _ _ h hs _ he => (List.mem_cons.1 he).elim (fun heq => heq ▸ h) (hs _)) (fun _ h => nomatch h)
    (fun _ _ h hs _ hp => (List.mem_cons.1 hp).elim (fun heq => heq ▸ h) (hs _)) (fun _ _ h => h) e

/-- a call is part of an expression, or the whole of it -/
inductive Occurs (c : Call) : Expr → Prop
  | self : Occurs c c.toExpr
  | arg {f args named argText e} (h : e ∈ args) (ho : Occurs c e) : Occurs c (.call f args named argText)
  | named {f args named argText p} (h : p ∈ named) (ho : Occurs c p.2) : Occurs c (.call f args named argText)

end MetricQuery.Target
