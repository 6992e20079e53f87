/-
Targets that come to the same series.

Two calls may do the same work and still fail with different errors, because errors name the function they come from.
So they are compared by their successes. Two results succeed alike if whatever value one has the other has too
(`SucceedAlike`); two computations do, if from every progress they come to the same value with the same progress
(`Eval.SucceedAlike`). A chain succeeds alike if its steps do. Two calls whose arguments ask for the same, over windows
that are announced alike, and whose functions evaluate alike, make targets with the same results
(`CallOf.sameResults`).
-/
import MetricQuery.Proofs.Engine.Calls
import MetricQuery.Proofs.Target.CanonicalText

namespace MetricQuery

open Target (Expr Call CanonicalText)
open Time (Window)

/-! ## Results -/

theorem ok_bind {ε α β : Type} (a : α) (f : α → Except ε β) : (Except.ok a >>= f) = f a := rfl

/-- the same value, if either result has one -/
def SucceedAlike {ε α : Type} (x y : Except ε α) : Prop :=
  ∀ a, x = .ok a ↔ y = .ok a

namespace SucceedAlike

variable {ε α β : Type}

theorem refl (x : Except ε α) : SucceedAlike x x :=
  fun _ => Iff.rfl

theorem error (e e' : ε) : SucceedAlike (.error e : Except ε α) (.error e') := by
  intro a
  constructor <;> intro h <;> cases h

theorem bind {x y : Except ε α} {f g : α → Except ε β} (h : SucceedAlike x y) (hfg : ∀ a, SucceedAlike (f a) (g a)) :
    SucceedAlike (x >>= f) (y >>= g) := by
  intro b
  rw [bind_eq_ok, bind_eq_ok]
  exact exists_congr fun a => and_congr (h a) (hfg a b)

theorem map {x y : Except ε α} (h : SucceedAlike x y) (f : α → β) : SucceedAlike (f <$> x) (f <$> y) := by
  rw [map_eq_pure_bind, map_eq_pure_bind]
  exact h.bind fun a => refl _

end SucceedAlike

/-! ## Computations -/

namespace Eval

/-- the same value with the same progress behind it, from any progress on, if either computation has one -/
def SucceedAlike {α : Type} (x y : Eval α) : Prop :=
  ∀ p a q, x.runFrom p = (.ok a, q) ↔ y.runFrom p = (.ok a, q)

theorem runFrom_bind_eq_ok_iff {α β : Type} {x : Eval α} {f : α → Eval β} {p r : Progress} {b : β} :
    (x >>= f).runFrom p = (.ok b, r) ↔ ∃ a q, x.runFrom p = (.ok a, q) ∧ (f a).runFrom q = (.ok b, r) := by
  rw [runFrom_bind]
  cases x.runFrom p with
  | mk result q => cases result <;> simp

namespace SucceedAlike

variable {α β : Type}

theorem refl (x : Eval α) : SucceedAlike x x :=
  fun _ _ _ => Iff.rfl

theorem throw (e e' : EvalError) : SucceedAlike (throw e : Eval α) (throw e') := by
  intro p a q
  constructor <;> intro h <;> cases h

theorem lift {x y : Except EvalError α} (h : MetricQuery.SucceedAlike x y) :
    SucceedAlike (liftM x : Eval α) (liftM y) := by
  intro p a q
  rw [runFrom_lift, runFrom_lift, Prod.mk.injEq, Prod.mk.injEq]
  exact and_congr (h a) Iff.rfl

/-- the second steps are compared only for values that the first step can have -/
theorem bind {x y : Eval α} {f g : α → Eval β} (h : SucceedAlike x y)
    (hfg : ∀ p a q, x.runFrom p = (.ok a, q) → SucceedAlike (f a) (g a)) : SucceedAlike (x >>= f) (y >>= g) := by
  intro p b r
  rw [runFrom_bind_eq_ok_iff, runFrom_bind_eq_ok_iff]
  refine exists_congr fun a => exists_congr fun q => ?_
  constructor
  · rintro ⟨hx, hf⟩
    exact ⟨(h p a q).1 hx, (hfg p a q hx q b r).1 hf⟩
  · rintro ⟨hy, hg⟩
    have hx := (h p a q).2 hy
    exact ⟨hx, (hfg p a q hx q b r).2 hg⟩

theorem result {x y : Eval α} (h : SucceedAlike x y) (p : Progress) :
    MetricQuery.SucceedAlike (x.runFrom p).1 (y.runFrom p).1 := by
  intro a
  constructor
  · intro hx
    rw [(h p a _).1 (Prod.ext hx rfl)]
  · intro hy
    rw [(h p a _).2 (Prod.ext hy rfl)]

end SucceedAlike

end Eval

/-! ## Phases -/

/-- calls whose functions announce windows alike, and whose arguments ask for the same, are gathered alike -/
theorem gather_call_alike {registry : Registry} {c c' : Call} {entry entry' : Entry}
    (hentry : registry.get? c.function = some entry) (hentry' : registry.get? c'.function = some entry') {w : Window}
    (hwindow : SucceedAlike (entry.function.window c w) (entry'.function.window c' w))
    (hargs : ∀ inner, gatherAll registry c.args inner = gatherAll registry c'.args inner) (hnamed : c.named = c'.named) :
    SucceedAlike (gather registry c.toExpr w) (gather registry c'.toExpr w) := by
  rw [Call.toExpr, Call.toExpr, gather, gather, Registry.resolve_eq_ok.2 hentry, Registry.resolve_eq_ok.2 hentry']
  refine (hwindow.bind fun inner => ?_)
  rw [hargs inner, hnamed]
  exact SucceedAlike.refl _

namespace Engine

theorem fetch_alike {g : Engine} {e e' : Expr} {w : Window}
    (h : SucceedAlike (gather g.registry e w) (gather g.registry e' w)) :
    Eval.SucceedAlike (g.fetch [e] w) (g.fetch [e'] w) := by
  have hlacking : ∀ held, SucceedAlike (g.lacking held [e] w) (g.lacking held [e'] w) := by
    intro held
    have hrequests : SucceedAlike (g.registry.requests e w) (g.registry.requests e' w) := h.map _
    unfold lacking
    simp only [List.mapM_cons, List.mapM_nil]
    exact (hrequests.bind fun requests => SucceedAlike.refl _).bind fun lists => SucceedAlike.refl _
  exact (Eval.SucceedAlike.refl get).bind fun _ p _ _ =>
    (Eval.SucceedAlike.lift (hlacking p.held)).bind fun _ batch _ _ => Eval.SucceedAlike.refl _

end Engine

/-- a string asks for nothing -/
theorem gatherAll_string (registry : Registry) (value : String) (q : Target.Quote) (l : List Expr) (w : Window) :
    gatherAll registry (.string value q :: l) w = gatherAll registry l w := by
  rw [gatherAll, gather, ok_bind]
  cases gatherAll registry l w <;> rfl

theorem gatherAll_cons_congr {registry : Registry} {l l' : List Expr} {w : Window}
    (h : gatherAll registry l w = gatherAll registry l' w) (e : Expr) :
    gatherAll registry (e :: l) w = gatherAll registry (e :: l') w := by
  rw [gatherAll, gatherAll, h]

/-! ## Targets -/

/-- over every store and window, from any progress on, two targets come to the same series if either comes to any -/
def SameResults (a b : String) : Prop :=
  ∀ (store : Store) (w : Window) (p : Progress) (outs : List Series),
    (((store.engine false).execute a w).runFrom p).1 = .ok outs ↔
      (((store.engine false).execute b w).runFrom p).1 = .ok outs

/-- a text that is read as a call of a builtin function, which passes its checks -/
structure CallOf (text : String) (c : Call) (f : Function) : Prop where
  parse : Target.parse text = .ok c.toExpr
  entry : ∃ d, Registry.builtins.get? c.function = some ⟨f, d⟩ ∧ d.validate c = .ok ()

/-- the call of canonical texts under a name -/
def callOn (name : String) (l : List CanonicalText) : Call :=
  ⟨name, l.map CanonicalText.value, [], ",".intercalate (l.map CanonicalText.text)⟩

theorem CallOf.of_texts {f : Function} {d : Description} (hf : f ∈ Builtin.all) (hd : d ∈ f.descriptions) {name : String}
    (hname : d.name = name) (hne : name ≠ "") (hletters : ∀ c ∈ name.toList, c.isAlpha = true) {l : List CanonicalText}
    (hl : l ≠ []) (hvalid : d.validate (callOn name l) = .ok ()) {text : String}
    (htext : text = Target.callText name (",".intercalate (l.map CanonicalText.text))) :
    CallOf text (callOn name l) f := by
  rw [htext]
  refine ⟨CanonicalText.parse_call (Target.heads_of_letters hne hletters) hl, d, ?_, hvalid⟩
  show Registry.builtins.get? name = _
  rw [← hname]
  exact Registry.get?_builtins hf hd

/-- **Calls that do the same work make targets with the same results**: their windows are announced alike, their
arguments ask for the same, and their functions evaluate alike. -/
theorem CallOf.sameResults {a b : String} {c c' : Call} {f f' : Function} (h : CallOf a c f) (h' : CallOf b c' f')
    (hwindow : ∀ w, SucceedAlike (f.window c w) (f'.window c' w))
    (hargs : ∀ w, gatherAll Registry.builtins c.args w = gatherAll Registry.builtins c'.args w)
    (hnamed : c.named = c'.named)
    (hevaluate : ∀ (g : Engine) w,
      Eval.SucceedAlike (f.evaluate (g.operands c) c w) (f'.evaluate (g.operands c') c' w)) : SameResults a b := by
  intro store w p outs
  obtain ⟨d, hentry, hvalid⟩ := h.entry
  obtain ⟨d', hentry', hvalid'⟩ := h'.entry
  rw [← store.engine_registry false] at hentry hentry' hargs
  have hfetch := Engine.fetch_alike (gather_call_alike hentry hentry' (hwindow w) hargs hnamed)
  have heval : Eval.SucceedAlike ((store.engine false).eval c.toExpr w) ((store.engine false).eval c'.toExpr w) := by
    intro q series r
    rw [Engine.eval_call_run rfl hentry hvalid, Engine.eval_call_run rfl hentry' hvalid']
    exact hevaluate _ w q series r
  rw [Engine.execute_run_ok h.parse, Engine.execute_run_ok h'.parse, Engine.executeExpr_run, Engine.executeExpr_run]
  dsimp only
  exact (hfetch.bind fun _ _ _ _ => heval).result { p with held := [] } outs

end MetricQuery
