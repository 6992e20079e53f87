/-
Evaluations as runs from one progress to another.

A run starts from some progress and ends with a result and the progress it leaves. A `Regime` says which progress an
evaluation may start from and how it may change it. Under a regime an evaluation stays (`Staying`) if it leaves only
progress the regime allows, and it `Settles` if moreover its result is the same from every progress it may start from
and is never that a request was not fetched.

Both are kept by sequencing. A `Discipline` is any property of evaluations that is, together with the errors that may
end them, so a function of the registry follows a discipline as soon as the evaluations of its operands do, and what is
proved of functions is proved for all disciplines at once.
-/
import MetricQuery.Engine.Evaluation
import MetricQuery.Proofs.Result

namespace MetricQuery

/-! ## Runs -/

namespace Eval

variable {α β : Type}

@[simp] theorem runFrom_throw (e : EvalError) (p : Progress) : (throw e : Eval α).runFrom p = (.error e, p) := rfl

@[simp] theorem runFrom_lift (x : Except EvalError α) (p : Progress) : (liftM x : Eval α).runFrom p = (x, p) := rfl

@[simp] theorem runFrom_get (p : Progress) : (get : Eval Progress).runFrom p = (.ok p, p) := rfl

@[simp] theorem runFrom_modify (f : Progress → Progress) (p : Progress) :
    (modify f : Eval PUnit).runFrom p = (.ok ⟨⟩, f p) := rfl

/-- a sequence carries on from the progress its first part leaves, or ends with the error of that part -/
theorem runFrom_bind (x : Eval α) (f : α → Eval β) (p : Progress) :
    (x >>= f).runFrom p =
      match x.runFrom p with
      | (.ok a, q) => (f a).runFrom q
      | (.error e, q) => (.error e, q) := by
  show (match x.runFrom p with
    | (r, q) => (ExceptT.bindCont f r : StateM Progress _).run q) = _
  cases x.runFrom p with
  | mk r q => cases r <;> rfl

theorem throw_bind (e : EvalError) (f : α → Eval β) : ((throw e : Eval α) >>= f) = throw e := rfl

theorem runFrom_bind_ok {x : Eval α} {f : α → Eval β} {p q : Progress} {a : α} (h : x.runFrom p = (.ok a, q)) :
    (x >>= f).runFrom p = (f a).runFrom q := by
  rw [runFrom_bind, h]

theorem runFrom_bind_error {x : Eval α} {f : α → Eval β} {p q : Progress} {e : EvalError}
    (h : x.runFrom p = (.error e, q)) : (x >>= f).runFrom p = (.error e, q) := by
  rw [runFrom_bind, h]

end Eval

/-! ## Requests that were not fetched -/

/-- a result that is not the error of a request nobody fetched -/
def NeverMissing {α : Type} (x : Except EvalError α) : Prop :=
  ∀ request, x ≠ .error (.missingData request)

theorem neverMissing_iff {α : Type} {x : Except EvalError α} :
    NeverMissing x ↔ FailsOnly x fun e => ∀ request, e ≠ .missingData request :=
  ⟨fun h e he request hr => h request (by rw [he, hr]), fun h request he => h _ he request rfl⟩

namespace NeverMissing

variable {α β : Type}

@[simp] theorem ok (a : α) : NeverMissing (.ok a : Except EvalError α) :=
  neverMissing_iff.2 (FailsOnly.ok a)

@[simp] theorem error_iff (e : EvalError) :
    NeverMissing (.error e : Except EvalError α) ↔ ∀ request, e ≠ .missingData request := by
  rw [neverMissing_iff, FailsOnly.error_iff]

@[simp] theorem bind_iff (x : Except EvalError α) (f : α → Except EvalError β) :
    NeverMissing (x >>= f) ↔ NeverMissing x ∧ ∀ a, x = .ok a → NeverMissing (f a) := by
  simp only [neverMissing_iff, FailsOnly.bind_iff]

@[simp] theorem map_iff (f : α → β) (x : Except EvalError α) : NeverMissing (f <$> x) ↔ NeverMissing x := by
  simp only [neverMissing_iff, FailsOnly.map_iff]

theorem mapM {f : α → Except EvalError β} {l : List α} (h : ∀ a ∈ l, NeverMissing (f a)) : NeverMissing (l.mapM f) :=
  neverMissing_iff.2 (FailsOnly.mapM fun a ha => neverMissing_iff.1 (h a ha))

end NeverMissing

/-! ## Regimes -/

/-- the progress an evaluation may start from, and what it may turn a progress into -/
structure Regime where
  Fit : Progress → Prop
  Leads : Progress → Progress → Prop
  leads_refl : ∀ p, Leads p p
  leads_trans : ∀ {p q r}, Leads p q → Leads q r → Leads p r
  fit_of_leads : ∀ {p q}, Fit p → Leads p q → Fit q

/-- an evaluation that leaves only progress the regime allows, whatever it comes to -/
def Staying {α : Type} (R : Regime) (x : Eval α) : Prop :=
  ∀ p, R.Fit p → R.Leads p (x.runFrom p).2

/-- an evaluation whose result does not depend on the progress it starts from, and is not that a request was missing -/
def Settles {α : Type} (R : Regime) (x : Eval α) : Prop :=
  ∃ v, NeverMissing v ∧ ∀ p, R.Fit p → (x.runFrom p).1 = v ∧ R.Leads p (x.runFrom p).2

section Sequencing

variable {α β : Type} {R : Regime}

theorem Staying.lift (R : Regime) (x : Except EvalError α) : Staying R (liftM x : Eval α) :=
  fun p _ => R.leads_refl p

theorem Staying.bind {x : Eval α} {f : α → Eval β} (hx : Staying R x) (hf : ∀ a, Staying R (f a)) :
    Staying R (x >>= f) := by
  intro p hp
  have h1 := hx p hp
  cases hr : x.runFrom p with
  | mk r q =>
    rw [hr] at h1
    cases r with
    | error e =>
      rw [Eval.runFrom_bind_error hr]
      exact h1
    | ok a =>
      rw [Eval.runFrom_bind_ok hr]
      exact R.leads_trans h1 (hf a q (R.fit_of_leads hp h1))

theorem Settles.lift {x : Except EvalError α} (h : NeverMissing x) : Settles R (liftM x : Eval α) :=
  ⟨x, h, fun p _ => ⟨rfl, R.leads_refl p⟩⟩

theorem Settles.bind {x : Eval α} {f : α → Eval β} (hx : Settles R x) (hf : ∀ a, Settles R (f a)) :
    Settles R (x >>= f) := by
  obtain ⟨v, hv, hx⟩ := hx
  cases v with
  | error e =>
    refine ⟨.error e, fun request h => hv request (by cases h; rfl), fun p hp => ?_⟩
    obtain ⟨h1, h2⟩ := hx p hp
    rw [Eval.runFrom_bind_error (Prod.ext h1 rfl)]
    exact ⟨rfl, h2⟩
  | ok a =>
    obtain ⟨v, hv, hf⟩ := hf a
    refine ⟨v, hv, fun p hp => ?_⟩
    obtain ⟨h1, h2⟩ := hx p hp
    rw [Eval.runFrom_bind_ok (Prod.ext h1 rfl)]
    obtain ⟨h3, h4⟩ := hf _ (R.fit_of_leads hp h2)
    exact ⟨h3, R.leads_trans h2 h4⟩

end Sequencing

/-! ## Disciplines -/

/-- a property of evaluations that sequencing keeps, and that no failure with an allowed error breaks -/
structure Discipline where
  Allows : EvalError → Prop
  Holds : {α : Type} → Eval α → Prop
  lift : ∀ {α : Type} {x : Except EvalError α}, FailsOnly x Allows → Holds (liftM x : Eval α)
  bind : ∀ {α β : Type} {x : Eval α} {f : α → Eval β}, Holds x → (∀ a, Holds (f a)) → Holds (x >>= f)

/-- to leave only progress a regime allows -/
def Discipline.staying (R : Regime) : Discipline where
  Allows _ := True
  Holds := Staying R
  lift := fun _ => Staying.lift R _
  bind := Staying.bind

/-- to settle under a regime -/
def Discipline.settling (R : Regime) : Discipline where
  Allows e := ∀ request, e ≠ .missingData request
  Holds := Settles R
  lift := fun h => Settles.lift (neverMissing_iff.2 h)
  bind := Settles.bind

namespace Discipline.Holds

variable {α β : Type} {D : Discipline}

theorem lift {x : Except EvalError α} (h : FailsOnly x D.Allows) : D.Holds (liftM x : Eval α) :=
  D.lift h

theorem pure (a : α) : D.Holds (Pure.pure a : Eval α) :=
  D.lift (FailsOnly.ok a)

theorem throw {e : EvalError} (h : D.Allows e) : D.Holds (MonadExcept.throw e : Eval α) :=
  D.lift (x := .error e) ((FailsOnly.error_iff e).2 h)

theorem bind {x : Eval α} {f : α → Eval β} (hx : D.Holds x) (hf : ∀ a, D.Holds (f a)) : D.Holds (x >>= f) :=
  D.bind hx hf

/-- what is read off the call first has to be followed up only where it can be read -/
theorem lift_bind {x : Except EvalError α} {f : α → Eval β} (hx : FailsOnly x D.Allows)
    (hf : ∀ a, x = .ok a → D.Holds (f a)) : D.Holds ((liftM x : Eval α) >>= f) := by
  cases x with
  | error e => exact throw ((FailsOnly.error_iff e).1 hx)
  | ok a => exact hf a rfl

/-- a check that is made before going on -/
theorem guarded {p : Prop} [Decidable p] {e : EvalError} (he : D.Allows e) {next : PUnit → Eval α}
    (h : D.Holds (next ⟨⟩)) : D.Holds (if p then (MonadExcept.throw e : Eval PUnit) >>= next else next ⟨⟩) := by
  split
  · exact (throw he).bind fun _ => h
  · exact h

theorem map {x : Eval α} (f : α → β) (hx : D.Holds x) : D.Holds (f <$> x) := by
  rw [← bind_pure_comp]
  exact hx.bind fun a => pure (f a)

theorem mapM {f : α → Eval β} {l : List α} (h : ∀ a ∈ l, D.Holds (f a)) : D.Holds (l.mapM f) := by
  induction l with
  | nil => exact pure []
  | cons a l ih =>
    rw [List.mapM_cons]
    refine (h a List.mem_cons_self).bind fun b => ?_
    exact (ih fun a ha => h a (List.mem_cons_of_mem _ ha)).bind fun bs => pure (b :: bs)

end Discipline.Holds

end MetricQuery
