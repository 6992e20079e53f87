/-
Results of computations that may fail.

A chain of steps succeeds exactly if every step does (`bind_eq_ok`), and fails as the first step that fails
(`bind_eq_error`). `Ensures` says of a result that its value, if it has one, satisfies a property; what one step
ensures is known to the next. `FailsOnly` says the same of its error; a chain fails only with what its steps fail with.
`Related` compares two results: they fail with one error, or their values are related.
-/
import Mathlib

namespace MetricQuery

theorem bind_eq_ok {ε α β : Type} {x : Except ε α} {f : α → Except ε β} {b : β} :
    (x >>= f) = .ok b ↔ ∃ a, x = .ok a ∧ f a = .ok b := by
  cases x with
  | error e => simp [bind, Except.bind]
  | ok a => simp [bind, Except.bind]

theorem bind_eq_error {ε α β : Type} {x : Except ε α} {f : α → Except ε β} {e : ε} :
    (x >>= f) = .error e ↔ x = .error e ∨ ∃ a, x = .ok a ∧ f a = .error e := by
  cases x with
  | error e => simp [bind, Except.bind]
  | ok a => simp [bind, Except.bind]

/-- the value of a result, if there is one, satisfies a property -/
def Ensures {ε α : Type} (x : Except ε α) (P : α → Prop) : Prop :=
  ∀ a, x = .ok a → P a

namespace Ensures

variable {ε α β : Type}

theorem ok {a : α} {P : α → Prop} (h : P a) : Ensures (.ok a : Except ε α) P := by
  intro b hb
  cases hb
  exact h

theorem error (e : ε) (P : α → Prop) : Ensures (.error e : Except ε α) P := by
  intro a h
  cases h

theorem bind {x : Except ε α} {f : α → Except ε β} {P : α → Prop} {Q : β → Prop} (hx : Ensures x P)
    (hf : ∀ a, P a → Ensures (f a) Q) : Ensures (x >>= f) Q := by
  cases x with
  | error e => exact error e Q
  | ok a => exact hf a (hx a rfl)

/-- a step of which nothing needs to be known -/
theorem skip {x : Except ε α} {f : α → Except ε β} {Q : β → Prop} (hf : ∀ a, Ensures (f a) Q) : Ensures (x >>= f) Q :=
  bind (P := fun _ => True) (fun _ _ => trivial) fun a _ => hf a

theorem mapM {f : α → Except ε β} {l : List α} {P : β → Prop} (h : ∀ a ∈ l, Ensures (f a) P) :
    Ensures (l.mapM f) fun bs => ∀ b ∈ bs, P b := by
  induction l with
  | nil => exact ok (by simp)
  | cons a l ih =>
    rw [List.mapM_cons]
    refine (h a List.mem_cons_self).bind fun b hb => ?_
    refine (ih fun a ha => h a (List.mem_cons_of_mem _ ha)).bind fun bs hbs => ok ?_
    exact List.forall_mem_cons.2 ⟨hb, hbs⟩

end Ensures

/-- the error of a result, if it failed, satisfies a property -/
def FailsOnly {ε α : Type} (x : Except ε α) (E : ε → Prop) : Prop :=
  ∀ e, x = .error e → E e

namespace FailsOnly

variable {ε α β : Type} {E : ε → Prop}

@[simp] theorem ok (a : α) : FailsOnly (.ok a) E := by
  intro e h
  cases h

@[simp] theorem error_iff (e : ε) : FailsOnly (.error e : Except ε α) E ↔ E e := by
  simp [FailsOnly]

@[simp] theorem throw_iff (e : ε) : FailsOnly (MonadExcept.throw e : Except ε α) E ↔ E e :=
  error_iff e

@[simp] theorem bind_iff (x : Except ε α) (f : α → Except ε β) :
    FailsOnly (x >>= f) E ↔ FailsOnly x E ∧ ∀ a, x = .ok a → FailsOnly (f a) E := by
  cases x with
  | error e =>
    show FailsOnly (.error e) E ↔ _
    simp
  | ok a =>
    show FailsOnly (f a) E ↔ _
    simp

@[simp] theorem map_iff (f : α → β) (x : Except ε α) : FailsOnly (f <$> x) E ↔ FailsOnly x E := by
  cases x with
  | error e =>
    show FailsOnly (.error e) E ↔ _
    simp
  | ok a =>
    show FailsOnly (.ok (f a)) E ↔ _
    simp

theorem mapM {f : α → Except ε β} {l : List α} (h : ∀ a ∈ l, FailsOnly (f a) E) : FailsOnly (l.mapM f) E := by
  induction l with
  | nil => exact ok []
  | cons a l ih =>
    have hl := ih fun a ha => h a (List.mem_cons_of_mem _ ha)
    simp [List.mapM_cons, h a List.mem_cons_self, hl]

theorem imp {x : Except ε α} {E' : ε → Prop} (hx : FailsOnly x E) (h : ∀ e, E e → E' e) : FailsOnly x E' :=
  fun e he => h e (hx e he)

end FailsOnly

/-- two results that fail with one error, or have values that are related -/
def Related {ε α β : Type} (R : α → β → Prop) (x : Except ε α) (y : Except ε β) : Prop :=
  (∃ e, x = .error e ∧ y = .error e) ∨ ∃ a b, x = .ok a ∧ y = .ok b ∧ R a b

namespace Related

variable {ε α β γ δ : Type} {R : α → β → Prop}

theorem ok {a : α} {b : β} (h : R a b) : Related R (.ok a : Except ε α) (.ok b) :=
  Or.inr ⟨a, b, rfl, rfl, h⟩

theorem error (R : α → β → Prop) (e : ε) : Related R (.error e) (.error e) :=
  Or.inl ⟨e, rfl, rfl⟩

theorem bind {S : γ → δ → Prop} {x : Except ε α} {y : Except ε β} {f : α → Except ε γ} {g : β → Except ε δ}
    (h : Related R x y) (hfg : ∀ a b, R a b → Related S (f a) (g b)) : Related S (x >>= f) (y >>= g) := by
  rcases h with ⟨e, rfl, rfl⟩ | ⟨a, b, rfl, rfl, hab⟩
  · exact error S e
  · exact hfg a b hab

theorem refl (x : Except ε α) : Related Eq x x := by
  cases x with
  | error e => exact error Eq e
  | ok a => exact ok rfl

theorem eq {x y : Except ε α} (h : Related Eq x y) : x = y := by
  rcases h with ⟨e, rfl, rfl⟩ | ⟨a, _, rfl, rfl, rfl⟩
  · rfl
  · rfl

/-- after one step that both have in common -/
theorem after {S : γ → δ → Prop} {f : α → Except ε γ} {g : α → Except ε δ} (h : ∀ a, Related S (f a) (g a))
    (x : Except ε α) : Related S (x >>= f) (x >>= g) := by
  cases x with
  | error e => exact error S e
  | ok a => exact h a

end Related

end MetricQuery
