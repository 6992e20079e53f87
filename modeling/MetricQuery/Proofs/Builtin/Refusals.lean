/-
What functions refuse a call with.

An argument that is absent, of the wrong kind or out of range is refused with an error of its own; none of the readers
of arguments, windows and reducers ever reports a request that was not fetched, and that an argument is missing is only
reported by those that read it by place (`EvalError.IsRefusal`). The lemmas are simp lemmas over `Refuses`, so that
`simp` follows a chain of readers to its end.
-/
import MetricQuery.Builtin.All
import MetricQuery.Proofs.Engine.Regime

namespace MetricQuery

open Target (Expr Call)
open Time (Window)
open Arguments

/-- an error about the arguments of a call as such: never that a request was not fetched, and that an argument is missing
only where a call that reads some places does not have one of them -/
@[simp] def EvalError.IsRefusal (c : Call) (places : List Nat) : EvalError → Prop
  | .missingData _ => False
  | .missingArgument target param => target = c.function ∧ ∃ i ∈ places, c.args.length ≤ i ∧ param = placeName i
  | _ => True

/-- a result that is no error but about the arguments of a call that reads some places -/
abbrev Refuses {α : Type} (c : Call) (places : List Nat) (x : Except EvalError α) : Prop :=
  FailsOnly x (EvalError.IsRefusal c places)

theorem EvalError.IsRefusal.ne_missingData {c : Call} {places : List Nat} {e : EvalError} (h : e.IsRefusal c places)
    (request : Request) : e ≠ .missingData request := by
  rintro rfl
  exact h

namespace Refuses

variable {c : Call} {places : List Nat}

theorem neverMissing {α : Type} {x : Except EvalError α} (h : Refuses c places x) : NeverMissing x :=
  neverMissing_iff.2 (h.imp fun _ he => he.ne_missingData)

/-! ## One argument -/

@[simp] theorem ofInterval {α : Type} (x : Except Time.IntervalError α) :
    Refuses c places (x.mapError EvalError.ofInterval) := by
  cases x with
  | error e => cases e <;> simp [Except.mapError, EvalError.ofInterval]
  | ok a => simp [Except.mapError]

@[simp] theorem asString (param : String) (e : Expr) : Refuses c places (asString c param e) := by
  cases e <;> simp [Arguments.asString, badType]

@[simp] theorem asFloat (param : String) (e : Expr) : Refuses c places (asFloat c param e) := by
  cases e with
  | string value quote =>
    simp only [Arguments.asFloat, badType]
    split <;> simp
  | _ => simp [Arguments.asFloat, badType]

@[simp] theorem asInt (param : String) (e : Expr) : Refuses c places (asInt c param e) := by
  simp only [Arguments.asInt, badType, FailsOnly.bind_iff, asFloat, true_and]
  intro x _
  split <;> simp

@[simp] theorem asBool (param : String) (e : Expr) : Refuses c places (asBool c param e) := by
  cases e with
  | string value quote =>
    simp only [Arguments.asBool, badType]
    split
    · simp
    · split <;> simp
  | _ => simp [Arguments.asBool, badType]

@[simp] theorem asInterval (param : String) (sign : Int) (e : Expr) :
    Refuses c places (asInterval c param sign e) := by
  cases e with
  | number value literal =>
    simp only [Arguments.asInterval]
    split <;> simp
  | _ => simp [Arguments.asInterval, badType]

/-! ## Arguments of a call -/

theorem at? {index : Nat} (h : index ∈ places) : Refuses c places (c.at? index) := by
  unfold Call.at?
  cases harg : c.arg? index with
  | some e => simp
  | none => simpa using ⟨index, h, List.getElem?_eq_none_iff.1 harg, rfl⟩

theorem stringAt {index : Nat} (h : index ∈ places) : Refuses c places (c.stringAt index) := by
  simp [Call.stringAt, at? h]

theorem intervalAt {index : Nat} (h : index ∈ places) (sign : Int) : Refuses c places (c.intervalAt index sign) := by
  simp [Call.intervalAt, at? h]

theorem orDefault {α : Type} (key : String) (index : Nat) {read : Expr → Except EvalError α} (default : α)
    (h : ∀ e, Refuses c places (read e)) : Refuses c places (c.orDefault key index read default) := by
  unfold Call.orDefault
  split
  · exact h _
  · simp

@[simp] theorem stringOr (key : String) (index : Nat) (default : String) :
    Refuses c places (c.stringOr key index default) :=
  orDefault key index default (asString key)

@[simp] theorem floatOr (key : String) (index : Nat) (default : Float) :
    Refuses c places (c.floatOr key index default) :=
  orDefault key index default (asFloat key)

@[simp] theorem intOr (key : String) (index : Nat) (default : Int) : Refuses c places (c.intOr key index default) :=
  orDefault key index default (asInt key)

@[simp] theorem boolOr (key : String) (index : Nat) (default : Bool) :
    Refuses c places (c.boolOr key index default) :=
  orDefault key index default (asBool key)

@[simp] theorem intervalOr (key : String) (index : Nat) (sign default : Int) :
    Refuses c places (c.intervalOr key index sign default) :=
  orDefault key index default (asInterval key sign)

@[simp] theorem float? (key : String) (index : Nat) : Refuses c places (c.float? key index) :=
  orDefault key index none fun e => by simp

@[simp] theorem string? (key : String) (index : Nat) : Refuses c places (c.string? key index) :=
  orDefault key index none fun e => by simp

@[simp] theorem intsFrom (index : Nat) : Refuses c places (c.intsFrom index) :=
  FailsOnly.mapM fun a _ => asInt (placeName a.2) a.1

@[simp] theorem asSelector (param : String) (e : Expr) : Refuses c places (Call.asSelector c param e) := by
  cases e <;> simp [Call.asSelector]

@[simp] theorem selectorsFrom (index : Nat) : Refuses c places (c.selectorsFrom index) :=
  FailsOnly.mapM fun a _ => asSelector (placeName a.2) a.1

end Refuses

@[simp] theorem NeverMissing.validate (d : Description) (c : Call) : NeverMissing (d.validate c) := by
  unfold Description.validate
  split
  · simp
  · split <;> simp

/-! ## Windows, intervals and reducers -/

namespace Refuses

open Builtin

variable {c : Call} {places : List Nat}

@[simp] theorem reducerNamed (name : String) : Refuses c places (reducerNamed name) := by
  unfold Builtin.reducerNamed
  split <;> simp

@[simp] theorem positive (seconds : Int) : Refuses c places (positive c seconds) := by
  unfold Builtin.positive
  split <;> simp

@[simp] theorem moved (t offset : Int) : Refuses c places (moved t offset) := by
  unfold Builtin.moved
  split <;> simp

/-- the interval of a call is read by its place -/
theorem intervalOf (h : 1 ∈ places) : Refuses c places (intervalOf c) := by
  simp [Builtin.intervalOf, intervalAt h]

@[simp] theorem grid (start stop interval : Int) : Refuses c places (grid start stop interval) := by
  unfold Builtin.grid
  dsimp only
  split <;> simp

@[simp] theorem nodeSelector : Refuses c places (nodeSelector c) := by
  unfold Builtin.nodeSelector
  split <;> simp

@[simp] theorem reachOfCall : Refuses c places (Reach.ofCall c) := by
  unfold Reach.ofCall
  split
  · simp
  · simp only [FailsOnly.bind_iff, intOr, true_and]
    intro n _
    split <;> simp

@[simp] theorem widen (r : Reach) (w : Window) : Refuses c places (r.widen w) := by
  cases r <;> simp [Reach.widen]

@[simp] theorem reachBack (n step t : Int) : Refuses c places (reachBack n step t) := by
  unfold Builtin.reachBack
  split <;> simp

@[simp] theorem settingOfCall (k : Forecast.Kind) : Refuses c places (Forecast.Setting.ofCall k c) := by
  simp only [Forecast.Setting.ofCall, Forecast.bootstrapOf, Forecast.seasonOf, FailsOnly.bind_iff]
  refine ⟨by simp, fun _ _ => ⟨by simp, fun _ _ => ?_⟩⟩
  split <;> simp

end Refuses

end MetricQuery
