/-
What validation looks at.

A call that passes gives each required parameter, by name or by place (`Description.hasArg_of_validate`). Of the
arguments validation sees no more than their number and which of the required parameters are given
(`Description.validate_congr`).
-/
import Mathlib
import MetricQuery.Call.Description

namespace MetricQuery.Description

open Target (Call)

/-- the first required parameter that is not given, searched for among the parameters with their places -/
theorem missingFrom_eq (c : Call) (start : Nat) (params : List Param) :
    missingFrom c start params =
      ((params.zipIdx start).find? fun q => q.1.required && !c.hasArg q.1.name q.2).map Prod.fst := by
  induction params generalizing start with
  | nil => rfl
  | cons p rest ih =>
    rw [missingFrom, List.zipIdx_cons, List.find?_cons, ih]
    cases p.required && !c.hasArg p.name start <;> rfl

/-- **A call that passes gives every required parameter.** -/
theorem hasArg_of_validate {d : Description} {c : Call} (h : d.validate c = .ok ()) {i : Nat} {p : Param}
    (hp : d.params[i]? = some p) (hrequired : p.required = true) : c.hasArg p.name i = true := by
  unfold validate at h
  split at h
  · cases h
  · split at h
    · cases h
    · rename_i hnone
      rw [missingFrom_eq, Option.map_eq_none_iff, List.find?_eq_none] at hnone
      simpa [hrequired] using hnone (p, i) (List.mk_mem_zipIdx_iff_getElem?.2 hp)

/-- calls of one function with as many arguments by place and the same required parameters pass or fail alike -/
theorem validate_congr {d : Description} {c c' : Call} (hfunction : c'.function = c.function)
    (hcount : c'.args.length = c.args.length)
    (h : ∀ i p, d.params[i]? = some p → p.required = true → c'.hasArg p.name i = c.hasArg p.name i) :
    d.validate c' = d.validate c := by
  have hmissing : missingFrom c' 0 d.params = missingFrom c 0 d.params := by
    rw [missingFrom_eq, missingFrom_eq]
    refine congrArg _ (List.find?_congr fun q hq => ?_)
    cases hrequired : q.1.required with
    | false => rfl
    | true => rw [h q.2 q.1 (List.mem_zipIdx_iff_getElem?.1 hq) hrequired]
  unfold validate
  rw [hfunction, hcount, hmissing]

end MetricQuery.Description
