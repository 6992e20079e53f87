/-
The metric path of a series that calls are wrapped around.

A computed series is named after the call that made it: the name of a function, the name of its operand between
parentheses, and often more behind that. The look through such a name starts over at the parenthesis, and from there on
it goes as it does through the name of the operand alone, to the place where it stops in that, or else to what stands
behind it.

- `metricScan_append`: going through a text in two pieces. What counts of the first piece for the second is only how many
  braces it leaves open, and whether the look comes to its end at all (`openBehind`).
- `metricIn_wrapped`: calls around a name change neither the path that is found in it nor what a series is grouped by.
-/
import MetricQuery.Proofs.Target.InnerMetric

namespace MetricQuery

open Target

/-! ## Going through a text in pieces -/

/-- how many braces are open behind a text with `braces` of them open in front of it, if the look through a name does not
stop inside the text -/
def openBehind (braces : Nat) : List Char → Option Nat
  | [] => some braces
  | c :: r =>
    if isNameChar c then openBehind braces r
    else if c = '{' then openBehind (braces + 1) r
    else if c = '}' ∧ 0 < braces then openBehind (braces - 1) r
    else if c = ',' ∧ 0 < braces then openBehind braces r
    else if c = '(' then openBehind braces r
    else none

/-- **A text is gone through piece by piece**, and where the look stops inside the first piece the second does not count. -/
theorem metricScan_append (braces : Nat) (read s t : List Char) :
    metricScan braces read (s ++ t) =
      match openBehind braces s with
      | some n => metricScan n (metricScan braces read s) t
      | none => metricScan braces read s := by
  induction s generalizing braces read with
  | nil => rfl
  | cons c r ih =>
    rw [List.cons_append, metricScan, metricScan, openBehind]
    split_ifs
    · exact ih braces (read ++ [c])
    · exact ih (braces + 1) (read ++ [c])
    · exact ih (braces - 1) (read ++ [c])
    · exact ih braces (read ++ [c])
    · exact ih braces []
    · rfl

theorem openBehind_append (braces : Nat) (s t : List Char) :
    openBehind braces (s ++ t) = (openBehind braces s).bind fun n => openBehind n t := by
  induction s generalizing braces with
  | nil => rfl
  | cons c r ih =>
    rw [List.cons_append, openBehind, openBehind]
    split_ifs
    · exact ih braces
    · exact ih (braces + 1)
    · exact ih (braces - 1)
    · exact ih braces
    · exact ih braces
    · rfl

theorem openBehind_of_isNameChar {f : List Char} (h : ∀ c ∈ f, isNameChar c = true) (braces : Nat) :
    openBehind braces f = some braces := by
  induction f with
  | nil => rfl
  | cons c f ih =>
    obtain ⟨hc, hf⟩ := List.forall_mem_cons.1 h
    rw [openBehind, if_pos hc, ih hf]

/-! ## Calls around a name -/

/-- the look through a name stops inside it, or comes to its end with no brace open -/
def Settled (name : List Char) : Prop :=
  openBehind 0 name = none ∨ openBehind 0 name = some 0

instance (name : List Char) : Decidable (Settled name) := by unfold Settled; infer_instance

/-- what stands behind a name inside of a call: more arguments, the end of the call, tags or a space -/
def StandsBehind (tail : List Char) : Prop :=
  ∃ c ∈ [',', ')', ';', ' '], tail.head? = some c

/-- there the look through a name stops -/
theorem StandsBehind.stops {tail : List Char} (h : StandsBehind tail) :
    openBehind 0 tail = none ∧ ∀ read, metricScan 0 read tail = read := by
  obtain ⟨c, hc, hhead⟩ := h
  obtain ⟨r, rfl⟩ := List.head?_eq_some_iff.1 hhead
  simp only [List.mem_cons, List.not_mem_nil, or_false] at hc
  rcases hc with rfl | rfl | rfl | rfl <;> exact ⟨rfl, metricScan_behind rfl (by rintro _ ⟨⟩)⟩

section Call

variable {f name tail : List Char} (hf : ∀ c ∈ f, isNameChar c = true) (htail : StandsBehind tail)
include hf

/-- behind the parenthesis of a call nothing is left of the name of its function -/
theorem metricScan_call (t : List Char) : metricScan 0 [] (f ++ '(' :: t) = metricScan 0 [] t := by
  rw [metricScan_append, openBehind_of_isNameChar hf]
  rfl

theorem openBehind_call (t : List Char) : openBehind 0 (f ++ '(' :: t) = openBehind 0 t := by
  rw [openBehind_append, openBehind_of_isNameChar hf]
  rfl

include htail

/-- **What is found in a name is found in a call around it.** -/
theorem Settled.metricScan_eq (hname : Settled name) :
    metricScan 0 [] (f ++ '(' :: (name ++ tail)) = metricScan 0 [] name := by
  calc metricScan 0 [] (f ++ '(' :: (name ++ tail))
      = metricScan 0 [] (name ++ tail) := metricScan_call hf (name ++ tail)
    _ = metricScan 0 [] name := by
      rw [metricScan_append]
      rcases hname with hstop | hend
      · rw [hstop]
      · rw [hend]
        exact htail.stops.2 _

/-- the look through a call stops at the latest behind the name inside it -/
theorem Settled.call (hname : Settled name) : Settled (f ++ '(' :: (name ++ tail)) := by
  refine Or.inl ?_
  rw [openBehind_call hf, openBehind_append]
  rcases hname with hstop | hend
  · rw [hstop]
    rfl
  · rw [hend]
    exact htail.stops.1

end Call

/-- a name inside of any number of calls, one around the other -/
inductive Wraps (name : String) : String → Prop
  | bare : Wraps name name
  | call {inner f tail : String} (hf : ∀ c ∈ f.toList, isNameChar c = true) (htail : StandsBehind tail.toList)
    (h : Wraps name inner) : Wraps name (f ++ "(" ++ inner ++ tail)

theorem toList_call (f inner tail : String) :
    (f ++ "(" ++ inner ++ tail).toList = f.toList ++ '(' :: (inner.toList ++ tail.toList) := by
  simp

/-- inside of calls a name has the path that is found in it alone, and the look through them stops as well -/
theorem Wraps.settled {name outer : String} (h : Wraps name outer) (hname : Settled name.toList) :
    Settled outer.toList ∧ metricIn outer = metricIn name := by
  induction h with
  | bare => exact ⟨hname, rfl⟩
  | @call inner f tail hf htail _ ih =>
    obtain ⟨hinner, hpath⟩ := ih
    constructor
    · rw [toList_call]
      exact hinner.call hf htail
    · calc metricIn (f ++ "(" ++ inner ++ tail)
          = metricIn inner := by rw [metricIn, toList_call, hinner.metricScan_eq hf htail, metricIn]
        _ = metricIn name := hpath

namespace Series

/-- a series is grouped by the path in its name and by its tags -/
theorem groupKey_congr {s t : Series} (hpath : metricIn t.name = metricIn s.name) (htags : t.tags = s.tags)
    (selectors : List Selector) : t.groupKey selectors = s.groupKey selectors := by
  rw [groupKey, groupKey, hpath, htags]

end Series

/-- **Calls around a name change neither its path nor a group.** Where the look through a name stops inside it, or comes
to its end with no brace open, the path that is found in it is also found in a call around it, whatever the function and
what stands behind the name. So a series that was renamed by any number of such calls, and has its tags still, has the
group key of the series it was made from, whatever nodes and tags it is grouped by. -/
theorem metricIn_wrapped {name : String} (hname : Settled name.toList) :
    (∀ f tail : String, (∀ c ∈ f.toList, isNameChar c = true) → StandsBehind tail.toList →
      metricIn (f ++ "(" ++ name ++ tail) = metricIn name) ∧
    ∀ outer, Wraps name outer → ∀ s t : Series, s.name = name → t.name = outer → t.tags = s.tags →
      ∀ selectors, t.groupKey selectors = s.groupKey selectors := by
  constructor
  · intro f tail hf htail
    exact ((Wraps.call hf htail .bare).settled hname).2
  · rintro _ hwraps s t rfl rfl htags selectors
    exact Series.groupKey_congr (hwraps.settled hname).2 htags selectors

/-- a brace that is open at the end of a name takes the comma behind it into the path -/
example : metricIn "a.\x7bb" = "a.\x7bb" ∧ metricIn "f(a.\x7bb,2)" = "a.\x7bb,2" := by decide +kernel

/-- a name with a group of alternatives inside two calls, with a tag behind it in the inner one and a space in the outer -/
theorem metricIn_wrapped_twice :
    let name := "servers.\x7ba,b\x7d.cpu"
    let inner := "scale" ++ "(" ++ name ++ ";dc=east,2)"
    let outer := "alias" ++ "(" ++ inner ++ " ,'x')"
    let s := Series.ofSamples name [1] 60 0
    outer = "alias(scale(servers.\x7ba,b\x7d.cpu;dc=east,2) ,'x')" ∧ Settled name.toList ∧
      metricIn inner = metricIn name ∧ metricIn name = name ∧ Wraps name outer ∧
      (s.renamed outer).groupKey [.node (-1), .tag "name"] = s.groupKey [.node (-1), .tag "name"] := by
  intro name inner outer s
  have hname : Settled name.toList := by decide +kernel
  have hscale : ∀ c ∈ "scale".toList, isNameChar c = true := List.all_eq_true.1 (by decide +kernel)
  have halias : ∀ c ∈ "alias".toList, isNameChar c = true := List.all_eq_true.1 (by decide +kernel)
  have hinner : StandsBehind ";dc=east,2)".toList := ⟨';', by decide, by decide⟩
  have houter : Wraps name outer := .call halias ⟨' ', by decide, by decide⟩ (.call hscale hinner .bare)
  obtain ⟨hcall, hkeys⟩ := metricIn_wrapped hname
  exact ⟨by decide +kernel, hname, hcall "scale" ";dc=east,2)" hscale hinner, by decide +kernel, houter,
    hkeys outer houter s (s.renamed outer) rfl rfl rfl [.node (-1), .tag "name"]⟩

end MetricQuery
