/-
Numbers that are kept in 64 bits.

Times, steps and counts are kept in 64 bits, and little of the arithmetic on them is checked. The functions here are told
with exact numbers. Beside one of them stands the same function with every number on the way checked, its name ending
in 64, which comes to nothing where a number does not fit. Of such a function two things are said:

- `Checks`: whatever it comes to is what the exact function comes to. This holds without any bounds, and goes through a
  chain of steps.
- It does come to something where there is room. All steps of a function take place in one window of time, so it is
  enough that the ends of this window and its width fit (`Window.Fits64`).
-/
import Mathlib
import MetricQuery.Series.Basic

namespace MetricQuery

/-! ## Checked computations -/

/-- `x` is `a` computed with its numbers checked: it comes to `a` if to anything -/
def Checks {α : Type} (x : Option α) (a : α) : Prop :=
  ∀ b, x = some b → b = a

namespace Checks

variable {α β : Type}

theorem some (a : α) : Checks (some a) a :=
  fun _ h => (Option.some.inj h).symm

theorem none (a : α) : Checks (none : Option α) a :=
  fun _ h => nomatch h

theorem checked (n : Int) : Checks (Time.checked n) n := by
  unfold Time.checked
  split
  · exact some n
  · exact none n

theorem bind {x : Option α} {a : α} {f : α → Option β} {b : β} (hx : Checks x a) (hf : Checks (f a) b) :
    Checks (x >>= f) b := by
  intro c hc
  obtain ⟨a', ha', hc⟩ := Option.bind_eq_some_iff.1 hc
  rw [hx a' ha'] at hc
  exact hf c hc

theorem ite {p : Prop} [Decidable p] {x y : Option α} {a b : α} (hx : p → Checks x a) (hy : ¬p → Checks y b) :
    Checks (if p then x else y) (if p then a else b) := by
  by_cases h : p
  · rw [if_pos h, if_pos h]
    exact hx h
  · rw [if_neg h, if_neg h]
    exact hy h

theorem mapM {f : α → Option β} {g : α → β} {l : List α} (h : ∀ a ∈ l, Checks (f a) (g a)) :
    Checks (l.mapM f) (l.map g) := by
  induction l with
  | nil => exact some []
  | cons a l ih =>
    rw [List.mapM_cons]
    refine (h a List.mem_cons_self).bind ?_
    exact (ih fun b hb => h b (List.mem_cons_of_mem a hb)).bind (some _)

theorem foldlM {f : β → α → Option β} {g : β → α → β} {l : List α} (h : ∀ b, ∀ a ∈ l, Checks (f b a) (g b a)) (b : β) :
    Checks (l.foldlM f b) (l.foldl g b) := by
  induction l generalizing b with
  | nil => exact some b
  | cons a l ih =>
    rw [List.foldlM_cons, List.foldl_cons]
    exact (h b a List.mem_cons_self).bind (ih (fun b' a' ha' => h b' a' (List.mem_cons_of_mem a ha')) (g b a))

end Checks

/-- a step that comes to a value, and the steps after it -/
theorem bind_checked {α β : Type} {x : Option α} {a : α} (hx : x = some a) (f : α → Option β) : (x >>= f) = f a := by
  subst hx
  rfl

theorem mapM_eq_some {α β : Type} {f : α → Option β} {g : α → β} {l : List α} (h : ∀ a ∈ l, f a = some (g a)) :
    l.mapM f = some (l.map g) := by
  induction l with
  | nil => rfl
  | cons a l ih =>
    rw [List.mapM_cons, h a List.mem_cons_self, ih fun b hb => h b (List.mem_cons_of_mem a hb)]
    rfl

theorem foldlM_eq_some {α β : Type} {f : β → α → Option β} {g : β → α → β} {l : List α}
    (h : ∀ b, ∀ a ∈ l, f b a = some (g b a)) (b : β) : l.foldlM f b = some (l.foldl g b) := by
  induction l generalizing b with
  | nil => rfl
  | cons a l ih =>
    rw [List.foldlM_cons, h b a List.mem_cons_self]
    exact ih (fun b' a' ha' => h b' a' (List.mem_cons_of_mem a ha')) (g b a)

/-! ## Numbers that fit -/

namespace Series

theorem inRange_iff {n : Int} : Time.inRange n = true ↔ Time.least ≤ n ∧ n ≤ Time.greatest := by
  simp [Time.inRange]

theorem checked_eq_some {n : Int} (hleast : Time.least ≤ n) (hgreatest : n ≤ Time.greatest) :
    Time.checked n = some n := by
  rw [Time.checked, if_pos (inRange_iff.2 ⟨hleast, hgreatest⟩)]

theorem least_le_of_nonneg {n : Int} (h : 0 ≤ n) : Time.least ≤ n := by
  have hleast : Time.least ≤ 0 := by decide
  omega

end Series

namespace Time

theorem least_le_neg_greatest : least ≤ -greatest := by
  decide

/-- a number no farther from zero than one that fits -/
theorem checked_of_le {n bound : Int} (hbound : bound ≤ greatest) (hlow : -bound ≤ n) (hhigh : n ≤ bound) :
    checked n = some n := by
  have hleast := least_le_neg_greatest
  exact Series.checked_eq_some (by omega) (by omega)

theorem checked_of_nonneg {n : Int} (h : 0 ≤ n) (hgreatest : n ≤ greatest) : checked n = some n :=
  checked_of_le hgreatest (by omega) le_rfl

/-- quotient and remainder of a number that fits -/
theorem checked_divMod {n d : Int} (hd : 0 < d) (hn : 0 ≤ n) (hgreatest : n ≤ greatest) :
    checked (n / d) = some (n / d) ∧ checked (n % d) = some (n % d) := by
  have hquotient := Int.ediv_nonneg hn hd.le
  have hquotient' := Int.ediv_le_self d hn
  have hremainder := Int.emod_nonneg n hd.ne'
  have hremainder' : n % d ≤ n := by
    have hsplit := Int.mul_ediv_add_emod n d
    have hmul := Int.mul_nonneg hd.le hquotient
    omega
  exact ⟨checked_of_le hgreatest (by omega) hquotient', checked_of_le hgreatest (by omega) hremainder'⟩

/-- a quotient rounded toward zero, with its numbers checked; there is none by zero -/
def quotient64 (a b : Int) : Option Int :=
  if b = 0 then none else checked (a.tdiv b)

theorem checks_quotient64 (a b : Int) : Checks (quotient64 a b) (a.tdiv b) := by
  unfold quotient64
  split
  · exact .none _
  · exact .checked _

theorem quotient64_eq {a b : Int} (hb : 0 < b) (ha : 0 ≤ a) (hgreatest : a ≤ greatest) :
    quotient64 a b = some (a.tdiv b) := by
  rw [quotient64, if_neg hb.ne', Int.tdiv_eq_ediv_of_nonneg ha]
  exact (checked_divMod hb ha hgreatest).1

/-- a window whose ends and width fit in 64 bits -/
structure Window.Fits64 (w : Window) : Prop where
  start : least ≤ w.start
  stop : w.stop ≤ greatest
  width : w.stop - w.start ≤ greatest

/-- a time from one time of the window to a later one -/
theorem Window.Fits64.checked_sub {w : Window} (hw : w.Fits64) {t u : Int} (ht : w.start ≤ t) (hu : u ≤ w.stop)
    (hle : t ≤ u) : checked (u - t) = some (u - t) := by
  have hwidth := hw.width
  exact checked_of_nonneg (by omega) (by omega)

/-- a time of the window -/
theorem Window.Fits64.checked_time {w : Window} (hw : w.Fits64) {t : Int} (hstart : w.start ≤ t) (hstop : t ≤ w.stop) :
    checked t = some t :=
  Series.checked_eq_some (hw.start.trans hstart) (hstop.trans hw.stop)

end Time

/-! ## Series -/

namespace Series

/-- a series whose grid is kept in 64 bits, and the time that it covers as well -/
structure Fits64 (s : Series) : Prop where
  start : Time.inRange s.start
  stop : Time.inRange s.stop
  step : Time.inRange s.step
  span : Time.inRange (s.stop - s.start)

theorem Fits64.span_le {s : Series} (hs : s.Consistent) (hfits : s.Fits64) :
    s.values.length * s.step ≤ Time.greatest := by
  rw [← hs.2]
  exact (inRange_iff.1 hfits.span).2

/-- the window that a series covers -/
def window (s : Series) : Time.Window := ⟨s.start, s.stop⟩

theorem Fits64.window {s : Series} (hfits : s.Fits64) : s.window.Fits64 :=
  ⟨(inRange_iff.1 hfits.start).1, (inRange_iff.1 hfits.stop).2, (inRange_iff.1 hfits.span).2⟩

theorem Consistent.start_le_stop {s : Series} (hs : s.Consistent) : s.start ≤ s.stop := by
  have hlength := hs.2
  have hnonneg := Int.mul_nonneg (Int.natCast_nonneg s.values.length) hs.1.le
  omega

/-- the time that is a number of steps behind another, with its numbers checked -/
def after64 (start step : Int) (count : Nat) : Option Int := do
  let count ← Time.checked count
  let width ← Time.checked (count * step)
  Time.checked (start + width)

/-- `withValues` with its numbers checked -/
def withValues64 (s : Series) (values : List Float) : Option Series := do
  let stop ← after64 s.start s.step values.length
  some { s with values := values, stop := stop }

/-- other samples from another time on, with its numbers checked -/
def movedTo64 (s : Series) (start : Int) (values : List Float) : Option Series := do
  -- the end of the shell, which is moved before it has samples
  let _ ← after64 start s.step 0
  let stop ← after64 start s.step values.length
  some { s with values := values, start := start, stop := stop }

/-- `onGrid` with its numbers checked -/
def onGrid64 (s : Series) (start step : Int) (values : List Float) : Option Series := do
  -- the end of the shell, which is moved before it has samples
  let _ ← after64 start s.step 0
  let stop ← after64 start step values.length
  some { s with values := values, start := start, step := step, stop := stop }

/-- the samples with their times, these with their numbers checked -/
def samples64 (s : Series) : Option (List (Int × Float)) :=
  s.values.zipIdx.mapM fun (v, i) => do
    let t ← after64 s.start s.step i
    some (t, v)

theorem checks_after64 (start step : Int) (count : Nat) : Checks (after64 start step count) (start + count * step) :=
  (Checks.checked _).bind <| (Checks.checked _).bind <| .checked _

theorem checks_withValues64 (s : Series) (values : List Float) : Checks (s.withValues64 values) (s.withValues values) :=
  (checks_after64 _ _ _).bind <| .some _

theorem checks_onGrid64 (s : Series) (start step : Int) (values : List Float) :
    Checks (s.onGrid64 start step values) (s.onGrid start step values) :=
  (checks_after64 _ _ _).bind <| (checks_after64 _ _ _).bind <| .some _

theorem le_mul_step {step : Int} (hstep : 0 < step) (count : Nat) : (count : Int) ≤ count * step := by
  have hmul : (count : Int) * 1 ≤ count * step := Int.mul_le_mul_of_nonneg_left (by omega) (Int.natCast_nonneg count)
  omega

theorem checked_count {step : Int} {count : Nat} (hstep : 0 < step) (hwidth : count * step ≤ Time.greatest) :
    Time.checked count = some (count : Int) := by
  have hcount := le_mul_step hstep count
  exact Time.checked_of_nonneg (Int.natCast_nonneg count) (by omega)

theorem after64_eq {start step : Int} {count : Nat} (hstep : 0 < step) (hstart : Time.least ≤ start)
    (hwidth : count * step ≤ Time.greatest) (hstop : start + count * step ≤ Time.greatest) :
    after64 start step count = some (start + count * step) := by
  have hnonneg : 0 ≤ (count : Int) * step := Int.mul_nonneg (Int.natCast_nonneg count) hstep.le
  unfold after64
  rw [bind_checked (checked_count hstep hwidth), bind_checked (Time.checked_of_nonneg hnonneg hwidth)]
  exact checked_eq_some (by omega) hstop

theorem movedTo64_eq {s : Series} {start : Int} {values : List Float} (hstep : 0 < s.step) (hstart : Time.least ≤ start)
    (hwidth : values.length * s.step ≤ Time.greatest) (hstop : start + values.length * s.step ≤ Time.greatest) :
    s.movedTo64 start values = some ((s.withStart start).withValues values) := by
  have hnonneg : 0 ≤ (values.length : Int) * s.step := Int.mul_nonneg (Int.natCast_nonneg _) hstep.le
  have hvoid : after64 start s.step 0 = some (start + (0 : Nat) * s.step) :=
    after64_eq hstep hstart (by simp; decide) (by simp; omega)
  unfold movedTo64
  rw [hvoid, after64_eq hstep hstart hwidth hstop]
  rfl

theorem onGrid64_eq {s : Series} {start step : Int} {values : List Float} (hold : 0 < s.step) (hstep : 0 < step)
    (hstart : Time.inRange start) (hwidth : values.length * step ≤ Time.greatest)
    (hstop : start + values.length * step ≤ Time.greatest) :
    s.onGrid64 start step values = some (s.onGrid start step values) := by
  obtain ⟨hleast, hgreatest⟩ := inRange_iff.1 hstart
  have hvoid : after64 start s.step 0 = some (start + (0 : Nat) * s.step) :=
    after64_eq hold hleast (by simp; decide) (by simpa using hgreatest)
  unfold onGrid64
  rw [hvoid, after64_eq hstep hleast hwidth hstop]
  rfl

theorem Fits64.samples64_eq {s : Series} (hs : s.Consistent) (hfits : s.Fits64) : s.samples64 = some s.samples := by
  refine mapM_eq_some fun p hp => ?_
  obtain ⟨v, i⟩ := p
  have hi : i < s.values.length := (List.getElem?_eq_some_iff.1 (List.mk_mem_zipIdx_iff_getElem?.1 hp)).1
  have hwidth := hfits.span_le hs
  have hbelow : (i : Int) * s.step ≤ s.values.length * s.step := Int.mul_le_mul_of_nonneg_right (by omega) hs.1.le
  have hlength := hs.2
  have hstop := (inRange_iff.1 hfits.stop).2
  show (do let t ← after64 s.start s.step i; some (t, v)) = _
  rw [after64_eq hs.1 (inRange_iff.1 hfits.start).1 (by omega) (by omega)]
  rfl

section Window

variable {w : Time.Window} (hw : w.Fits64)
include hw

/-- a grid inside a window that fits -/
theorem onGrid64_of_window {s : Series} {start step : Int} {values : List Float} (hold : 0 < s.step) (hstep : 0 < step)
    (hstart : w.start ≤ start) (hstop : start + values.length * step ≤ w.stop) :
    s.onGrid64 start step values = some (s.onGrid start step values) := by
  obtain ⟨hleast, hgreatest, hwidth⟩ := hw
  have hnonneg : 0 ≤ (values.length : Int) * step := Int.mul_nonneg (Int.natCast_nonneg _) hstep.le
  exact onGrid64_eq hold hstep (inRange_iff.2 (by omega)) (by omega) (by omega)

/-- other samples inside a window that fits -/
theorem withValues64_of_window {s : Series} {values : List Float} (hstep : 0 < s.step) (hstart : w.start ≤ s.start)
    (hstop : s.start + values.length * s.step ≤ w.stop) : s.withValues64 values = some (s.withValues values) := by
  obtain ⟨hleast, hgreatest, hwidth⟩ := hw
  rw [withValues64, after64_eq hstep (by omega) (by omega) (by omega)]
  rfl

end Window

end Series

end MetricQuery
