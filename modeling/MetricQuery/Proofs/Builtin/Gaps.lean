/-
Gaps closed by the sample in front of them.

`keepLast` counts the missing samples behind the last present one and writes them when the gap ends, so what a sample
becomes is settled only some samples later. Told by places there is no delay: a missing sample becomes the one present
last before it, if the whole gap that it is in is short enough (`fill?`).

Both sides go by the blocks of a list (`Block.induct`): a missing sample in front, or a present one with the gap behind
it. A block says all about its samples, since the next one begins with a present sample and no gap reaches over that
(`fill?_append`). For the same reason a second run finds the gaps that the first one left, and no others.
-/
import MetricQuery.Builtin.Transform
import MetricQuery.Proofs.Result

namespace MetricQuery.Builtin

/-! ## Blocks -/

/-- a present sample, the gap behind it, and what is behind the gap -/
structure Block (x : Float) (gap tail : List Float) : Prop where
  present : x.isNaN = false
  missing : ∀ y ∈ gap, y.isNaN = true
  ends : ∀ y ∈ tail.head?, y.isNaN = false

/-- induction on the samples of a list by missing ones in front, and by blocks behind them -/
theorem Block.induct {motive : List Float → Prop} (nil : motive [])
    (missing : ∀ x xs, x.isNaN = true → motive xs → motive (x :: xs))
    (block : ∀ x gap tail, Block x gap tail → motive tail → motive (x :: gap ++ tail)) (xs : List Float) :
    motive xs := by
  induction hn : xs.length using Nat.strong_induction_on generalizing xs with
  | _ n ih =>
    cases xs with
    | nil => exact nil
    | cons x xs =>
      rw [List.length_cons] at hn
      cases hx : x.isNaN with
      | true => exact missing x xs hx (ih _ (by omega) xs rfl)
      | false =>
        have hends : ∀ y ∈ (xs.dropWhile Float.isNaN).head?, y.isNaN = false := by
          intro y hy
          have hnot := List.head?_dropWhile_not Float.isNaN xs
          rw [Option.mem_def.1 hy] at hnot
          exact hnot
        have hshort : (xs.dropWhile Float.isNaN).length ≤ xs.length := (List.dropWhile_sublist _).length_le
        have hblock := block x (xs.takeWhile Float.isNaN) (xs.dropWhile Float.isNaN)
          ⟨hx, fun y hy => List.mem_takeWhile_imp hy, hends⟩ (ih _ (by omega) _ rfl)
        rwa [List.cons_append, List.takeWhile_append_dropWhile] at hblock

section Blocks

variable (limit : Float)

theorem fillGaps_gap (last : Float) (run : Nat) {gap : List Float} (hgap : ∀ x ∈ gap, x.isNaN = true)
    (rest : List Float) : fillGaps limit last run (gap ++ rest) = fillGaps limit last (run + gap.length) rest := by
  induction gap generalizing run with
  | nil => rfl
  | cons x gap ih =>
    obtain ⟨hx, hgap⟩ := List.forall_mem_cons.1 hgap
    rw [List.cons_append, fillGaps, if_pos hx, ih _ hgap, List.length_cons]
    congr 1
    omega

theorem fillGaps_end (last : Float) (run : Nat) {tail : List Float} (hends : ∀ y ∈ tail.head?, y.isNaN = false) :
    fillGaps limit last run tail = closeGap limit last run ++ keepLast limit tail := by
  cases tail with
  | nil => rw [fillGaps, keepLast, List.append_nil]
  | cons y rest =>
    have hy : ¬ y.isNaN = true := Bool.eq_false_iff.1 (hends y rfl)
    rw [fillGaps, keepLast, if_neg hy, if_neg hy]

theorem keepLast_missing {x : Float} (hx : x.isNaN = true) (xs : List Float) :
    keepLast limit (x :: xs) = x :: keepLast limit xs := by
  rw [keepLast, if_pos hx]

/-- **A gap is closed or left as a whole**, and what is behind it does not matter. -/
theorem keepLast_block {x : Float} {gap tail : List Float} (h : Block x gap tail) :
    keepLast limit (x :: gap ++ tail) = x :: closeGap limit x gap.length ++ keepLast limit tail := by
  rw [List.cons_append, keepLast, if_neg (Bool.eq_false_iff.1 h.present), fillGaps_gap limit x 0 h.missing,
    fillGaps_end limit x _ h.ends, Nat.zero_add, List.cons_append]

/-- a list that begins with a present sample still does -/
theorem head?_keepLast {xs : List Float} (h : ∀ y ∈ xs.head?, y.isNaN = false) :
    ∀ y ∈ (keepLast limit xs).head?, y.isNaN = false := by
  cases xs with
  | nil => exact h
  | cons x xs =>
    have hx : x.isNaN = false := h x rfl
    rw [keepLast, if_neg (Bool.eq_false_iff.1 hx)]
    exact h

end Blocks

/-! ## What becomes of a missing sample -/

/-- the last sample that is present among the first `i` -/
def lastPresent? (xs : List Float) (i : Nat) : Option Float :=
  (xs.take i).reverse.find? fun x => !x.isNaN

/-- length of the gap that an index is in: the missing samples right in front of it, and those from it on -/
def gapLength (xs : List Float) (i : Nat) : Nat :=
  ((xs.take i).reverse.takeWhile Float.isNaN).length + ((xs.drop i).takeWhile Float.isNaN).length

/-- what a missing sample at an index is filled with: the one present last before it, if its gap is short enough -/
def fill? (limit : Float) (xs : List Float) (i : Nat) : Option Float :=
  if Float.ofNat (gapLength xs i) ≤ limit then lastPresent? xs i else none

theorem find?_present_eq_none {xs : List Float} (h : ∀ x ∈ xs, x.isNaN = true) :
    xs.find? (fun x => !x.isNaN) = none := by
  rw [List.find?_eq_none]
  intro x hx
  rw [h x hx]
  exact Bool.false_ne_true

section Append

variable {front xs : List Float} {i : Nat}

theorem reverse_take_append : ((front ++ xs).take (front.length + i)).reverse = (xs.take i).reverse ++ front.reverse := by
  rw [List.take_length_add_append, List.reverse_append]

/-- missing samples in front are not what is present last -/
theorem lastPresent?_append_missing (hfront : ∀ x ∈ front, x.isNaN = true) :
    lastPresent? (front ++ xs) (front.length + i) = lastPresent? xs i := by
  have hnone := find?_present_eq_none fun x hx => hfront x (List.mem_reverse.1 hx)
  rw [lastPresent?, reverse_take_append, List.find?_append, hnone, Option.or_none, lastPresent?]

theorem lastPresent?_append_of_some {v : Float} (hv : lastPresent? xs i = some v) :
    lastPresent? (front ++ xs) (front.length + i) = some v := by
  rw [lastPresent?] at hv ⊢
  rw [reverse_take_append, List.find?_append, hv, Option.some_or]

/-- a gap does not reach over a present sample -/
theorem gapLength_append {v : Float} (hv : lastPresent? xs i = some v) :
    gapLength (front ++ xs) (front.length + i) = gapLength xs i := by
  have hstops : ((xs.take i).reverse.takeWhile Float.isNaN).length ≠ (xs.take i).reverse.length := by
    intro hall
    have hself := (List.takeWhile_sublist Float.isNaN).eq_of_length hall
    have hpresent := List.find?_some hv
    rw [List.takeWhile_eq_self_iff.1 hself v (List.mem_of_find?_eq_some hv)] at hpresent
    exact Bool.noConfusion hpresent
  rw [gapLength, reverse_take_append, List.takeWhile_append, if_neg hstops, List.drop_length_add_append, gapLength]

/-- **What is in front of a present sample does not matter behind it**, nor do missing samples in front of all. -/
theorem fill?_append (limit : Float) (h : lastPresent? xs i ≠ none ∨ ∀ x ∈ front, x.isNaN = true) :
    fill? limit (front ++ xs) (front.length + i) = fill? limit xs i := by
  cases hv : lastPresent? xs i with
  | some v => rw [fill?, fill?, gapLength_append hv, lastPresent?_append_of_some hv, hv]
  | none =>
    have hfront := h.resolve_left (not_not.2 hv)
    rw [fill?, fill?, lastPresent?_append_missing hfront, hv, ite_self, ite_self]

end Append

namespace Block

variable {x : Float} {gap tail : List Float}

theorem reverse_take {j : Nat} (hj : j ≤ gap.length) :
    ((x :: gap ++ tail).take (j + 1)).reverse = (gap.take j).reverse ++ [x] := by
  rw [List.cons_append, List.take_succ_cons, List.take_append_of_le_length hj, List.reverse_cons]

variable (h : Block x gap tail)
include h

theorem missing_take (j : Nat) : ∀ y ∈ (gap.take j).reverse, y.isNaN = true :=
  fun y hy => h.missing y (List.mem_of_mem_take (List.mem_reverse.1 hy))

theorem lastPresent?_eq {j : Nat} (hj : j ≤ gap.length) : lastPresent? (x :: gap ++ tail) (j + 1) = some x := by
  rw [lastPresent?, reverse_take hj, List.find?_append, find?_present_eq_none (h.missing_take j), Option.none_or,
    List.find?_cons_of_pos]
  rw [h.present, Bool.not_false]

/-- every sample of the gap is in a gap of that length -/
theorem gapLength_eq {j : Nat} (hj : j ≤ gap.length) : gapLength (x :: gap ++ tail) (j + 1) = gap.length := by
  have hfront : ((gap.take j).reverse ++ [x]).takeWhile Float.isNaN = (gap.take j).reverse := by
    rw [List.takeWhile_append_of_pos (h.missing_take j), List.takeWhile_cons_of_neg (Bool.eq_false_iff.1 h.present),
      List.append_nil]
  have hend : tail.takeWhile Float.isNaN = [] := by
    cases tail with
    | nil => rfl
    | cons y rest => exact List.takeWhile_cons_of_neg (Bool.eq_false_iff.1 (h.ends y rfl))
  have hback : ((x :: gap ++ tail).drop (j + 1)).takeWhile Float.isNaN = gap.drop j := by
    rw [List.cons_append, List.drop_succ_cons, List.drop_append_of_le_length hj,
      List.takeWhile_append_of_pos fun y hy => h.missing y (List.mem_of_mem_drop hy), hend, List.append_nil]
  rw [gapLength, reverse_take hj, hfront, hback, List.length_reverse, List.length_take, List.length_drop]
  omega

theorem fill?_eq (limit : Float) {j : Nat} (hj : j ≤ gap.length) :
    fill? limit (x :: gap ++ tail) (j + 1) = if Float.ofNat gap.length ≤ limit then some x else none := by
  rw [fill?, h.gapLength_eq hj, h.lastPresent?_eq hj]

end Block

/-! ## Whole lists -/

theorem eq_nan_of_isNaN {x : Float} (h : x.isNaN = true) : x = Decimal.nan := by
  rw [Float.isNaN_eq_decide_eq_nan, decide_eq_true_eq] at h
  exact h

/-- what a sample at an index becomes: a missing one what it is filled with, if it is, and a present one itself -/
def becomes (limit : Float) (xs : List Float) (i : Nat) (x : Float) : Float :=
  if x.isNaN then (fill? limit xs i).getD x else x

theorem getElem?_closeGap {limit x : Float} {gap tail : List Float} (h : Block x gap tail) (j : Nat) :
    (closeGap limit x gap.length)[j]? = gap[j]?.map (becomes limit (x :: gap ++ tail) (j + 1)) := by
  rw [closeGap, List.getElem?_replicate]
  by_cases hj : j < gap.length
  · have hy := h.missing gap[j] (List.getElem_mem hj)
    rw [if_pos hj, List.getElem?_eq_getElem hj, Option.map_some, becomes, if_pos hy, h.fill?_eq limit hj.le]
    split
    · rfl
    · rw [Option.getD_none, eq_nan_of_isNaN hy]
  · rw [if_neg hj, List.getElem?_eq_none (not_lt.1 hj), Option.map_none]

/-- what is behind the gap becomes what it would in a list of its own -/
theorem becomes_tail (limit : Float) {x : Float} {gap tail : List Float} (h : Block x gap tail) {j : Nat} {y : Float}
    (hy : tail[j]? = some y) : becomes limit (x :: gap ++ tail) ((x :: gap).length + j) y = becomes limit tail j y := by
  by_cases hmissing : y.isNaN = true
  · have hlast : lastPresent? tail j ≠ none := by
      cases tail with
      | nil => cases hy
      | cons z rest =>
        have hz : z.isNaN = false := h.ends z rfl
        cases j with
        | zero =>
          cases hy
          rw [hz] at hmissing
          cases hmissing
        | succ j =>
          rw [lastPresent?, List.take_succ_cons, List.reverse_cons, ← Option.isSome_iff_ne_none, List.find?_isSome]
          exact ⟨z, List.mem_append_right _ List.mem_cons_self, by rw [hz, Bool.not_false]⟩
    rw [becomes, becomes, if_pos hmissing, if_pos hmissing, fill?_append limit (Or.inl hlast)]
  · rw [becomes, becomes, if_neg hmissing, if_neg hmissing]

/-- **Every sample becomes what its place in the list says.** -/
theorem getElem?_keepLast (limit : Float) (xs : List Float) (i : Nat) :
    (keepLast limit xs)[i]? = xs[i]?.map (becomes limit xs i) := by
  induction xs using Block.induct generalizing i with
  | nil => rfl
  | missing x xs hx ih =>
    rw [keepLast_missing limit hx]
    cases i with
    | zero =>
      have hnone : lastPresent? (x :: xs) 0 = none := rfl
      rw [List.getElem?_cons_zero, List.getElem?_cons_zero, Option.map_some, becomes, if_pos hx, fill?, hnone, ite_self,
        Option.getD_none]
    | succ i =>
      have hfill : fill? limit ([x] ++ xs) ([x].length + i) = fill? limit xs i :=
        fill?_append limit (Or.inr (List.forall_mem_singleton.2 hx))
      rw [List.length_singleton, Nat.add_comm] at hfill
      rw [List.getElem?_cons_succ, List.getElem?_cons_succ, ih]
      unfold becomes
      rw [← hfill, List.singleton_append]
  | block x gap tail h ih =>
    have hlength : (x :: closeGap limit x gap.length).length = (x :: gap).length := by simp [closeGap]
    rw [keepLast_block limit h]
    by_cases hi : i < (x :: gap).length
    · rw [List.getElem?_append_left (hlength ▸ hi), List.getElem?_append_left hi]
      cases i with
      | zero =>
        have hx : ¬ x.isNaN = true := Bool.eq_false_iff.1 h.present
        rw [List.getElem?_cons_zero, List.getElem?_cons_zero, Option.map_some, becomes, if_neg hx]
      | succ j => rw [List.getElem?_cons_succ, List.getElem?_cons_succ, getElem?_closeGap h]
    · obtain ⟨j, rfl⟩ := Nat.exists_eq_add_of_le (not_lt.1 hi)
      rw [List.getElem?_append_right (by omega), List.getElem?_append_right (by omega), hlength, Nat.add_sub_cancel_left,
        ih]
      cases hy : tail[j]? with
      | none => rfl
      | some y => rw [Option.map_some, Option.map_some, becomes_tail limit h hy]

/-- a list that has no gap in front of another stays as it is -/
theorem keepLast_present (limit : Float) {xs tail : List Float} (hxs : ∀ x ∈ xs, x.isNaN = false)
    (hends : ∀ y ∈ tail.head?, y.isNaN = false) : keepLast limit (xs ++ tail) = xs ++ keepLast limit tail := by
  induction xs with
  | nil => rfl
  | cons x xs ih =>
    obtain ⟨hx, hxs⟩ := List.forall_mem_cons.1 hxs
    have hblock : Block x [] (xs ++ tail) := by
      refine ⟨hx, by simp, ?_⟩
      cases xs with
      | nil => exact hends
      | cons z xs => exact fun y hy => hxs y (List.mem_of_mem_head? hy)
    have hrun := keepLast_block limit hblock
    rw [List.singleton_append, ih hxs] at hrun
    exact hrun

/-- a second run finds nothing to close -/
theorem keepLast_keepLast (limit : Float) (xs : List Float) : keepLast limit (keepLast limit xs) = keepLast limit xs := by
  induction xs using Block.induct with
  | nil => rfl
  | missing x xs hx ih => rw [keepLast_missing limit hx, keepLast_missing limit hx, ih]
  | block x gap tail h ih =>
    have hends := head?_keepLast limit h.ends
    rw [keepLast_block limit h, closeGap]
    by_cases hfits : Float.ofNat gap.length ≤ limit
    · rw [if_pos hfits, ← List.replicate_succ,
        keepLast_present limit (fun y hy => (List.eq_of_mem_replicate hy).symm ▸ h.present) hends, ih]
    · have hleft : Block x (List.replicate gap.length Decimal.nan) (keepLast limit tail) :=
        ⟨h.present, fun y hy => (List.eq_of_mem_replicate hy).symm ▸ (by decide), hends⟩
      rw [if_neg hfits, keepLast_block limit hleft, ih, closeGap, List.length_replicate, if_neg hfits]

/-- **Gaps are closed that are short enough, and no others.** A present sample stays. A missing one becomes the sample
present last before it, if there is one and the gap that it is in has at most `limit` points, whatever the limit is; and
it stays missing otherwise. A second run changes nothing. -/
theorem keepLast_closes (limit : Float) (xs : List Float) :
    (keepLast limit xs = xs.mapIdx fun i x => if x.isNaN then (fill? limit xs i).getD x else x) ∧
      keepLast limit (keepLast limit xs) = keepLast limit xs := by
  refine ⟨?_, keepLast_keepLast limit xs⟩
  apply List.ext_getElem?
  intro i
  rw [getElem?_keepLast, List.getElem?_mapIdx]
  rfl

/-- a gap at the start, one of two points and one of three, of which at most two are closed -/
example : keepLast 2 [Decimal.nan, 1, Decimal.nan, Decimal.nan, 2, Decimal.nan, Decimal.nan, Decimal.nan] =
    [Decimal.nan, 1, 1, 1, 2, Decimal.nan, Decimal.nan, Decimal.nan] := by decide +kernel

end MetricQuery.Builtin
