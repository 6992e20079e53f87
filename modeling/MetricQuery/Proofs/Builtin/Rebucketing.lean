/-
Samples put into buckets of time.

`summarize` and `smartSummarize` divide the time of a series into buckets of one width and reduce the samples of each.
How many buckets there are comes from one division, rounded up, and into which a sample goes from another, rounded down;
a sample whose bucket was not there would be lost without a word. `bucketCount_le_iff` says what the one is and
`bucketOf_eq_iff` what the other, and from both follows that every sample is in one bucket (`Partitioned`).

Where a number on the way does not fit in 64 bits the interval is refused. `OkWhere` says of a result where it is
refused and what it is elsewhere, and follows the steps of a function as they come.
-/
import MetricQuery.Proofs.Builtin.Grid
import MetricQuery.Proofs.Series.Buckets
import MetricQuery.Proofs.Series.Slice

namespace MetricQuery.Builtin

open Target (Expr Call)
open Time (Window)
open Series (samplesIn span)

/-! ## Refused intervals -/

/-- a value with a property where all numbers fit, and an interval refused elsewhere -/
def OkWhere {α : Type} (fits : Prop) (P : α → Prop) (x : Except EvalError α) : Prop :=
  (fits ∧ ∃ a, x = .ok a ∧ P a) ∨ (¬ fits ∧ ∃ text, x = .error (.invalidInterval text))

namespace OkWhere

variable {α β : Type} {fits more : Prop} {P : α → Prop} {Q : β → Prop} {x : Except EvalError α}
  {f : α → Except EvalError β}

theorem ok {a : α} (h : P a) : OkWhere True P (.ok a) :=
  Or.inl ⟨trivial, a, rfl, h⟩

/-- what is read off the call first is refused nowhere -/
theorem read {a : α} (hx : x = .ok a) (hf : OkWhere fits Q (f a)) : OkWhere fits Q (x >>= f) := by
  rw [hx]
  exact hf

theorem bind (hx : OkWhere fits P x) (more : Prop) (hf : ∀ a, P a → OkWhere more Q (f a)) :
    OkWhere (fits ∧ more) Q (x >>= f) := by
  rcases hx with ⟨hfits, a, rfl, ha⟩ | ⟨hfits, text, rfl⟩
  · rcases hf a ha with ⟨hmore, hb⟩ | ⟨hmore, hb⟩
    · exact Or.inl ⟨⟨hfits, hmore⟩, hb⟩
    · exact Or.inr ⟨fun h => hmore h.2, hb⟩
  · exact Or.inr ⟨fun h => hfits h.1, text, rfl⟩

theorem value (h : OkWhere fits P x) (hfits : fits) : ∃ a, x = .ok a ∧ P a := by
  rcases h with ⟨-, hvalue⟩ | ⟨hnot, -⟩
  · exact hvalue
  · exact absurd hfits hnot

theorem congr (h : OkWhere fits P x) (hiff : fits ↔ more) : OkWhere more P x := by
  unfold OkWhere at *
  rwa [← hiff]

/-- a last step that is refused nowhere -/
theorem last (hx : OkWhere fits P x) (hf : ∀ a, P a → OkWhere True Q (f a)) : OkWhere fits Q (x >>= f) :=
  (hx.bind True hf).congr (and_iff_left trivial)

theorem mapM {fits : α → Prop} {R : α → β → Prop} {l : List α} (h : ∀ a ∈ l, OkWhere (fits a) (R a) (f a)) :
    OkWhere (∀ a ∈ l, fits a) (List.Forall₂ R l) (l.mapM f) := by
  induction l with
  | nil => exact Or.inl ⟨by simp, [], rfl, List.Forall₂.nil⟩
  | cons a l ih =>
    have hrest := ih fun b hb => h b (List.mem_cons_of_mem a hb)
    rw [List.mapM_cons]
    refine ((h a List.mem_cons_self).bind _ fun b hb => hrest.last fun bs hbs => ?_).congr ?_
    · exact ok (List.Forall₂.cons hb hbs)
    · simp

end OkWhere

theorem okWhere_moved (t offset : Int) :
    OkWhere (Time.inRange (t + offset)) (· = t + offset) (moved t offset) := by
  unfold moved Time.checked
  by_cases hrange : Time.inRange (t + offset)
  · rw [if_pos hrange]
    exact Or.inl ⟨hrange, _, rfl, rfl⟩
  · rw [if_neg hrange]
    exact Or.inr ⟨hrange, _, rfl⟩

/-- the numbers of a grid fit in 64 bits -/
structure GridFits (start stop interval : Int) : Prop where
  span : Time.inRange (stop - start)
  width : Time.inRange (bucketCount (stop - start) interval * interval)
  stop : Time.inRange (start + bucketCount (stop - start) interval * interval)

theorem okWhere_grid (start stop interval : Int) :
    OkWhere (GridFits start stop interval)
      (· = (bucketCount (stop - start) interval, start + bucketCount (stop - start) interval * interval))
      (grid start stop interval) := by
  unfold grid Time.checked
  by_cases hspan : Time.inRange (stop - start)
  · by_cases hwidth : Time.inRange (bucketCount (stop - start) interval * interval)
    · by_cases hstop : Time.inRange (start + bucketCount (stop - start) interval * interval)
      · refine Or.inl ⟨⟨hspan, hwidth, hstop⟩, _, ?_, rfl⟩
        simp [hspan, hwidth, hstop]
      · refine Or.inr ⟨fun h => hstop h.stop, s!"{interval}s", ?_⟩
        simp [hspan, hwidth, hstop]
    · refine Or.inr ⟨fun h => hwidth h.width, s!"{interval}s", ?_⟩
      simp [hspan, hwidth]
  · refine Or.inr ⟨fun h => hspan h.span, s!"{interval}s", ?_⟩
    simp [hspan]

/-- a mapping comes to what it makes of its series -/
theorem Mapping.runFrom_evaluate (m : Mapping) (descriptions : List Description) {ops : Operands} {c : Call}
    {w inner : Window} {p q : Progress} {early : m.Early} {series : List Series} (hearly : m.early c = .ok early)
    (hwindow : m.window c w = .ok inner) (hseries : (seriesAt ops c 0 inner).runFrom p = (.ok series, q)) :
    ((m.toFunction descriptions).evaluate ops c w).runFrom p = (m.finish c early w series, q) := by
  show (do
    let early ← m.early c
    let inner ← m.window c w
    let series ← seriesAt ops c 0 inner
    m.finish c early w series : Eval _).runFrom p = _
  rw [hearly, hwindow]
  exact Eval.runFrom_bind_ok hseries

section Buckets

variable {interval : Int} (hpos : 0 < interval)
include hpos

theorem bucketCount_eq (width : Int) : bucketCount width interval = (Series.ceilDiv width interval).toNat := by
  have hceil := Series.ceilDiv_le_iff (a := width) (m := 0) hpos
  unfold bucketCount
  by_cases hvoid : width ≤ 0
  · rw [if_pos hvoid]
    omega
  · rw [if_neg hvoid, Int.tdiv_eq_ediv_of_nonneg (by omega), Int.tmod_eq_emod_of_nonneg (by omega)]
    unfold Series.ceilDiv
    split
    · rw [Int.add_zero]
    · rfl

/-- **The number of buckets is the least that covers a time.** -/
theorem bucketCount_le_iff (width : Int) (n : Nat) : bucketCount width interval ≤ n ↔ width ≤ n * interval := by
  rw [bucketCount_eq hpos, ← Series.ceilDiv_le_iff hpos]
  omega

/-- **The bucket of a time is the one whose span it is in.** -/
theorem bucketOf_eq_iff (start t k : Int) :
    bucketOf start interval t = k ↔ start + k * interval ≤ t ∧ t < start + (k + 1) * interval := by
  have hlow : k ≤ (t - start) / interval ↔ k * interval ≤ t - start := Int.le_ediv_iff_mul_le hpos
  have hhigh : (t - start) / interval < k + 1 ↔ t - start < (k + 1) * interval := Int.ediv_lt_iff_lt_mul hpos
  unfold bucketOf
  omega

theorem bucketize_eq (s : Series) (start : Int) (count : Nat) (r : Reducer) :
    bucketize s start interval count r =
      (List.range count).map fun (k : Nat) => r.reduce (s.samplesIn (span interval start k)) s.xFilesFactor := by
  have hbucket : ∀ k : Nat, ((s.samples.map fun p => (bucketOf start interval p.1, p.2)).filter fun p =>
      p.1 == (k : Int)).map Prod.snd = s.samplesIn (span interval start k) := by
    intro k
    rw [List.filter_map, List.map_map, samplesIn]
    congr 1
    refine List.filter_congr fun p _ => ?_
    rw [Function.comp_apply, Bool.eq_iff_iff, beq_iff_eq, decide_eq_true_eq]
    exact bucketOf_eq_iff hpos start p.1 k
  unfold bucketize buckets
  rw [List.map_map]
  exact List.map_congr_left fun k _ => congrArg (r.reduce · s.xFilesFactor) (hbucket k)

end Buckets

/-- `o` holds the samples of `s` in buckets of one width from `start` on, those of each reduced to one value -/
structure Partitioned (interval start : Int) (r : Reducer) (s o : Series) : Prop where
  step_eq : o.step = interval
  start_eq : o.start = start
  stop_eq : o.stop = start + o.values.length * interval
  least : ∀ n : Nat, o.values.length ≤ n ↔ s.stop ≤ start + n * interval
  once : ∀ p ∈ s.samples, ∃! k : Nat, k < o.values.length ∧ start + k * interval ≤ p.1 ∧
    p.1 < start + (k + 1) * interval
  value : ∀ k < o.values.length,
    o.values[k]? = some (r.reduce (s.samplesIn (span interval start k)) s.xFilesFactor)

/-- **Buckets partition the samples** of a series that does not begin before them. -/
theorem partitioned_bucketize {s o : Series} {interval start : Int} {r : Reducer} (hs : s.Consistent)
    (hpos : 0 < interval) (hstart : start ≤ s.start)
    (ho : o.values = bucketize s start interval (bucketCount (s.stop - start) interval) r) (hstep : o.step = interval)
    (hostart : o.start = start) (hostop : o.stop = start + o.values.length * interval) :
    Partitioned interval start r s o := by
  have hlength : o.values.length = bucketCount (s.stop - start) interval := by
    rw [ho, bucketize_eq hpos, List.length_map, List.length_range]
  have hcovers := (bucketCount_le_iff hpos (s.stop - start) (bucketCount (s.stop - start) interval)).1 le_rfl
  refine ⟨hstep, hostart, hostop, fun n => ?_, fun p hp => ?_, fun k hk => ?_⟩
  · rw [hlength, bucketCount_le_iff hpos]
    omega
  · obtain ⟨hfirst, hlast⟩ := hs.sample_within hp
    have hstep := hs.1
    have hnonneg : 0 ≤ bucketOf start interval p.1 := Int.ediv_nonneg (by omega) hpos.le
    have hbelow : bucketOf start interval p.1 < bucketCount (s.stop - start) interval :=
      (Int.ediv_lt_iff_lt_mul hpos).2 (by omega)
    obtain ⟨k, hk⟩ := Int.eq_ofNat_of_zero_le hnonneg
    refine ⟨k, ⟨by omega, (bucketOf_eq_iff hpos start p.1 k).1 hk⟩, ?_⟩
    rintro j ⟨-, hj⟩
    have hsame := (bucketOf_eq_iff hpos start p.1 j).2 hj
    omega
  · rw [hlength] at hk
    rw [ho, bucketize_eq hpos, List.getElem?_map, List.getElem?_range hk, Option.map_some]

/-! ## Summaries -/

/-- where the buckets of a summary begin: with the series, or at the multiple of the interval before it -/
def summaryStart (alignToFrom : Bool) (interval : Int) (s : Series) : Int :=
  if alignToFrom then s.start else s.start - s.start % interval

/-- the numbers of a summary of a series fit in 64 bits -/
def SummaryFits (alignToFrom : Bool) (interval : Int) (s : Series) : Prop :=
  (alignToFrom = false → Time.inRange (summaryStart alignToFrom interval s)) ∧
    GridFits (summaryStart alignToFrom interval s) s.stop interval

theorem summaryStart_le {interval : Int} (hpos : 0 < interval) (alignToFrom : Bool) (s : Series) :
    summaryStart alignToFrom interval s ≤ s.start := by
  have hnonneg := Int.emod_nonneg s.start hpos.ne'
  unfold summaryStart
  split
  · rfl
  · omega

/-- **Summaries partition the samples.** Over series that lie on their grids, `summarize` begins its buckets with the
series or at the multiple of the interval before it, and `smartSummarize` with the series; the interval may be smaller
than the step or larger. Unless a number does not fit in 64 bits, each series is returned on the interval, with the least
number of buckets that covers it: every sample is in one of them, and the value of a bucket is that of the samples with
their times in it, in order, under the factor of the series. -/
theorem summaries_partition {c : Call} {interval : Int} {reducerName : String} {r : Reducer}
    (hinterval : intervalOf c = .ok interval) (hname : c.stringOr "func" 2 "sum" = .ok reducerName)
    (hreducer : reducerNamed reducerName = .ok r) {series : List Series} (hs : ∀ s ∈ series, s.Consistent)
    (ops : Operands) (w : Window) (p q : Progress) :
    (∀ alignToFrom, c.boolOr "alignToFrom" 3 false = .ok alignToFrom →
      (seriesAt ops c 0 w).runFrom p = (.ok series, q) →
        OkWhere (∀ s ∈ series, SummaryFits alignToFrom interval s)
          (List.Forall₂ (fun s => Partitioned interval (summaryStart alignToFrom interval s) r s) series)
          ((summarize.evaluate ops c w).runFrom p).1) ∧
    ∀ inner, smartSummarize.window c w = .ok inner → (seriesAt ops c 0 inner).runFrom p = (.ok series, q) →
      OkWhere (∀ s ∈ series, GridFits s.start s.stop interval)
        (List.Forall₂ (fun s => Partitioned interval s.start r s) series)
        ((smartSummarize.evaluate ops c w).runFrom p).1 := by
  have hpos : 0 < interval := intervalOf_pos c interval hinterval
  refine ⟨fun alignToFrom halign hseries => ?_, fun inner hwindow hseries => ?_⟩
  · rw [summarize, Mapping.runFrom_evaluate _ _ rfl rfl hseries]
    refine .read hinterval (.read hname (.read hreducer (.read halign (.mapM fun s hmem => ?_))))
    have hstart := summaryStart_le hpos alignToFrom s
    cases alignToFrom with
    | true =>
      refine ((okWhere_grid s.start s.stop interval).last ?_).congr (by simp [SummaryFits, summaryStart])
      rintro _ rfl
      exact .ok (partitioned_bucketize (hs s hmem) hpos hstart rfl rfl rfl rfl)
    | false =>
      have hmoved : s.start + -(s.start % interval) = summaryStart false interval s := rfl
      refine ((okWhere_moved s.start (-(s.start % interval))).bind
        (GridFits (summaryStart false interval s) s.stop interval) ?_).congr ?_
      · rintro _ rfl
        rw [hmoved]
        refine (okWhere_grid _ s.stop interval).last ?_
        rintro _ rfl
        exact .ok (partitioned_bucketize (hs s hmem) hpos hstart rfl rfl rfl rfl)
      · rw [hmoved]
        simp [SummaryFits]
  · obtain ⟨unit, halign, -⟩ := bind_eq_ok.1 hwindow
    rw [smartSummarize, Mapping.runFrom_evaluate _ _ rfl hwindow hseries]
    refine .read hinterval (.read hname (.read hreducer (.read halign (.mapM fun s hmem => ?_))))
    refine (okWhere_grid s.start s.stop interval).last ?_
    rintro _ rfl
    exact .ok (partitioned_bucketize (hs s hmem) hpos le_rfl rfl rfl rfl rfl)

/-- a series of steps of ten seconds from 25 on in half minutes: in those of the clock, and in its own -/
theorem summaries_partition_thirty :
    let c : Call := ⟨"summarize", [.name "m", .string "30s" .single], [], "m,'30s'"⟩
    let s := Series.ofSamples "m" [1, 2, 3, 4, 5] 10 25
    let ops : Operands := { args := [fun _ => pure [s]], named := [], fetch := fun _ _ => pure () }
    s.Consistent ∧ intervalOf c = .ok 30 ∧
      (∃ o, ((summarize.evaluate ops c ⟨0, 100⟩).runFrom {}).1 = .ok [o] ∧ o.start = 0 ∧ o.values.length = 3 ∧
        o.values[1]? = some (Reducer.sum.reduce [2, 3, 4] s.xFilesFactor)) ∧
      ∃ o, ((smartSummarize.evaluate ops c ⟨0, 100⟩).runFrom {}).1 = .ok [o] ∧ o.start = 25 ∧ o.values.length = 2 ∧
        o.values[1]? = some (Reducer.sum.reduce [4, 5] s.xFilesFactor) := by
  intro c s ops
  have hs : ∀ s' ∈ [s], s'.Consistent := by decide
  have hinterval : intervalOf c = .ok 30 := by cbv
  have hseries : (seriesAt ops c 0 ⟨0, 100⟩).runFrom {} = (.ok [s], {}) := rfl
  obtain ⟨hsummarize, hsmart⟩ :=
    summaries_partition (r := .sum) hinterval (by cbv) (by cbv) hs ops ⟨0, 100⟩ {} {}
  have hclock : ∀ s' ∈ [s], SummaryFits false 30 s' :=
    List.forall_mem_singleton.2 ⟨fun _ => by decide, by decide, by decide, by decide⟩
  have hown : ∀ s' ∈ [s], GridFits s'.start s'.stop 30 :=
    List.forall_mem_singleton.2 ⟨by decide, by decide, by decide⟩
  obtain ⟨outs, hrun, hall⟩ := (hsummarize false (by cbv) hseries).value hclock
  obtain ⟨o, rest, ho, hrest, rfl⟩ := List.forall₂_cons_left_iff.1 hall
  obtain ⟨outs, hrun', hall⟩ := (hsmart ⟨0, 100⟩ (by cbv) hseries).value hown
  obtain ⟨u, rest', hu, hrest', rfl⟩ := List.forall₂_cons_left_iff.1 hall
  rw [List.forall₂_nil_left_iff.1 hrest] at hrun
  rw [List.forall₂_nil_left_iff.1 hrest'] at hrun'
  have hlength : o.values.length = 3 :=
    le_antisymm ((ho.least 3).2 (by decide)) (not_lt.1 fun h => absurd ((ho.least 2).1 (by omega)) (by decide))
  have hlength' : u.values.length = 2 :=
    le_antisymm ((hu.least 2).2 (by decide)) (not_lt.1 fun h => absurd ((hu.least 1).1 (by omega)) (by decide))
  have hsecond : s.samplesIn (span 30 0 1) = [2, 3, 4] := by decide +kernel
  have hlast : s.samplesIn (span 30 25 1) = [4, 5] := by decide +kernel
  have hvalue := ho.value 1 (by omega)
  have hvalue' := hu.value 1 (by omega)
  rw [show summaryStart false 30 s = 0 from by decide, hsecond] at hvalue
  rw [show s.start = 25 from rfl, hlast] at hvalue'
  exact ⟨hs s (by simp), hinterval, ⟨o, hrun, ho.start_eq, hlength, hvalue⟩, u, hrun', hu.start_eq, hlength', hvalue'⟩

end MetricQuery.Builtin
