/-
Where moving windows begin.

All series of a moving window are fetched from one time on, as far back as the window reaches: the span of it, or its
points times the greatest step. Each then leaves out a number of samples of its own, which comes from its own step
(`leftOut`). `execute_moving_times` says what times remain. None of them is before the window asked for exactly if no
more samples of the stored series are in between than are left out (`StartsBehind.within_iff`). So a series that is
finer than the coarsest one can begin too early (`execute_moving_early`), and so can one over a span that is no whole
number of its steps.
-/
import MetricQuery.Proofs.Engine.Calls
import MetricQuery.Proofs.Builtin.Grid
import MetricQuery.Proofs.Builtin.Lead

namespace MetricQuery

open Target (Expr Call)
open Time (Window)

namespace Builtin

/-! ## Reach -/

/-- how far back a moving window reaches of series that are sampled in the window asked for -/
def Reach.back (r : Reach) (sampled : List Series) : Int :=
  match r with
  | .points n => (greatestStep sampled).getD 0 * n
  | .seconds span => span

/-- samples of a series that a moving window leaves out, of as many as are fetched -/
def leftOut (name : String) (n count : Nat) : Nat :=
  if name = "exponentialMovingAverage" then min n (count - 1) else n

theorem Reach.pos_of_ofCall {c : Call} {r : Reach} (h : ofCall c = .ok r) :
    match r with
    | .points n => 0 < n
    | .seconds span => 0 < span := by
  unfold ofCall at h
  split at h
  · obtain ⟨seconds, -, h⟩ := bind_eq_ok.1 h
    obtain ⟨span, hspan, h⟩ := bind_eq_ok.1 h
    cases h
    exact positive_pos c _ span hspan
  · obtain ⟨n, -, h⟩ := bind_eq_ok.1 h
    split at h
    · cases h
    · cases h
      omega

/-- a window that is written as a number has so many points -/
theorem Reach.ofCall_number {c : Call} {value : Float} {literal : String}
    (hwindow : c.namedOrAt? param 1 = some (.number value literal)) (hfinite : value.isFinite = true)
    (hpos : 0 < truncate value) : ofCall c = .ok (.points (truncate value)) := by
  have hint : c.intOr param 1 0 = .ok (truncate value) := by
    have hgiven : c.given? param 1 = some (.number value literal) := by
      rw [Call.given?, hwindow]
      rfl
    rw [Call.intOr, Call.orDefault, hgiven]
    show (if value.isFinite then Except.ok (truncate value) else _) = _
    rw [if_pos hfinite]
  rw [ofCall, hwindow]
  show (do
    let n ← c.intOr param 1 0
    if n ≤ 0 then .error (.invalidArgument c.function (.windowNotPositive n)) else .ok (Reach.points n)) = _
  rw [hint]
  exact if_neg (not_le.2 hpos)

theorem greatestStep_pos {series : List Series} (hpos : ∀ s ∈ series, 0 < s.step) {step : Int}
    (h : greatestStep series = some step) : 0 < step := by
  cases series with
  | nil => cases h
  | cons s rest =>
    cases h
    exact List.foldlRecOn rest _ (motive := (0 < ·)) (hpos s List.mem_cons_self) fun greatest hgreatest _ _ =>
      lt_max_of_lt_left hgreatest

/-- only the steps of series tell the greatest one -/
theorem greatestStep_congr {series parts : List Series} (h : List.Forall₂ (fun s u => u.step = s.step) series parts) :
    greatestStep parts = greatestStep series := by
  cases h with
  | nil => rfl
  | cons hstep hrest =>
    rw [greatestStep, greatestStep, hstep]
    congr 1
    generalize Series.step _ = greatest
    clear hstep
    induction hrest generalizing greatest with
    | nil => rfl
    | cons hstep _ ih => rw [List.foldl_cons, List.foldl_cons, hstep, ih]

theorem Reach.back_nonneg {c : Call} {r : Reach} (h : ofCall c = .ok r) {series : List Series}
    (hpos : ∀ s ∈ series, 0 < s.step) : 0 ≤ r.back series := by
  have hreach := pos_of_ofCall h
  cases r with
  | seconds span => exact hreach.le
  | points n =>
    refine Int.mul_nonneg ?_ hreach.le
    cases hstep : greatestStep series with
    | none => exact le_rfl
    | some step => exact (greatestStep_pos hpos hstep).le

/-! ## Functions -/

/-- `f` turns what its window reaches into series without the samples left out -/
def MovesOver (f : Function) (name : String) : Prop :=
  ∀ ops c w p outs, ((f.evaluate ops c w).runFrom p).1 = .ok outs →
    ∃ reach found q g, Reach.ofCall c = .ok reach ∧ (reachedSeries ops c reach w).runFrom p = (.ok found, q) ∧
      outs = found.map g ∧
        ∀ s, (g s).times = s.times.drop (leftOut name (reach.length s.step) s.values.length)

theorem times_moveOver (name : String) (c : Call) (reach : Reach) (r : Reducer) (factor : Option Float) (s : Series) :
    (moveOver name c reach r factor s).times = s.times.drop (reach.length s.step) := by
  refine Series.times_of_dropped rfl rfl ?_
  show ((windowsBefore (reach.length s.step) s.values).map _).length = _
  rw [List.length_map, windowsBefore, List.length_map, List.length_range]

theorem movesOver_movingFixed {name : String} {r : Reducer} (hname : name ≠ "exponentialMovingAverage") :
    MovesOver (movingFixed name r) name := by
  intro ops c w p outs h
  obtain ⟨reach, hreach, h⟩ := Eval.runFrom_lift_bind_eq_ok h
  obtain ⟨factor, -, h⟩ := Eval.runFrom_lift_bind_eq_ok h
  obtain ⟨found, q, hfound, h⟩ := Eval.runFrom_bind_eq_ok h
  refine ⟨reach, found, q, _, hreach, hfound, (Except.ok.inj h).symm, fun s => ?_⟩
  rw [leftOut, if_neg hname]
  exact times_moveOver ..

theorem movesOver_movingWindow : MovesOver movingWindow "movingWindow" := by
  intro ops c w p outs h
  obtain ⟨reach, hreach, h⟩ := Eval.runFrom_lift_bind_eq_ok h
  obtain ⟨reducerName, -, h⟩ := Eval.runFrom_lift_bind_eq_ok h
  obtain ⟨r, -, h⟩ := Eval.runFrom_lift_bind_eq_ok h
  obtain ⟨factor, -, h⟩ := Eval.runFrom_lift_bind_eq_ok h
  obtain ⟨found, q, hfound, h⟩ := Eval.runFrom_bind_eq_ok h
  refine ⟨reach, found, q, _, hreach, hfound, (Except.ok.inj h).symm, fun s => ?_⟩
  exact times_moveOver ..

theorem length_exponentialFrom (c average : Float) (xs : List Float) :
    (exponentialFrom c average xs).length = xs.length := by
  induction xs generalizing average with
  | nil => rfl
  | cons x xs ih =>
    unfold exponentialFrom
    split
    · rw [List.length_cons, ih, List.length_cons]
    · rw [List.length_cons, ih, List.length_cons]

/-- one value is left where there are no more samples than the window has points -/
theorem length_exponentialAverage (xs : List Float) (n : Nat) :
    (exponentialAverage xs n).length = xs.length - min n (xs.length - 1) := by
  unfold exponentialAverage
  split_ifs with hnil hfew
  · simp [hnil]
  · have hpos := List.length_pos_iff.2 hnil
    rw [List.length_singleton]
    omega
  · rw [length_exponentialFrom, List.length_drop]
    omega

theorem movesOver_exponentialMovingAverage : MovesOver exponentialMovingAverage "exponentialMovingAverage" := by
  intro ops c w p outs h
  obtain ⟨reach, hreach, h⟩ := Eval.runFrom_lift_bind_eq_ok h
  obtain ⟨found, q, hfound, h⟩ := Eval.runFrom_bind_eq_ok h
  refine ⟨reach, found, q, _, hreach, hfound, (Except.ok.inj h).symm, fun s => ?_⟩
  rw [leftOut, if_pos rfl]
  refine Series.times_of_dropped rfl ?_ (length_exponentialAverage s.values _)
  have hinside : min (min (reach.length s.step) (s.values.length - 1)) s.values.length =
      min (reach.length s.step) (s.values.length - 1) := by omega
  rw [hinside]
  rfl

/-- each of the moving windows reaches as far as its call says, and leaves out what its name says -/
theorem get?_moving {name : String} (h : name ∈ movingNames) :
    ∃ entry, Registry.builtins.get? name = some entry ∧
      (∀ c w, entry.function.window c w = do (← Reach.ofCall c).widen w) ∧ MovesOver entry.function name := by
  obtain ⟨f, hf, hname⟩ := List.mem_flatMap.1 h
  obtain ⟨d, hd, rfl⟩ := List.mem_map.1 hname
  have hall : f ∈ Builtin.all := by simp [Builtin.all, hf]
  refine ⟨⟨f, d⟩, Registry.get?_builtins hall hd, ?_⟩
  have hmoving : moving = movingWindow :: fixedMoving.map (fun p => movingFixed p.1 p.2) ++ [exponentialMovingAverage] :=
    rfl
  rw [hmoving] at hf
  rcases List.mem_append.1 hf with hf | hf
  · rcases List.mem_cons.1 hf with rfl | hf
    · rw [List.mem_singleton.1 hd]
      exact ⟨fun _ _ => rfl, movesOver_movingWindow⟩
    · obtain ⟨⟨name, r⟩, hfixed, rfl⟩ := List.mem_map.1 hf
      rw [List.mem_singleton.1 hd]
      refine ⟨fun _ _ => rfl, movesOver_movingFixed ?_⟩
      rintro rfl
      simp [fixedMoving] at hfixed
  · cases List.mem_singleton.1 hf
    rw [List.mem_singleton.1 hd]
    exact ⟨fun _ _ => rfl, movesOver_exponentialMovingAverage⟩

/-! ## What is reached -/

theorem reachBack_eq_ok {n step t u : Int} (h : reachBack n step t = .ok u) : u = t - step * n := by
  unfold reachBack Time.checked at h
  split at h
  · rename_i hchecked
    split at hchecked
    · cases hchecked
      exact (moved_eq_ok.1 h).2
    · cases hchecked
  · cases h

section Reached

variable {store : Store} {c : Call} {m : String} (hm : c.args[0]? = some (.name m)) {glob : Glob}
  (hglob : Glob.compile m = some glob)
include hm hglob

/-- a pattern that has been fetched over a window comes to the parts of the series there -/
theorem seriesAt_fetched {w : Window} {q q' : Progress} (hq : (store.engine false).Kept store q)
    (hfetch : ((store.engine false).fetch [.name m] w).runFrom q = (.ok (), q')) {found : List Series}
    (h : ((seriesAt ((store.engine false).operands c) c 0 w).runFrom q').1 = .ok found) :
    found = (store.matched glob).filterMap (Request.part ⟨m, w⟩) := by
  have hq' := (Engine.fetch_grows (store.engine_source false) [.name m] w q).kept hq
  rw [hfetch] at hq'
  have hgather : gather (store.engine false).registry (.name m) w = .ok [⟨m, w⟩] := by rw [gather]
  have hheld := Engine.fetch_holds (store.engine_source false) hgather hfetch ⟨m, w⟩ List.mem_cons_self
  rw [Engine.seriesAt_operands hm, Engine.lookUp_pattern hq' hheld hglob] at h
  cases h
  rfl

/-- what was reached are the parts of the series from as far back on as the window reaches -/
theorem reachedSeries_ok {w inner : Window} {r : Reach} (hinner : r.widen w = .ok inner) {q : Progress}
    (hq : Engine.Ready store c inner q) {found : List Series}
    (h : ((reachedSeries ((store.engine false).operands c) c r w).runFrom q).1 = .ok found) :
    found = (store.matched glob).filterMap (Request.part ⟨m, w.widened
      (r.back ((store.matched glob).filterMap (Request.part ⟨m, w⟩)))⟩) := by
  unfold reachedSeries at h
  cases r with
  | seconds span =>
    obtain ⟨t, ht, hwidened⟩ := bind_eq_ok.1 hinner
    cases hwidened
    rw [(moved_eq_ok.1 ht).2] at hinner hq
    rw [hinner] at h
    have hrun := Engine.seriesAt_ready hq hm hglob
    cases h.symm.trans (congrArg Prod.fst hrun)
    rfl
  | points n =>
    cases hinner
    have hsampled := Engine.seriesAt_ready hq hm hglob
    rw [Eval.runFrom_bind_ok hsampled, List.head?_eq_getElem?, hm] at h
    rw [Reach.back]
    cases hstep : greatestStep ((store.matched glob).filterMap (Request.part ⟨m, w⟩)) with
    | none =>
      rw [hstep] at h
      cases h
      simp [Window.widened]
    | some step =>
      rw [hstep] at h
      obtain ⟨t, ht, h⟩ := Eval.runFrom_lift_bind_eq_ok h
      obtain ⟨u, q', hfetch, h⟩ := Eval.runFrom_bind_eq_ok h
      rw [reachBack_eq_ok ht] at hfetch h
      exact seriesAt_fetched hm hglob hq.kept hfetch h

end Reached

theorem Reach.back_congr (r : Reach) {series parts : List Series}
    (h : List.Forall₂ (fun s u => u.step = s.step) series parts) : r.back parts = r.back series := by
  cases r with
  | seconds span => rfl
  | points n => rw [back, back, greatestStep_congr h]

/-! ## Times -/

/-- `o` has a sample at each time of a series from some seconds before a window on, but for those left out at first -/
structure StartsBehind (left : Nat → Nat) (back : Int) (w : Window) (s o : Series) : Prop where
  times_eq : o.times = ((s.inside (w.widened back)).drop (left (s.inside (w.widened back)).length)).map Prod.fst
  earliest : ∀ t ∈ o.times, w.start - back + left (s.inside (w.widened back)).length * s.step ≤ t
  within_iff : (∀ t ∈ o.times, w.start ≤ t) ↔ (s.lead w.start back).length ≤ left (s.inside (w.widened back)).length

/-- a way back of no more than the steps that are left out leads to no early sample -/
theorem StartsBehind.within {left : Nat → Nat} {back : Int} {w : Window} {s o : Series} (h : StartsBehind left back w s o)
    (hsteps : back ≤ left (s.inside (w.widened back)).length * s.step) : ∀ t ∈ o.times, w.start ≤ t := by
  intro t ht
  have hearliest := h.earliest t ht
  omega

theorem startsBehind_of_part {w : Window} (hle : w.start ≤ w.stop) {back : Int} (hback : 0 ≤ back) {s u o : Series}
    (hstep : 0 < s.step) (hfits : s.IndexFits w.stop) (hu : Series.PartIn (w.widened back) s u) (left : Nat → Nat)
    (ho : o.times = u.times.drop (left u.values.length)) : StartsBehind left back w s o := by
  have hlength : u.values.length = (s.inside (w.widened back)).length := by
    rw [← hu.samples_eq, Series.length_samples]
  have htimes : o.times = ((s.inside (w.widened back)).drop (left (s.inside (w.widened back)).length)).map Prod.fst := by
    rw [ho, Series.times, hu.samples_eq, hlength, List.map_drop]
  refine ⟨htimes, ?_, ?_⟩
  · rw [htimes]
    exact List.forall_mem_map.2 fun p hp => Series.le_of_mem_drop hstep hle hfits hback hp
  · rw [htimes, List.forall_mem_map]
    exact Series.forall_start_le_iff hstep hle hfits hback _

end Builtin

namespace Engine

open Builtin (Reach leftOut StartsBehind movingNames fixedMoving movingFixed moveOver greatestStep)

/-- **Each series of a moving window begins by its own step.** A moving window is asked of a pattern whose series have
positive steps and do not overflow on their way to the end of the window. If there is a result, there is a series in it
for each that has a sample from as far back on as the window reaches. It has the times of these samples but for the
first ones, and how many these are goes by its own step. So it begins before the window asked for exactly if it has more
samples in between, which is ruled out where the way back is no more than so many steps of its own. -/
theorem execute_moving_times (store : Store) {target : String} {c : Call} (hparse : Target.parse target = .ok c.toExpr)
    (hmoving : c.function ∈ movingNames) {m : String} (hm : c.args[0]? = some (.name m)) {glob : Glob}
    (hglob : Glob.compile m = some glob) {w : Window} (hle : w.start ≤ w.stop)
    (hmatched : ∀ s ∈ store.matched glob, 0 < s.step ∧ s.IndexFits w.stop) {p : Progress} {outs : List Series}
    (hrun : (((store.engine false).execute target w).runFrom p).1 = .ok outs) :
    ∃ reach, Reach.ofCall c = .ok reach ∧
      let back := reach.back ((store.matched glob).filter fun s => s.inside w ≠ [])
      List.Forall₂ (fun s o => StartsBehind (leftOut c.function (reach.length s.step)) back w s o)
        ((store.matched glob).filter fun s => s.inside (w.widened back) ≠ []) outs := by
  have hpart : ∀ {v : Window}, v.start ≤ w.stop → v.stop = w.stop →
      List.Forall₂ (fun s u => s ∈ store.matched glob ∧ Series.PartIn v s u)
        ((store.matched glob).filter fun s => s.inside v ≠ [])
        ((store.matched glob).filterMap (Request.part ⟨m, v⟩)) := by
    intro v hearly hstop
    refine Request.forall₂_part (fun s hs => ?_) m
    obtain ⟨hstep, hfits⟩ := hmatched s hs
    exact ⟨hstep, hfits.mono hearly, hstop ▸ hfits⟩
  obtain ⟨entry, inner, q, hentry, hinner, hq, heval⟩ := execute_call_ok hparse hrun
  obtain ⟨entry', hentry', hwindow, hmoves⟩ := Builtin.get?_moving hmoving
  cases hentry.symm.trans hentry'
  obtain ⟨reach, found, q', g, hreach, hfound, rfl, hg⟩ := hmoves _ c w q outs heval
  rw [hwindow, hreach] at hinner
  have hreached := Builtin.reachedSeries_ok hm hglob hinner hq (congrArg Prod.fst hfound)
  rw [reach.back_congr ((hpart hle rfl).imp fun _ _ h => h.2.step_eq)] at hreached
  refine ⟨reach, hreach, ?_⟩
  intro back
  have hback : 0 ≤ back := Reach.back_nonneg hreach fun s hs => (hmatched s (List.mem_of_mem_filter hs)).1
  rw [hreached, List.forall₂_map_right_iff]
  refine (hpart (v := w.widened back) ((Int.sub_le_self w.start hback).trans hle) rfl).imp fun s u ⟨hs, hu⟩ => ?_
  obtain ⟨hstep, hfits⟩ := hmatched s hs
  refine Builtin.startsBehind_of_part hle hback hstep hfits hu _ ?_
  rw [hg, hu.step_eq]

/-- a moving window of points, with a reducer of its own, over the parts that it reaches -/
theorem execute_movingFixed (store : Store) {target : String} {c : Call} (hparse : Target.parse target = .ok c.toExpr)
    {r : Reducer} (hfixed : (c.function, r) ∈ fixedMoving) {m : String} (hm : c.args.head? = some (.name m))
    {glob : Glob} (hglob : Glob.compile m = some glob) (hargs : ∀ e ∈ c.args, e.Plain)
    (hnamed : ∀ p ∈ c.named, p.2.Plain) (hcount : c.args.length ≤ 3) {n : Int}
    (hreach : Reach.ofCall c = .ok (.points n)) {factor : Option Float}
    (hfactor : c.float? "xFilesFactor" 2 = .ok factor) {w : Window} {step : Int}
    (hstep : greatestStep ((store.matched glob).filterMap (Request.part ⟨m, w⟩)) = some step)
    (hspan : Time.inRange (step * n)) (hstart : Time.inRange (w.start - step * n)) (p : Progress) :
    (((store.engine false).execute target w).runFrom p).1 =
      .ok (((store.matched glob).filterMap (Request.part ⟨m, w.widened (step * n)⟩)).map
        (moveOver c.function c (.points n) r factor)) := by
  obtain ⟨d, hd, hentry⟩ := Builtin.get?_movingFixed hfixed
  have hinner : (movingFixed c.function r).window c w = .ok w := by
    show (do (← Reach.ofCall c).widen w) = _
    rw [hreach]
    rfl
  obtain ⟨q, hq, hrun⟩ := execute_call hparse hentry hinner (Builtin.validate_movingFixed hd hm hcount hreach) hargs
    hnamed p
  obtain ⟨q', hfound⟩ := Builtin.reachedSeries_store hm (store.answer_eq (r := ⟨m, w⟩) hglob) hstep hspan hstart
    (store.answer_eq (r := ⟨m, w.start - step * n, w.stop⟩) hglob) (evalNamed _ c.named) hq.kept
    (hq.held m (Or.inl (List.mem_of_mem_head? hm)))
  rw [hrun]
  exact congrArg Prod.fst (Builtin.movingFixed_run hreach hfactor hfound)

/-! ### Two series, one three times as fine -/

def fine : Series := Series.ofSamples "m;of=a" [1, 2, 3, 4, 5, 6] 20 0

def coarse : Series := Series.ofSamples "m;of=b" [7, 8] 60 0

/-- a sum over a window of one point -/
def sumOfOne : Call :=
  ⟨"movingSum", [.name "m", .number 1 "1"], [], "m,1"⟩

theorem parse_sumOfOne : Target.parse "movingSum(m,1)" = .ok sumOfOne.toExpr := by
  have hread : (Target.parse "movingSum(m,1)").toOption.bind Expr.leafCall? =
      some ("movingSum", [.name "m", .number 1 "1"], "m,1") := by decide +kernel
  exact Target.parse_of_leafCall? hread

theorem ofCall_sumOfOne : Reach.ofCall sumOfOne = .ok (.points 1) := by
  have hwhole : truncate 1 = 1 := by decide +kernel
  rw [← hwhole]
  exact Reach.ofCall_number rfl (by decide +kernel) (by decide +kernel)

theorem matched_fine_coarse : Store.matched [fine, coarse] [.char 'm'] = [fine, coarse] :=
  List.filter_eq_self.2 (by decide +kernel)

/-- both are fetched from 60 seconds before the window on, and both leave out one sample -/
theorem execute_sumOfOne :
    ∃ o u, (((Store.engine [fine, coarse] false).execute "movingSum(m,1)" ⟨60, 120⟩).runFrom {}).1 = .ok [o, u] ∧
      o.times = [20, 40, 60, 80, 100] ∧ u.times = [60] := by
  have hargs : ∀ e ∈ sumOfOne.args, e.Plain := by
    intro e he
    rcases List.mem_pair.1 he with rfl | rfl
    · exact ⟨_, Glob.compile_m⟩
    · trivial
  have hfixed : (sumOfOne.function, Reducer.sum) ∈ fixedMoving := by simp [sumOfOne, fixedMoving]
  have hstep : greatestStep ([fine, coarse].filterMap (Request.part ⟨"m", 60, 120⟩)) = some 60 := by decide +kernel
  have hrun := execute_movingFixed [fine, coarse] parse_sumOfOne hfixed rfl Glob.compile_m hargs
    (by simp [sumOfOne]) (by decide) ofCall_sumOfOne rfl (matched_fine_coarse.symm ▸ hstep) (by decide) (by decide) {}
  rw [matched_fine_coarse] at hrun
  have hfine : Request.part ⟨"m", Window.widened ⟨60, 120⟩ (60 * 1)⟩ fine = some { fine with path := "m" } := by rfl
  have hcoarse : Request.part ⟨"m", Window.widened ⟨60, 120⟩ (60 * 1)⟩ coarse = some { coarse with path := "m" } := by
    rfl
  rw [List.filterMap_cons_some hfine, List.filterMap_cons_some hcoarse] at hrun
  exact ⟨_, _, hrun, by decide +kernel, by decide +kernel⟩

/-- of the fine series three samples are in between, of the coarse one as many as are left out -/
theorem execute_moving_times_fine :
    ∃ o u, (((Store.engine [fine, coarse] false).execute "movingSum(m,1)" ⟨60, 120⟩).runFrom {}).1 = .ok [o, u] ∧
      ¬ (∀ t ∈ o.times, 60 ≤ t) ∧ ∀ t ∈ u.times, 60 ≤ t := by
  obtain ⟨o, u, hrun, -, -⟩ := execute_sumOfOne
  have hgrid : ∀ s ∈ Store.matched [fine, coarse] [.char 'm'], 0 < s.step ∧ s.IndexFits 120 := by
    rw [matched_fine_coarse]
    decide +kernel
  obtain ⟨reach, hreach, hall⟩ := execute_moving_times [fine, coarse] parse_sumOfOne (by decide +kernel) rfl
    Glob.compile_m (by decide) hgrid hrun
  cases ofCall_sumOfOne.symm.trans hreach
  have hback : (Reach.points 1).back ([fine, coarse].filter fun s => s.inside ⟨60, 120⟩ ≠ []) = 60 := by decide +kernel
  have hreached : [fine, coarse].filter (fun s => s.inside (Window.widened ⟨60, 120⟩ 60) ≠ []) = [fine, coarse] :=
    List.filter_eq_self.2 (by decide +kernel)
  rw [matched_fine_coarse, hback] at hall
  dsimp only at hall
  rw [hreached] at hall
  obtain ⟨hfine, hrest⟩ := List.forall₂_cons.1 hall
  obtain ⟨hcoarse, -⟩ := List.forall₂_cons.1 hrest
  exact ⟨o, u, hrun, mt hfine.within_iff.1 (by decide +kernel), hcoarse.within (by decide +kernel)⟩

/-- a series that is finer than another begins before the window asked for -/
theorem execute_moving_early :
    ∃ o u, (((Store.engine [fine, coarse] false).execute "movingSum(m,1)" ⟨60, 120⟩).runFrom {}).1 = .ok [o, u] ∧
      o.times = [20, 40, 60, 80, 100] ∧ ¬ ∀ t ∈ o.times, 60 ≤ t := by
  obtain ⟨o, u, hrun, hfine, -⟩ := execute_sumOfOne
  refine ⟨o, u, hrun, hfine, ?_⟩
  rw [hfine]
  decide

end Engine

end MetricQuery
