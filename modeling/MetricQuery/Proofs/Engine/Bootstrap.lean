/-
Forecasts over a window and the bootstrap in front of it.

A forecast runs over its series from some time before the window on, and shows it without as many of its first points
as that time has steps. It takes for granted that the series reaches back so far. Where the bootstrap is a whole number
of steps, the points shown are at the samples of the window that have at least that number before them in the stored
series (`Bootstrapped.times_eq`). So none is lost only if that many are stored in front of the window
(`Bootstrapped.whole_iff`). Of a series that begins later the first points of the window are dropped as well
(`execute_forecast_short`).
-/
import MetricQuery.Proofs.Engine.Calls
import MetricQuery.Proofs.Builtin.Forecast
import MetricQuery.Proofs.Builtin.Rebucketing

namespace MetricQuery

open Target (Expr Call)
open Time (Window)

namespace Builtin.Forecast

/-! ## Calls -/

theorem get?_function (k : Kind) :
    ∃ d ∈ (function k).descriptions, Registry.builtins.get? k.functionName = some ⟨function k, d⟩ := by
  apply Registry.exists_get?_builtins
  · have hmem : function k ∈ forecasting := by cases k <;> simp [forecasting]
    simp [Builtin.all, hmem]
  · simp [function, Mapping.toFunction]
  · simp [function, Mapping.toFunction]

theorem validate_function {k : Kind} {c : Call} {arg : Expr} {d : Description} (hd : d ∈ (function k).descriptions)
    (harg : c.args[0]? = some arg) (hcount : c.args.length ≤ k.bootstrapIndex + 2) : d.validate c = .ok () := by
  have hfirst := Call.hasArg_of_arg harg "seriesList"
  rw [List.mem_singleton.1 hd]
  cases k <;> simp_all [Description.validate, Description.missingFrom, seriesList, Kind.hasDelta, Kind.bootstrapIndex]

/-- what a call sets was read off it part by part -/
theorem bootstrapOf_of_ofCall {k : Kind} {c : Call} {set : Setting} (h : Setting.ofCall k c = .ok set) :
    bootstrapOf k c = .ok set.bootstrap := by
  obtain ⟨bootstrap, hbootstrap, h⟩ := bind_eq_ok.1 h
  obtain ⟨season, -, h⟩ := bind_eq_ok.1 h
  dsimp only at h
  split at h
  all_goals
    obtain ⟨delta, -, h⟩ := bind_eq_ok.1 h
    cases h
    exact hbootstrap

theorem bootstrap_nonneg {k : Kind} {c : Call} {bootstrap : Int} (h : bootstrapOf k c = .ok bootstrap) :
    0 ≤ bootstrap := by
  obtain ⟨seconds, -, h⟩ := bind_eq_ok.1 h
  cases h
  exact Int.natCast_nonneg _

/-! ## Points in front -/

/-- `o` has a sample at each time of a series in a window that has `n` samples before it -/
structure Bootstrapped (n : Nat) (w : Window) (s o : Series) : Prop where
  times_eq : o.times = ((s.inside w).filter fun p => n ≤ (s.before p.1).length).map Prod.fst
  whole_iff : o.times = (s.inside w).map Prod.fst ↔ s.inside w = [] ∨ n ≤ (s.before w.start).length

theorem bootstrapped_shown {w : Window} (hle : w.start ≤ w.stop) {s u : Series} (hstep : 0 < s.step)
    (hfits : s.IndexFits w.stop) {k : Kind} {set : Setting} {n : Nat} (hsteps : set.bootstrap = s.step * n)
    (hu : Series.PartIn (w.widened set.bootstrap) s u) :
    ∀ o ∈ shown k set u, Bootstrapped n w s o := by
  intro o ho
  have hn : (set.bootstrap.tdiv u.step).toNat = n := by
    rw [hu.step_eq, hsteps, Int.mul_tdiv_cancel_left _ hstep.ne', Int.toNat_natCast]
  have htimes : o.times = ((s.inside w).filter fun p => n ≤ (s.before p.1).length).map Prod.fst := by
    rw [times_shown ho, hn, Series.times, hu.samples_eq, hsteps, ← List.map_drop,
      Series.drop_inside_widened hstep hle hfits]
  refine ⟨htimes, ?_⟩
  rw [htimes, ← Series.filter_eq_inside_iff hstep hle hfits]
  constructor
  · intro h
    have hlength := congrArg List.length h
    rw [List.length_map, List.length_map] at hlength
    exact List.filter_sublist.eq_of_length hlength
  · intro h
    rw [h]

end Builtin.Forecast

namespace Engine

open Builtin.Forecast (Kind Setting Bootstrapped shown)

section Call

variable (store : Store) {target : String} {c : Call} (hparse : Target.parse target = .ok c.toExpr) {k : Kind}
  (hname : c.function = k.functionName) {m : String} (hm : c.args[0]? = some (.name m)) {glob : Glob}
  (hglob : Glob.compile m = some glob) (hargs : ∀ e ∈ c.args, e.Plain) (hnamed : ∀ p ∈ c.named, p.2.Plain)
  (hcount : c.args.length ≤ k.bootstrapIndex + 2) {set : Setting} (hset : Setting.ofCall k c = .ok set) {w : Window}
  (hstart : Time.inRange (w.start - set.bootstrap))
include hparse hname hm hglob hargs hnamed hcount hset hstart

/-- the model is shown of the parts of the series that a pattern matches, from the bootstrap on -/
theorem execute_forecast_parts (p : Progress) :
    (((store.engine false).execute target w).runFrom p).1 =
      .ok (((store.matched glob).filterMap (Request.part ⟨m, w.widened set.bootstrap⟩)).flatMap (shown k set)) := by
  obtain ⟨d, hd, hentry⟩ := Builtin.Forecast.get?_function k
  rw [← hname] at hentry
  have hinner : (Builtin.Forecast.function k).window c w = .ok (w.widened set.bootstrap) := by
    refine bind_eq_ok.2 ⟨_, Builtin.Forecast.bootstrapOf_of_ofCall hset, bind_eq_ok.2 ⟨_, ?_, rfl⟩⟩
    exact Builtin.moved_eq_ok.2 ⟨hstart, rfl⟩
  obtain ⟨q, hq, hrun⟩ :=
    execute_call hparse hentry hinner (Builtin.Forecast.validate_function hd hm hcount) hargs hnamed p
  rw [hrun]
  exact congrArg Prod.fst (Builtin.Mapping.runFrom_evaluate _ _ hset hinner (seriesAt_ready hq hm hglob))

/-- **The bootstrap is dropped as if every series reached back through it.** A forecast, its bands or its aberration are
asked of a pattern, with a bootstrap that is a whole number of steps of each series that it matches. Nothing overflows
on the way to either end of the window. Then there is one series in return, or two of bands, for each that has a sample
from the bootstrap on. It has the times of the samples in the window that have as many others before them as the
bootstrap has steps. These are all of the window exactly if that many are in front of it, or none is in it. -/
theorem execute_forecast (hle : w.start ≤ w.stop)
    (hmatched : ∀ s ∈ store.matched glob, 0 < s.step ∧ s.IndexFits w.stop ∧ s.step ∣ set.bootstrap) (p : Progress) :
    ∃ groups, (((store.engine false).execute target w).runFrom p).1 = .ok groups.flatten ∧
      List.Forall₂ (fun s group => group.length = (if k = .bands then 2 else 1) ∧
          ∀ o ∈ group, Bootstrapped (set.bootstrap / s.step).toNat w s o)
        ((store.matched glob).filter fun s => s.inside (w.widened set.bootstrap) ≠ []) groups := by
  have hback : 0 ≤ set.bootstrap := Builtin.Forecast.bootstrap_nonneg (Builtin.Forecast.bootstrapOf_of_ofCall hset)
  have hearly : w.start - set.bootstrap ≤ w.stop := (Int.sub_le_self w.start hback).trans hle
  have hparts := Request.forall₂_part (w := w.widened set.bootstrap) (fun s hs => by
    obtain ⟨hstep, hfits, -⟩ := hmatched s hs
    exact ⟨hstep, hfits.mono hearly, hfits⟩) m
  refine ⟨_, execute_forecast_parts store hparse hname hm hglob hargs hnamed hcount hset hstart p, ?_⟩
  rw [List.forall₂_map_right_iff]
  refine hparts.imp fun s u ⟨hs, hu⟩ => ?_
  obtain ⟨hstep, hfits, hsteps⟩ := hmatched s hs
  refine ⟨Builtin.Forecast.length_shown k set u, Builtin.Forecast.bootstrapped_shown hle hstep hfits ?_ hu⟩
  rw [Int.toNat_of_nonneg (Int.ediv_nonneg hback hstep.le), Int.mul_ediv_cancel' hsteps]

end Call

/-- a forecast with a bootstrap of two minutes -/
def twoMinutes : Call :=
  ⟨"holtWintersForecast", [.name "m", .string "2min" .single], [], "m,'2min'"⟩

theorem parse_twoMinutes : Target.parse "holtWintersForecast(m,'2min')" = .ok twoMinutes.toExpr := by
  have hread : (Target.parse "holtWintersForecast(m,'2min')").toOption.bind Expr.leafCall? =
      some ("holtWintersForecast", [.name "m", .string "2min" .single], "m,'2min'") := by decide +kernel
  exact Target.parse_of_leafCall? hread

theorem ofCall_twoMinutes : Setting.ofCall .forecast twoMinutes = .ok ⟨120, 86400, 3.0⟩ := by
  have hinterval : Time.parseInterval "2min" 1 = .ok 120 := by cbv
  have hbootstrap : Builtin.Forecast.bootstrapOf .forecast twoMinutes = .ok 120 := by
    show (do .ok ((← (Time.parseInterval "2min" 1).mapError EvalError.ofInterval).natAbs : Int)) = _
    rw [hinterval]
    rfl
  rw [Setting.ofCall, hbootstrap]
  rfl

theorem plain_twoMinutes : ∀ e ∈ twoMinutes.args, e.Plain := by
  intro e he
  rcases List.mem_pair.1 he with rfl | rfl
  · exact ⟨_, Glob.compile_m⟩
  · trivial

/-- of two series only one reaches back through the bootstrap -/
theorem execute_forecast_two :
    let a := Series.ofSamples "m;of=a" [1, 2, 3, 4] 60 0
    let b := Series.ofSamples "m;of=b" [5, 6, 7] 60 60
    ∃ o u, (((Store.engine [a, b] false).execute "holtWintersForecast(m,'2min')" ⟨120, 240⟩).runFrom {}).1 =
        .ok [o, u] ∧ o.times = [120, 180] ∧ u.times = [180] := by
  intro a b
  have hall : Store.matched [a, b] [.char 'm'] = [a, b] := List.filter_eq_self.2 (by decide +kernel)
  have hgrid : ∀ s ∈ Store.matched [a, b] [.char 'm'], 0 < s.step ∧ s.IndexFits 240 ∧ s.step ∣ 120 := by
    rw [hall]
    decide +kernel
  obtain ⟨groups, hrun, hgroups⟩ := execute_forecast [a, b] parse_twoMinutes rfl rfl Glob.compile_m
    plain_twoMinutes (by simp [twoMinutes]) (by decide) ofCall_twoMinutes (w := ⟨120, 240⟩) (by decide) (by decide)
    hgrid {}
  have hreached : [a, b].filter (fun s => s.inside (Window.widened ⟨120, 240⟩ 120) ≠ []) = [a, b] :=
    List.filter_eq_self.2 (by decide +kernel)
  rw [hall, hreached] at hgroups
  obtain ⟨first, rest, ⟨hfirst, hfirstAll⟩, hrest, rfl⟩ := List.forall₂_cons_left_iff.1 hgroups
  obtain ⟨second, nothing, ⟨hsecond, hsecondAll⟩, hnothing, rfl⟩ := List.forall₂_cons_left_iff.1 hrest
  obtain ⟨o, rfl⟩ := List.length_eq_one_iff.1 hfirst
  obtain ⟨u, rfl⟩ := List.length_eq_one_iff.1 hsecond
  rw [List.forall₂_nil_left_iff.1 hnothing] at hrun
  refine ⟨o, u, hrun, (hfirstAll o List.mem_cons_self).times_eq.trans ?_,
    (hsecondAll u List.mem_cons_self).times_eq.trans ?_⟩
  · decide +kernel
  · decide +kernel

/-- of a series that begins with the window the first two points are dropped all the same -/
theorem execute_forecast_short :
    let m := Series.ofSamples "m" [0, 0, 0, 0] 60 0
    ∃ o, (((Store.engine [m] false).execute "holtWintersForecast(m,'2min')" ⟨0, 240⟩).runFrom {}).1 = .ok [o] ∧
      o.times = [120, 180] ∧ o.times ≠ (m.inside ⟨0, 240⟩).map Prod.fst := by
  intro m
  have hall : Store.matched [m] [.char 'm'] = [m] := List.filter_eq_self.2 (by decide +kernel)
  have hrun := execute_forecast_parts [m] parse_twoMinutes rfl rfl Glob.compile_m plain_twoMinutes
    (by simp [twoMinutes]) (by decide) ofCall_twoMinutes (w := ⟨0, 240⟩) (by decide) {}
  have hpart : Request.part ⟨"m", Window.widened ⟨0, 240⟩ 120⟩ m = some m := by
    dsimp only [m]
    rfl
  rw [hall, List.filterMap_cons_some hpart] at hrun
  exact ⟨_, hrun, by decide +kernel, by decide +kernel⟩

end Engine

end MetricQuery
