/-
Moving windows of points over a store.

How far `n` points reach back is known only once the step of the series is. So the series are fetched and evaluated over
the window asked for, which tells their step, fetched again from `n` steps further back, and evaluated once more. Here
the whole way of a target through the engine is followed: the first batch, in which every argument of the call is asked
for, the evaluation, the second batch, and the answers of the store to both (`execute_moving`). What the windows over
the second answer are, told by the stored series, is `Builtin.movedOver_slice`.
-/
import MetricQuery.Proofs.Engine.PhaseAgreement
import MetricQuery.Proofs.Builtin.Moving

namespace MetricQuery

open Target (Expr Call)
open Time (Window)

/-! ## Patterns that a store answers -/

/-- the series of a store that a pattern matches -/
def Store.matched (store : Store) (glob : Glob) : List Series :=
  store.filter fun s => glob.accepts s.nameTag

/-- what of a series answers a request -/
def Request.part (r : Request) (s : Series) : Option Series :=
  (s.slice r.window).map fun cut => { cut with path := r.metric }

theorem Store.answer_eq {r : Request} {glob : Glob} (hglob : Glob.compile r.metric = some glob) (store : Store) :
    store.answer r = .ok ((store.matched glob).filterMap r.part) := by
  rw [answer, hglob]
  rfl

/-- an argument that asks for no series, or for those of a pattern, as a bare `None` does -/
def Target.Expr.Plain : Expr → Prop
  | .name path => ∃ glob, Glob.compile path = some glob
  | .call .. => False
  | .number .. | .string .. | .flag _ => True

/-- the parts of a call of a name and a number: they can be compared by evaluation, which trees cannot -/
def Target.Expr.nameAndNumber? : Expr → Option (String × String × Float × String × String)
  | .call f [.name m, .number x literal] [] argText => some (f, m, x, literal, argText)
  | _ => none

theorem Target.Expr.eq_of_nameAndNumber? {e : Expr} {f m : String} {x : Float} {literal argText : String}
    (h : e.nameAndNumber? = some (f, m, x, literal, argText)) :
    e = .call f [.name m, .number x literal] [] argText := by
  unfold nameAndNumber? at h
  split at h <;> cases h
  rfl

/-- requests that a store answers -/
def Store.AnswersAll (store : Store) (requests : List Request) : Prop :=
  ∀ r ∈ requests, store.fault? r = none

section Gather

variable (store : Store) (registry : Registry) (w : Window)

theorem gather_plain {e : Expr} (h : e.Plain) :
    ∃ requests, gather registry e w = .ok requests ∧ store.AnswersAll requests := by
  cases e with
  | name path =>
    obtain ⟨glob, hglob⟩ := h
    refine ⟨[⟨path, w⟩], rfl, fun r hr => ?_⟩
    rw [List.mem_singleton.1 hr]
    exact Store.fault?_of_answer (store.answer_eq hglob)
  | call => exact h.elim
  | number => exact ⟨[], rfl, by simp [Store.AnswersAll]⟩
  | string => exact ⟨[], rfl, by simp [Store.AnswersAll]⟩
  | flag => exact ⟨[], rfl, by simp [Store.AnswersAll]⟩

/-- expressions that can be gathered one by one can be gathered at once, and what holds of the requests of each holds of
all requests -/
theorem gatherAll_each {P : Request → Prop} {es : List Expr}
    (h : ∀ e ∈ es, ∃ requests, gather registry e w = .ok requests ∧ ∀ r ∈ requests, P r) :
    ∃ requests, gatherAll registry es w = .ok requests ∧ ∀ r ∈ requests, P r := by
  induction es with
  | nil => exact ⟨[], rfl, by simp⟩
  | cons e es ih =>
    obtain ⟨first, hfirst, hP⟩ := h e List.mem_cons_self
    obtain ⟨rest, hrest, hP'⟩ := ih fun e' he => h e' (List.mem_cons_of_mem e he)
    refine ⟨first ++ rest, ?_, fun r hr => ?_⟩
    · rw [gatherAll, hfirst, hrest]
      rfl
    · rcases List.mem_append.1 hr with hr | hr
      · exact hP r hr
      · exact hP' r hr

section Call

variable {c : Call} {entry : Entry} {inner : Window} (hentry : registry.get? c.function = some entry)
  (hinner : entry.function.window c w = .ok inner)
include hentry hinner

/-- a call asks for what its arguments ask for, over the window of its function -/
theorem gather_call_each {P : Request → Prop}
    (hargs : ∀ e ∈ c.args, ∃ requests, gather registry e inner = .ok requests ∧ ∀ r ∈ requests, P r)
    (hnamed : ∀ p ∈ c.named, ∃ requests, gather registry p.2 inner = .ok requests ∧ ∀ r ∈ requests, P r) :
    ∃ requests, gather registry c.toExpr w = .ok requests ∧ ∀ r ∈ requests, P r := by
  obtain ⟨first, hfirst, hP⟩ := gatherAll_each registry inner hargs
  obtain ⟨second, hsecond, hP'⟩ := gatherAll_each registry inner (List.forall_mem_map.2 hnamed)
  refine ⟨first ++ second, ?_, fun r hr => ?_⟩
  · rw [← gatherNamed_eq] at hsecond
    rw [Call.toExpr, gather]
    refine bind_eq_ok.2 ⟨entry, Registry.resolve_eq_ok.2 hentry, bind_eq_ok.2 ⟨inner, hinner, ?_⟩⟩
    exact bind_eq_ok.2 ⟨first, hfirst, bind_eq_ok.2 ⟨second, hsecond, rfl⟩⟩
  · rcases List.mem_append.1 hr with hr | hr
    · exact hP r hr
    · exact hP' r hr

theorem gather_call_answered
    (hargs : ∀ e ∈ c.args, ∃ requests, gather registry e inner = .ok requests ∧ store.AnswersAll requests)
    (hnamed : ∀ p ∈ c.named, ∃ requests, gather registry p.2 inner = .ok requests ∧ store.AnswersAll requests) :
    ∃ requests, gather registry c.toExpr w = .ok requests ∧ store.AnswersAll requests :=
  gather_call_each registry w hentry hinner hargs hnamed

/-- what a call with plain arguments asks for is answered -/
theorem gather_call_plain (hargs : ∀ e ∈ c.args, e.Plain) (hnamed : ∀ p ∈ c.named, p.2.Plain) :
    ∃ requests, gather registry c.toExpr w = .ok requests ∧ store.AnswersAll requests :=
  gather_call_answered store registry w hentry hinner (fun e he => gather_plain store registry inner (hargs e he))
    fun p hp => gather_plain store registry inner (hnamed p hp)

end Call

end Gather

namespace Engine

/-- a fetch of requests that the store answers succeeds, and then they are held -/
theorem fetch_answered {g : Engine} {store : Store} (hg : g.source = store.source) (hc : g.cancelled = false) {e : Expr}
    {w : Window} {requests : List Request} (hgather : gather g.registry e w = .ok requests)
    (hanswers : store.AnswersAll requests) {p : Progress} (hp : g.Kept store p) :
    ∃ q, (g.fetch [e] w).runFrom p = (.ok (), q) ∧ g.Kept store q ∧ ∀ r ∈ requests, q.held.holds r = true := by
  have hfetched : g.fetched store [e] w = .ok () := by
    have hnone : requests.eraseDups.findSome? store.fault? = none := by
      rw [store.findSome?_eraseDups, List.findSome?_eq_none_iff]
      exact hanswers
    rw [fetched, requests_single hgather]
    simp [hc, hnone]
  have hrun : (g.fetch [e] w).runFrom p = (.ok (), ((g.fetch [e] w).runFrom p).2) :=
    Prod.ext ((fetch_result hg hp [e] w).trans hfetched) rfl
  exact ⟨_, hrun, (fetch_grows hg [e] w p).kept hp, fetch_holds hg hgather hrun⟩

/-- a call that resolves and is valid comes to what its function makes of its operands -/
theorem eval_call_run {g : Engine} (hc : g.cancelled = false) {c : Call} {entry : Entry}
    (hentry : g.registry.get? c.function = some entry) (hvalid : entry.description.validate c = .ok ()) (w : Window)
    (p : Progress) :
    (g.eval c.toExpr w).runFrom p = (entry.function.evaluate
      ⟨evalAll g c.args, evalNamed g c.named, fun e inner => g.fetch [e] inner⟩ c w).runFrom p := by
  rw [Call.toExpr, eval]
  show (g.apply c (evalAll g c.args) (evalNamed g c.named) w).runFrom p = _
  unfold apply
  rw [hc, Registry.resolve_eq_ok.2 hentry]
  show (do
    entry.description.validate c
    entry.function.evaluate ⟨evalAll g c.args, evalNamed g c.named, fun e inner => g.fetch [e] inner⟩ c w
    : Eval _).runFrom p = _
  rw [hvalid]
  rfl

theorem seriesAt_name {g : Engine} {c : Call} {m : String} (hm : c.args.head? = some (.name m))
    (named : Keyed Windowed) (fetch : Expr → Window → Eval Unit) (w : Window) :
    Builtin.seriesAt ⟨evalAll g c.args, named, fetch⟩ c 0 w = lookUp ⟨m, w⟩ := by
  cases hargs : c.args with
  | nil =>
    rw [hargs] at hm
    cases hm
  | cons e es =>
    rw [hargs] at hm
    cases hm
    rw [Builtin.seriesAt, hargs]
    rfl

end Engine

namespace Builtin

/-! ## Moving windows of points -/

theorem greatestStep_eq {series : List Series} {step : Int} (hne : series ≠ []) (hsteps : ∀ s ∈ series, s.step = step) :
    greatestStep series = some step := by
  cases series with
  | nil => exact absurd rfl hne
  | cons s rest =>
    have hrest : rest.foldl (fun step r => max step r.step) step = step :=
      List.foldlRecOn rest _ (motive := (· = step)) rfl fun greatest hgreatest r hr => by
        rw [hgreatest, hsteps r (List.mem_cons_of_mem s hr), max_self]
    rw [greatestStep, hsteps s List.mem_cons_self, hrest]

theorem reachBack_eq {n step t : Int} (hspan : Time.inRange (step * n)) (hstart : Time.inRange (t - step * n)) :
    reachBack n step t = .ok (t - step * n) := by
  rw [reachBack, Time.checked, if_pos hspan]
  show moved t (-(step * n)) = _
  rw [moved, Time.checked, ← Int.sub_eq_add_neg, if_pos hstart]

/-- **Points are reached by a second fetch**, from as many steps further back as there are points. -/
theorem reachedSeries_points {ops : Operands} {c : Call} {n step : Int} {arg : Expr} {w : Window}
    {p q q' q'' : Progress} {sampled found : List Series} (hsampled : (seriesAt ops c 0 w).runFrom p = (.ok sampled, q))
    (hstep : greatestStep sampled = some step) (harg : c.args.head? = some arg) (hspan : Time.inRange (step * n))
    (hstart : Time.inRange (w.start - step * n))
    (hfetch : (ops.fetch arg ⟨w.start - step * n, w.stop⟩).runFrom q = (.ok (), q'))
    (hfound : (seriesAt ops c 0 ⟨w.start - step * n, w.stop⟩).runFrom q' = (.ok found, q'')) :
    (reachedSeries ops c (.points n) w).runFrom p = (.ok found, q'') := by
  unfold reachedSeries
  rw [Eval.runFrom_bind_ok hsampled, hstep, harg]
  dsimp only
  rw [reachBack_eq hspan hstart]
  show (do
    ops.fetch arg ⟨w.start - step * n, w.stop⟩
    seriesAt ops c 0 ⟨w.start - step * n, w.stop⟩ : Eval _).runFrom q = _
  rw [Eval.runFrom_bind_ok hfetch, hfound]

/-- the moving windows with a reducer of their own -/
def fixedMoving : List (String × Reducer) :=
  [("movingAverage", .average), ("movingSum", .sum), ("movingMin", .min), ("movingMax", .max), ("movingMedian", .median)]

theorem get?_movingFixed {name : String} {r : Reducer} (h : (name, r) ∈ fixedMoving) :
    ∃ d ∈ (movingFixed name r).descriptions, Registry.builtins.get? name = some ⟨movingFixed name r, d⟩ := by
  have hmoving : moving = movingWindow :: fixedMoving.map (fun p => movingFixed p.1 p.2) ++ [exponentialMovingAverage] :=
    rfl
  have hmem : movingFixed name r ∈ moving := by
    rw [hmoving]
    exact List.mem_append_left _ (List.mem_cons_of_mem _ (List.mem_map.2 ⟨(name, r), h, rfl⟩))
  apply Registry.exists_get?_builtins
  · simp [Builtin.all, hmem]
  · simp [movingFixed]
  · simp [movingFixed]

/-- a window that is not given is taken for one of no points -/
theorem Reach.ofCall_of_absent {c : Call} (h : c.namedOrAt? Reach.param 1 = none) :
    Reach.ofCall c = .error (.invalidArgument c.function (.windowNotPositive 0)) := by
  have hint : c.intOr Reach.param 1 0 = .ok 0 := by
    rw [Call.intOr, Call.orDefault, Call.given?, h]
    rfl
  rw [ofCall, h, hint]
  rfl

/-- a call that says how far its window reaches gives it -/
theorem hasArg_of_reach {c : Call} {reach : Reach} (h : Reach.ofCall c = .ok reach) : c.hasArg Reach.param 1 = true := by
  rw [Call.hasArg, Option.isSome_iff_ne_none]
  intro hnone
  rw [Reach.ofCall_of_absent hnone] at h
  cases h

theorem validate_movingFixed {name : String} {r : Reducer} {c : Call} {arg : Expr} {reach : Reach} {d : Description}
    (hd : d ∈ (movingFixed name r).descriptions) (harg : c.args.head? = some arg) (hcount : c.args.length ≤ 3)
    (hreach : Reach.ofCall c = .ok reach) : d.validate c = .ok () := by
  have hfirst : c.hasArg "seriesList" 0 = true := by
    rw [List.head?_eq_getElem?] at harg
    rw [Call.hasArg, Call.namedOrAt?, Call.arg?, harg]
    simp
  have hsecond := hasArg_of_reach hreach
  rw [Reach.param] at hsecond
  rw [List.mem_singleton.1 hd]
  simp [Description.validate, Description.missingFrom, seriesList, windowParam, xFilesFactorParam, Reach.param, hfirst,
    hsecond, hcount]

theorem movingFixed_run {name : String} {r : Reducer} {ops : Operands} {c : Call} {w : Window} {reach : Reach}
    {factor : Option Float} (hreach : Reach.ofCall c = .ok reach) (hfactor : c.float? "xFilesFactor" 2 = .ok factor)
    {p q : Progress} {found : List Series} (hfound : (reachedSeries ops c reach w).runFrom p = (.ok found, q)) :
    ((movingFixed name r).evaluate ops c w).runFrom p = (.ok (found.map (moveOver name c reach r factor)), q) := by
  show (do
    let reach ← Reach.ofCall c
    let factor ← c.float? "xFilesFactor" 2
    let series ← reachedSeries ops c reach w
    pure (series.map (moveOver name c reach r factor)) : Eval _).runFrom p = _
  rw [hreach, hfactor]
  exact Eval.runFrom_bind_ok hfound

/-- **What points reach over a store** is its answer for the window from that many steps further back. -/
theorem reachedSeries_store {store : Store} {c : Call} {m : String} {n step : Int} {w : Window}
    {sampled found : List Series} (hm : c.args.head? = some (.name m)) (hsampled : store.answer ⟨m, w⟩ = .ok sampled)
    (hstep : greatestStep sampled = some step) (hspan : Time.inRange (step * n))
    (hstart : Time.inRange (w.start - step * n)) (hfound : store.answer ⟨m, w.start - step * n, w.stop⟩ = .ok found)
    (named : Keyed Windowed) {p : Progress} (hp : (store.engine false).Kept store p)
    (hheld : p.held.holds ⟨m, w⟩ = true) :
    ∃ q, (reachedSeries ⟨(store.engine false).evalAll c.args, named, fun e w => (store.engine false).fetch [e] w⟩ c
      (.points n) w).runFrom p = (.ok found, q) := by
  have hgather : gather (store.engine false).registry (.name m) ⟨w.start - step * n, w.stop⟩ =
      .ok [⟨m, w.start - step * n, w.stop⟩] := by rw [gather]
  have hanswers : store.AnswersAll [⟨m, w.start - step * n, w.stop⟩] := by
    intro r hr
    rw [List.mem_singleton.1 hr]
    exact Store.fault?_of_answer hfound
  obtain ⟨q, hfetch, hq, hholds⟩ := Engine.fetch_answered (store.engine_source false) rfl hgather hanswers hp
  have hfirst := Engine.lookUp_held hp.agrees hheld
  have hagain := Engine.lookUp_held hq.agrees (hholds _ List.mem_cons_self)
  rw [hsampled] at hfirst
  rw [hfound] at hagain
  refine ⟨q, reachedSeries_points ?_ hstep hm hspan hstart hfetch ?_⟩
  · rw [Engine.seriesAt_name hm]
    exact hfirst
  · rw [Engine.seriesAt_name hm]
    exact hagain

/-! ## Answers of the store -/

section Answers

variable {step : Int} (hstep : 0 < step) {w : Window} (hle : w.start ≤ w.stop) {series : List Series}
  (hseries : ∀ s ∈ series, s.step = step ∧ s.IndexFits w.stop)
include hstep hle hseries

/-- the series that are sampled in a window are there and tell the step -/
theorem greatestStep_part (m : String) (hsome : ∃ s ∈ series, s.inside w ≠ []) :
    greatestStep (series.filterMap (Request.part ⟨m, w⟩)) = some step := by
  refine greatestStep_eq ?_ fun u hu => ?_
  · obtain ⟨s, hs, hinside⟩ := hsome
    obtain ⟨rfl, hfits⟩ := hseries s hs
    have hcut := mt (Series.slice_eq_none_iff hstep (hfits.mono hle) hfits).1 hinside
    obtain ⟨cut, hcut⟩ := Option.ne_none_iff_exists'.1 hcut
    have hpart : Request.part ⟨m, w⟩ s = some { cut with path := m } := by rw [Request.part, hcut, Option.map_some]
    exact List.ne_nil_of_mem (List.mem_filterMap.2 ⟨s, hs, hpart⟩)
  · obtain ⟨s, hs, hu⟩ := List.mem_filterMap.1 hu
    obtain ⟨cut, hcut, rfl⟩ := Option.map_eq_some_iff.1 hu
    obtain ⟨rfl, -⟩ := hseries s hs
    rw [(Series.slice_eq_some hstep hcut).1]
    rfl

/-- each series with a sample from `n` steps before a window on is moved over, in turn, and no other -/
theorem forall₂_movedOver (m name : String) (c : Call) (n : Nat) (r : Reducer) (factor : Option Float) :
    List.Forall₂ (MovedOver n r factor w) (series.filter fun s => s.inside ⟨w.start - step * n, w.stop⟩ ≠ [])
      ((series.filterMap (Request.part ⟨m, w.start - step * n, w.stop⟩)).map
        (moveOver name c (.points n) r factor)) := by
  have hback : w.start - step * n ≤ w.stop := by
    have hnonneg : 0 ≤ step * n := Int.mul_nonneg hstep.le (Int.natCast_nonneg n)
    omega
  induction series with
  | nil => exact List.Forall₂.nil
  | cons s rest ih =>
    have hrest := ih fun u hu => hseries u (List.mem_cons_of_mem s hu)
    obtain ⟨rfl, hfits⟩ := hseries s List.mem_cons_self
    have hnone : s.slice ⟨w.start - s.step * n, w.stop⟩ = none ↔ s.inside ⟨w.start - s.step * n, w.stop⟩ = [] :=
      Series.slice_eq_none_iff hstep (hfits.mono hback) hfits
    rw [List.filterMap_cons, Request.part]
    cases hcut : s.slice ⟨w.start - s.step * n, w.stop⟩ with
    | none =>
      rw [List.filter_cons_of_neg (by simpa using hnone.1 hcut)]
      exact hrest
    | some cut =>
      have hinside : s.inside ⟨w.start - s.step * n, w.stop⟩ ≠ [] := mt hnone.2 (by simp [hcut])
      rw [List.filter_cons_of_pos (by simpa using hinside)]
      exact List.Forall₂.cons (movedOver_slice hstep hle hfits hcut name c r factor m) hrest

end Answers

end Builtin

namespace Engine

open Builtin (Reach MovedOver fixedMoving movingFixed)

/-- **Point windows reach exactly far enough.** A moving window of `n` points with a reducer of its own is asked of a
pattern whose series have one step, and of which one has a sample in the window. Then there is a series in return for
each that has a sample there or in the `n` steps before. It has the samples of the stored series in the window that have
at least `n` others before them, at their times, each with the value of the last `n` of these. All that is needed beside
is that nothing overflows: `n` steps, the time that far back, and the series or its way to the end of the window. -/
theorem execute_moving (store : Store) {target : String} {c : Call} (hparse : Target.parse target = .ok c.toExpr)
    {r : Reducer} (hfixed : (c.function, r) ∈ fixedMoving) {m : String} (hm : c.args.head? = some (.name m))
    {glob : Glob} (hglob : Glob.compile m = some glob) (hargs : ∀ e ∈ c.args, e.Plain)
    (hnamed : ∀ p ∈ c.named, p.2.Plain) (hcount : c.args.length ≤ 3) {n : Nat}
    (hreach : Reach.ofCall c = .ok (.points n)) {factor : Option Float}
    (hfactor : c.float? "xFilesFactor" 2 = .ok factor) {step : Int} (hstep : 0 < step) {w : Window}
    (hmatched : ∀ s ∈ store.matched glob, s.step = step ∧ s.IndexFits w.stop)
    (hsome : ∃ s ∈ store.matched glob, s.inside w ≠ []) (hspan : Time.inRange (step * n))
    (hstart : Time.inRange (w.start - step * n)) (p : Progress) :
    ∃ outs, (((store.engine false).execute target w).runFrom p).1 = .ok outs ∧
      List.Forall₂ (MovedOver n r factor w)
        ((store.matched glob).filter fun s => s.inside ⟨w.start - step * n, w.stop⟩ ≠ []) outs := by
  have hle : w.start ≤ w.stop := by
    obtain ⟨s, -, hinside⟩ := hsome
    obtain ⟨q, hq⟩ := List.exists_mem_of_ne_nil _ hinside
    have hwithin := (List.mem_filter.1 hq).2
    rw [decide_eq_true_eq] at hwithin
    omega
  obtain ⟨d, hd, hentry⟩ := Builtin.get?_movingFixed hfixed
  rw [← store.engine_registry false] at hentry
  have hinner : (movingFixed c.function r).window c w = .ok w := by
    show (do (← Reach.ofCall c).widen w) = _
    rw [hreach]
    rfl
  obtain ⟨requests, hgather, hanswers⟩ := gather_call_plain store _ w hentry hinner hargs hnamed
  obtain ⟨q, hfetch, hq, hholds⟩ :=
    fetch_answered (store.engine_source false) rfl hgather hanswers (kept_nil _ store p.asked)
  have hheld : q.held.holds ⟨m, w⟩ = true := by
    obtain ⟨entry, inner, hentry', hinner', hparts⟩ := gather_call hgather
    cases hentry.symm.trans hentry'
    cases hinner.symm.trans hinner'
    obtain ⟨part, hpart, hsub⟩ := hparts _ (Or.inl (List.mem_of_mem_head? hm))
    rw [gather] at hpart
    cases hpart
    exact hholds _ (hsub List.mem_cons_self)
  obtain ⟨q', hfound⟩ := Builtin.reachedSeries_store hm (store.answer_eq (r := ⟨m, w⟩) hglob)
    (Builtin.greatestStep_part hstep hle hmatched m hsome) hspan hstart
    (store.answer_eq (r := ⟨m, w.start - step * n, w.stop⟩) hglob) (evalNamed _ c.named) hq hheld
  refine ⟨_, ?_, Builtin.forall₂_movedOver hstep hle hmatched m c.function c n r factor⟩
  rw [execute_run_ok hparse, executeExpr_run, Eval.runFrom_bind_ok hfetch]
  have hvalid := Builtin.validate_movingFixed hd hm hcount hreach
  rw [eval_call_run rfl hentry hvalid, Builtin.movingFixed_run hreach hfactor hfound]

/-- two series in averages of two points, one of which begins just before the window asked for -/
theorem execute_moving_two :
    let a := Series.ofSamples "m" [1, 2, 3, 4, 5, 6] 60 0
    let b := Series.ofSamples "m" [7, 8, 9] 60 120
    ∃ o u, (((Store.engine [a, b] false).execute "movingAverage(m,2)" ⟨130, 300⟩).runFrom {}).1 = .ok [o, u] ∧
      o.samples = [(180, 2.5), (240, 3.5)] ∧ u.samples = [(240, 7.5)] := by
  intro a b
  let c : Call := ⟨"movingAverage", [.name "m", .number 2 "2"], [], "m,2"⟩
  have hparse : Target.parse "movingAverage(m,2)" = .ok c.toExpr := by
    have hread : (Target.parse "movingAverage(m,2)").toOption.bind Expr.nameAndNumber? =
        some ("movingAverage", "m", 2, "2", "m,2") := by decide +kernel
    cases hparse : Target.parse "movingAverage(m,2)" with
    | ok e =>
      rw [hparse] at hread
      exact congrArg Except.ok (Expr.eq_of_nameAndNumber? hread)
    | error =>
      rw [hparse] at hread
      cases hread
  have hreach : Reach.ofCall c = .ok (.points (2 : Nat)) := by
    have hfinite : (2 : Float).isFinite = true := by decide +kernel
    have hwhole : truncate 2 = 2 := by decide +kernel
    have hwindow : c.intOr Reach.param 1 0 = .ok 2 := by
      show (if (2 : Float).isFinite then Except.ok (truncate 2) else .error (Arguments.badType c Reach.param "integer"
        (.number 2 "2"))) = _
      rw [if_pos hfinite, hwhole]
    show (do
      let n ← c.intOr Reach.param 1 0
      if n ≤ 0 then .error (.invalidArgument c.function (.windowNotPositive n)) else .ok (Reach.points n)) = _
    rw [hwindow]
    rfl
  have hglob : Glob.compile "m" = some [.char 'm'] := by
    have hread : Glob.parse "m" = some [.char 'm'] := by cbv
    have hfits : Glob.fits [.char 'm'] = true := by decide +kernel
    rw [Glob.compile, hread, Option.filter_some, if_pos hfits]
  have hargs : ∀ e ∈ c.args, e.Plain := by
    intro e he
    rcases List.mem_pair.1 he with rfl | rfl
    · exact ⟨_, hglob⟩
    · trivial
  have hmatched : Store.matched [a, b] [.char 'm'] = [a, b] := List.filter_eq_self.2 (by decide +kernel)
  have hseries : ∀ s ∈ Store.matched [a, b] [.char 'm'], s.step = 60 ∧ s.IndexFits 300 := by
    rw [hmatched]
    decide +kernel
  have hsome : ∃ s ∈ Store.matched [a, b] [.char 'm'], s.inside ⟨130, 300⟩ ≠ [] := by
    rw [hmatched]
    decide +kernel
  obtain ⟨outs, hrun, hall⟩ := execute_moving [a, b] hparse List.mem_cons_self rfl hglob hargs (by simp [c])
    (by decide) hreach rfl (by decide) hseries hsome (by decide) (by decide) {}
  have hreached : [a, b].filter (fun s => s.inside ⟨130 - 60 * (2 : Nat), 300⟩ ≠ []) = [a, b] :=
    List.filter_eq_self.2 (by decide +kernel)
  rw [hmatched, hreached] at hall
  obtain ⟨o, rest, ho, hrest, rfl⟩ := List.forall₂_cons_left_iff.1 hall
  obtain ⟨u, rest, hu, hnil, rfl⟩ := List.forall₂_cons_left_iff.1 hrest
  rw [List.forall₂_nil_left_iff.1 hnil] at hrun
  refine ⟨o, u, hrun, ho.samples_eq.trans ?_, hu.samples_eq.trans ?_⟩
  · decide +kernel
  · decide +kernel

end Engine

end MetricQuery
