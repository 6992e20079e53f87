/-
Agreement of the two phases of an evaluation.

The requests of an expression are gathered and fetched before it is evaluated (`gather`, `Engine.fetch`), and
evaluation looks series up by path and window (`Engine.eval`). The window of a name is thus worked out twice, on the
way down through the announced windows of the functions and again by the functions themselves.

- `settles_eval`: with the gathered requests held, an expression settles: its series are never missing, and what it
  comes to does not depend on what else is held. Moving windows of points fetch their argument again in
  mid-evaluation, so the induction carries every set of held requests that contains the gathered ones.
- `settles_quietly`: without a moving window of points nothing is asked either.
- `execute_agrees`: hence no target ever fails for a request that was not fetched, and apart from moving windows of
  points the first batch is all that is asked.
-/
import MetricQuery.Proofs.Result
import MetricQuery.Proofs.Engine.Fetching
import MetricQuery.Proofs.Builtin.Operands
import MetricQuery.Proofs.Builtin.Registry
import MetricQuery.Proofs.Target.Tree

namespace MetricQuery

open Target (Expr Call)
open Time (Window)
open Discipline (Holds)

/-! ## Moving windows of points -/

/-- the names of the functions of a moving window -/
def Builtin.movingNames : List String :=
  Builtin.moving.flatMap fun f => f.descriptions.map Description.name

example : Builtin.movingNames = ["movingWindow", "movingAverage", "movingSum", "movingMin", "movingMax", "movingMedian",
    "exponentialMovingAverage"] := rfl

/-- a call of a moving window that is given as a number of points -/
def Target.Call.MovesByPoints (c : Call) : Prop :=
  c.function ∈ Builtin.movingNames ∧ ∃ n, Builtin.Reach.ofCall c = .ok (.points n)

/-- a moving window of points occurs in an expression -/
def Target.Expr.MovesByPoints (e : Expr) : Prop :=
  ∃ c, Target.Occurs c e ∧ c.MovesByPoints

theorem Target.Expr.not_movesByPoints_name (path : String) : ¬ (Expr.name path).MovesByPoints := by
  rintro ⟨c, ho, -⟩
  cases ho

theorem Target.Expr.not_movesByPoints_string (value : String) (quote : Target.Quote) :
    ¬ (Expr.string value quote).MovesByPoints := by
  rintro ⟨c, ho, -⟩
  cases ho

/-- a call of another function moves by points if one of its arguments does -/
theorem Target.Expr.movesByPoints_call {f : String} {args : List Expr} {named : List (String × Expr)} {argText : String}
    (hf : f ∉ Builtin.movingNames) (h : (Expr.call f args named argText).MovesByPoints) :
    (∃ e ∈ args, e.MovesByPoints) ∨ ∃ p ∈ named, p.2.MovesByPoints := by
  obtain ⟨c, ho, hc⟩ := h
  cases ho with
  | self => exact absurd hc.1 hf
  | arg he ho => exact Or.inl ⟨_, he, c, ho, hc⟩
  | named hp ho => exact Or.inr ⟨_, hp, c, ho, hc⟩

/-! ## Gathered requests -/

theorem gatherAll_of_mem {registry : Registry} {es : List Expr} {w : Window} {requests : List Request}
    (h : gatherAll registry es w = .ok requests) {e : Expr} (he : e ∈ es) :
    ∃ part, gather registry e w = .ok part ∧ part ⊆ requests := by
  induction es generalizing requests with
  | nil => cases he
  | cons e' es ih =>
    rw [gatherAll, bind_eq_ok] at h
    obtain ⟨first, hfirst, h⟩ := h
    obtain ⟨rest, hrest, h⟩ := bind_eq_ok.1 h
    cases h
    rcases List.mem_cons.1 he with rfl | he
    · exact ⟨first, hfirst, List.subset_append_left first rest⟩
    · obtain ⟨part, hpart, hsub⟩ := ih hrest he
      exact ⟨part, hpart, fun r hr => List.mem_append_right _ (hsub hr)⟩

theorem gatherNamed_eq (registry : Registry) (named : List (String × Expr)) (w : Window) :
    gatherNamed registry named w = gatherAll registry (named.map Prod.snd) w := by
  induction named with
  | nil => rfl
  | cons p named ih =>
    obtain ⟨k, e⟩ := p
    rw [gatherNamed, List.map_cons, gatherAll, ih]

/-- what holds of the arguments of a call, by place and by name, as its two lists give them -/
theorem forall_argument {args : List Expr} {named : List (String × Expr)} {P : Expr → Prop} (hargs : ∀ e ∈ args, P e)
    (hnamed : ∀ p ∈ named, P p.2) (e : Expr) (he : e ∈ args ∨ e ∈ named.map Prod.snd) : P e := by
  rcases he with he | he
  · exact hargs e he
  · obtain ⟨p, hp, rfl⟩ := List.mem_map.1 he
    exact hnamed p hp

/-- a call gathers what its arguments need over the window its function announces -/
theorem gather_call {registry : Registry} {f : String} {args : List Expr} {named : List (String × Expr)}
    {argText : String} {w : Window} {requests : List Request}
    (h : gather registry (.call f args named argText) w = .ok requests) :
    ∃ entry inner, registry.get? f = some entry ∧ entry.function.window ⟨f, args, named, argText⟩ w = .ok inner ∧
      ∀ e, e ∈ args ∨ e ∈ named.map Prod.snd → ∃ part, gather registry e inner = .ok part ∧ part ⊆ requests := by
  rw [gather, bind_eq_ok] at h
  obtain ⟨entry, hentry, h⟩ := h
  obtain ⟨inner, hinner, h⟩ := bind_eq_ok.1 h
  obtain ⟨first, hfirst, h⟩ := bind_eq_ok.1 h
  obtain ⟨second, hsecond, h⟩ := bind_eq_ok.1 h
  cases h
  rw [gatherNamed_eq] at hsecond
  refine ⟨entry, inner, Registry.resolve_eq_ok.1 hentry, hinner, fun e he => ?_⟩
  rcases he with he | he
  · obtain ⟨part, hpart, hsub⟩ := gatherAll_of_mem hfirst he
    exact ⟨part, hpart, fun r hr => List.mem_append_left _ (hsub hr)⟩
  · obtain ⟨part, hpart, hsub⟩ := gatherAll_of_mem hsecond he
    exact ⟨part, hpart, fun r hr => List.mem_append_right _ (hsub hr)⟩

theorem neverMissing_resolve (registry : Registry) (f : String) : NeverMissing (registry.resolve f) := by
  unfold Registry.resolve
  split <;> simp

/-- gathering fails with an error of a function or an argument, never with a missing request -/
theorem neverMissing_gather (e : Expr) (w : Window) : NeverMissing (gather Registry.builtins e w) := by
  have hall : ∀ es : List Expr, (∀ e ∈ es, ∀ w, NeverMissing (gather Registry.builtins e w)) →
      ∀ w, NeverMissing (gatherAll Registry.builtins es w) := by
    intro es hes w
    induction es with
    | nil => simp [gatherAll]
    | cons e es ih =>
      have hrest := ih fun e' he' => hes e' (List.mem_cons_of_mem _ he')
      simp [gatherAll, hes e List.mem_cons_self w, hrest]
  induction e using Expr.induct generalizing w with
  | name path => simp [gather]
  | call f args named argText hargs hnamed =>
    have hresolve : NeverMissing (Registry.builtins.resolve f) := neverMissing_resolve Registry.builtins f
    have hwindow : ∀ entry, Registry.builtins.resolve f = .ok entry → ∀ c w, NeverMissing (entry.function.window c w) :=
      fun entry he c w =>
        have hentry := Registry.builtins_get? (Registry.resolve_eq_ok.1 he)
        ((Builtin.all_keepWindow _ hentry.1).window c w).neverMissing
    simp only [gather, gatherNamed_eq, NeverMissing.bind_iff, NeverMissing.ok, implies_true, and_true]
    refine ⟨hresolve, fun entry he => ⟨hwindow entry he _ w, fun inner _ => ⟨?_, fun first _ => ?_⟩⟩⟩
    · exact hall args (fun e he w => hargs e he w) inner
    · refine hall (named.map Prod.snd) (fun e he w => ?_) inner
      obtain ⟨p, hp, rfl⟩ := List.mem_map.1 he
      exact hnamed p hp w
  | number value literal => simp [gather]
  | string value quote => simp [gather]
  | flag value => simp [gather]

/-! ## Operands of a call -/

namespace Engine

theorem evalAll_eq (g : Engine) (es : List Expr) : evalAll g es = es.map (eval g) := by
  induction es with
  | nil => rfl
  | cons e es ih => rw [evalAll, ih, List.map_cons]

theorem evalNamed_eq (g : Engine) (named : List (String × Expr)) :
    evalNamed g named = named.map fun p => (p.1, eval g p.2) := by
  induction named with
  | nil => rfl
  | cons p named ih =>
    obtain ⟨k, e⟩ := p
    rw [evalNamed, ih, List.map_cons]

/-- a call follows a discipline that its arguments follow over the window its function announces, and, where it is a
moving window of points, after being fetched again -/
theorem holds_call {g : Engine} (hreg : g.registry = Registry.builtins) {D : Discipline}
    (hD : ∀ e : EvalError, (∀ request, e ≠ .missingData request) → D.Allows e) {f : String} {args : List Expr}
    {named : List (String × Expr)} {argText : String} {w : Window}
    (hargs : ∀ entry inner, g.registry.get? f = some entry →
      entry.function.window ⟨f, args, named, argText⟩ w = .ok inner →
      ∀ e, e ∈ args ∨ e ∈ named.map Prod.snd → D.Holds (g.eval e inner))
    (hagain : Call.MovesByPoints ⟨f, args, named, argText⟩ → ∀ e ∈ args, ∀ inner,
      D.Holds (do g.fetch [e] inner; g.eval e inner)) :
    D.Holds (g.eval (.call f args named argText) w) := by
  rw [eval]
  unfold apply
  have hlift : ∀ {α : Type} {x : Except EvalError α}, NeverMissing x → FailsOnly x D.Allows :=
    fun hx => (neverMissing_iff.1 hx).imp hD
  refine Holds.guarded (hD .cancelled (by simp)) ?_
  refine Holds.lift_bind (hlift (neverMissing_resolve g.registry f)) fun entry hentry => ?_
  refine (Holds.lift (hlift (NeverMissing.validate entry.description _))).bind fun _ => ?_
  have hget := Registry.resolve_eq_ok.1 hentry
  have hbuiltin := hget
  rw [hreg] at hbuiltin
  obtain ⟨hall, hdesc, hname⟩ := Registry.builtins_get? hbuiltin
  refine (Builtin.all_keepWindow _ hall).evaluate (fun e he => hD e he.ne_missingData) (by simp [evalAll_eq])
    (fun inner hw => ⟨fun arg harg => ?_, fun p hp => ?_⟩) ?_
  · rw [evalAll_eq] at harg
    obtain ⟨e, he, rfl⟩ := List.mem_map.1 harg
    exact hargs entry inner hget hw e (Or.inl he)
  · rw [evalNamed_eq] at hp
    obtain ⟨q, hq, rfl⟩ := List.mem_map.1 hp
    exact hargs entry inner hget hw q.2 (Or.inr (List.mem_map_of_mem hq))
  · -- a function that fetches again is one of the moving windows, so the call goes by one of their names
    rintro ⟨hmoving, hpoints⟩ e arg he harg inner
    have hnames : f ∈ Builtin.movingNames :=
      List.mem_flatMap.2 ⟨entry.function, hmoving, List.mem_map.2 ⟨entry.description, hdesc, hname⟩⟩
    simp only [evalAll_eq, List.head?_map] at he harg
    rw [he] at harg
    cases harg
    exact hagain ⟨hnames, hpoints⟩ e (List.mem_of_mem_head? he) inner

/-- a call whose requests are gathered settles as its arguments do with theirs -/
theorem settles_call {g : Engine} (hreg : g.registry = Registry.builtins) {R : Regime} {f : String} {args : List Expr}
    {named : List (String × Expr)} {argText : String} {w : Window} {requests : List Request}
    (hgather : gather g.registry (.call f args named argText) w = .ok requests)
    (hargs : ∀ e, e ∈ args ∨ e ∈ named.map Prod.snd → ∀ inner part, gather g.registry e inner = .ok part →
      part ⊆ requests → Settles R (g.eval e inner))
    (hagain : Call.MovesByPoints ⟨f, args, named, argText⟩ → ∀ e ∈ args, ∀ inner,
      Settles R (do g.fetch [e] inner; g.eval e inner)) :
    Settles R (g.eval (.call f args named argText) w) := by
  refine holds_call hreg (D := Discipline.settling R) (fun _ he => he) (fun entry inner hentry hinner e he => ?_) hagain
  obtain ⟨entry', inner', hentry', hinner', hparts⟩ := gather_call hgather
  cases hentry.symm.trans hentry'
  cases hinner.symm.trans hinner'
  obtain ⟨part, hpart, hsub⟩ := hparts e he
  exact hargs e he inner part hpart hsub

/-! ## Regimes of an engine over a store -/

/-- certain requests are held, and entries are only added -/
def regime (g : Engine) (store : Store) (asks : Request → Prop) : Regime where
  Fit p := g.Kept store p ∧ ∀ r, asks r → p.held.holds r = true
  Leads := g.Grows store
  leads_refl := Grows.refl g store
  leads_trans := Grows.trans
  fit_of_leads := fun h hl => ⟨hl.kept h.1, fun r hr => hl.holds h.1 (h.2 r hr)⟩

/-- certain requests are held, and nothing is asked -/
def quiet (g : Engine) (store : Store) (asks : Request → Prop) : Regime where
  Fit p := g.Kept store p ∧ ∀ r, asks r → p.held.holds r = true
  Leads p q := q = p
  leads_refl _ := rfl
  leads_trans h1 h2 := h2.trans h1
  fit_of_leads h hl := hl ▸ h

theorem lookUp_run (request : Request) (p : Progress) :
    (lookUp request).runFrom p = (match p.held.get? request with
      | some series => .ok series
      | none => .error (.missingData request), p) := by
  unfold lookUp
  rw [Eval.runFrom_bind, Eval.runFrom_get]
  dsimp only
  cases p.held.get? request <;> rfl

/-- a request that is held is answered as the store answers it -/
theorem lookUp_held {store : Store} {request : Request} {p : Progress} (hagrees : store.Agrees p.held)
    (hheld : p.held.holds request = true) :
    (lookUp request).runFrom p = ((store.answer request).mapError EvalError.fetch, p) := by
  obtain ⟨series, hs⟩ := Holdings.holds_iff.1 hheld
  rw [lookUp_run, hs, hagrees request series hs]
  rfl

theorem settles_lookUp {store : Store} {R : Regime} {request : Request}
    (hfit : ∀ p, R.Fit p → store.Agrees p.held ∧ p.held.holds request = true) : Settles R (lookUp request) := by
  refine ⟨(store.answer request).mapError EvalError.fetch, ?_, fun p hp => ?_⟩
  · cases store.answer request <;> simp [Except.mapError]
  · rw [lookUp_held (hfit p hp).1 (hfit p hp).2]
    exact ⟨rfl, R.leads_refl p⟩

theorem settles_notSeries {R : Regime} {e : EvalError} (h : ∀ request, e ≠ .missingData request) :
    Settles R (throw e : Eval (List Series)) :=
  Settles.lift (x := .error e) ((NeverMissing.error_iff e).2 h)

section OverStore

variable {g : Engine} {store : Store} (hreg : g.registry = Registry.builtins) (hg : g.source = store.source)
include hreg

theorem neverMissing_fetched (es : List Expr) (w : Window) : NeverMissing (g.fetched store es w) := by
  have hrequests : NeverMissing (es.mapM fun e => g.registry.requests e w) := by
    refine NeverMissing.mapM fun e _ => ?_
    rw [hreg, Registry.requests, NeverMissing.map_iff]
    exact neverMissing_gather e w
  unfold fetched
  split
  · rename_i error he
    rw [he] at hrequests
    simpa using hrequests
  · split_ifs
    · simp
    · simp
    · split <;> simp

include hg

/-- an expression fetched and evaluated settles, provided it settles once its requests are held -/
theorem settles_fetch_eval {e : Expr} (asks : Request → Prop) (w : Window)
    (he : ∀ (asks : Request → Prop) requests, gather g.registry e w = .ok requests → (∀ r ∈ requests, asks r) →
      Settles (g.regime store asks) (g.eval e w)) :
    Settles (g.regime store asks) (do g.fetch [e] w; g.eval e w) := by
  cases hf : g.fetched store [e] w with
  | error error =>
    have hnm : NeverMissing (g.fetched store [e] w) := neverMissing_fetched hreg [e] w
    rw [hf] at hnm
    refine ⟨.error error, by simpa using hnm, fun p hp => ?_⟩
    have hrun := fetch_result hg hp.1 [e] w
    rw [hf] at hrun
    rw [Eval.runFrom_bind_error (Prod.ext hrun rfl)]
    exact ⟨rfl, fetch_grows hg [e] w p⟩
  | ok u =>
    obtain ⟨requests, hgather⟩ := gather_of_fetched hf
    obtain ⟨v, hv, heval⟩ := he (fun r => asks r ∨ r ∈ requests) requests hgather fun r hr => Or.inr hr
    refine ⟨v, hv, fun p hp => ?_⟩
    have hrun := fetch_result hg hp.1 [e] w
    have hgrows := fetch_grows hg [e] w p
    rw [hf] at hrun
    have hrun' : (g.fetch [e] w).runFrom p = (.ok (), ((g.fetch [e] w).runFrom p).2) := Prod.ext hrun rfl
    rw [Eval.runFrom_bind_ok hrun']
    have hfit : (g.regime store fun r => asks r ∨ r ∈ requests).Fit ((g.fetch [e] w).runFrom p).2 := by
      refine ⟨hgrows.kept hp.1, fun r hr => ?_⟩
      rcases hr with hr | hr
      · exact hgrows.holds hp.1 (hp.2 r hr)
      · exact fetch_holds hg hgather hrun' r hr
    obtain ⟨h1, h2⟩ := heval _ hfit
    exact ⟨h1, hgrows.trans h2⟩

/-- **With its requests held, an expression settles.** -/
theorem settles_eval (e : Expr) (w : Window) (asks : Request → Prop) (requests : List Request)
    (hgather : gather g.registry e w = .ok requests) (hasks : ∀ r ∈ requests, asks r) :
    Settles (g.regime store asks) (g.eval e w) := by
  induction e using Expr.induct generalizing w asks requests with
  | name path =>
    cases hgather
    exact settles_lookUp fun p hp => ⟨hp.1.agrees, hp.2 _ (hasks _ List.mem_cons_self)⟩
  | call f args named argText hargs hnamed =>
    refine settles_call hreg hgather (fun e he inner part hpart hsub => ?_) fun _ e he inner => ?_
    · exact forall_argument hargs hnamed e he inner asks part hpart fun r hr => hasks r (hsub hr)
    · exact settles_fetch_eval hreg hg asks inner (hargs e he inner)
  | number value literal => exact settles_notSeries (by simp [notSeries])
  | string value quote => exact settles_notSeries (by simp [notSeries])
  | flag value => exact settles_notSeries (by simp [notSeries])

omit hg in
/-- **Without a moving window of points an expression asks for nothing** once its requests are held. -/
theorem settles_quietly (e : Expr) (hpoints : ¬ e.MovesByPoints) (w : Window) (asks : Request → Prop)
    (requests : List Request) (hgather : gather g.registry e w = .ok requests) (hasks : ∀ r ∈ requests, asks r) :
    Settles (g.quiet store asks) (g.eval e w) := by
  induction e using Expr.induct generalizing w asks requests with
  | name path =>
    cases hgather
    exact settles_lookUp fun p hp => ⟨hp.1.agrees, hp.2 _ (hasks _ List.mem_cons_self)⟩
  | call f args named argText hargs hnamed =>
    refine settles_call hreg hgather (fun e he inner part hpart hsub => ?_) fun hmoves => ?_
    · have hargs' : ∀ e ∈ args, ¬ e.MovesByPoints := fun e he ⟨c, ho, hc⟩ => hpoints ⟨c, .arg he ho, hc⟩
      have hnamed' : ∀ p ∈ named, ¬ p.2.MovesByPoints := fun p hp ⟨c, ho, hc⟩ => hpoints ⟨c, .named hp ho, hc⟩
      have hinside : ¬ e.MovesByPoints := forall_argument hargs' hnamed' e he
      exact forall_argument hargs hnamed e he hinside inner asks part hpart fun r hr => hasks r (hsub hr)
    · exact absurd ⟨_, .self, hmoves⟩ hpoints
  | number value literal => exact settles_notSeries (by simp [notSeries])
  | string value quote => exact settles_notSeries (by simp [notSeries])
  | flag value => exact settles_notSeries (by simp [notSeries])

end OverStore

/-! ## Whole targets -/

theorem executeExpr_run (g : Engine) (e : Expr) (w : Window) (p : Progress) :
    (g.executeExpr e w).runFrom p = (((do g.fetch [e] w; g.eval e w : Eval _).runFrom { p with held := [] }).1,
      { ((do g.fetch [e] w; g.eval e w : Eval _).runFrom { p with held := [] }).2 with held := p.held }) := rfl

theorem execute_run_ok {target : String} {e : Expr} (h : Target.parse target = .ok e) (g : Engine) (w : Window)
    (p : Progress) : (g.execute target w).runFrom p = (g.executeExpr e w).runFrom p := by
  rw [execute, h]

theorem execute_run_error {target : String} {error : Target.ReadError} (h : Target.parse target = .error error)
    (g : Engine) (w : Window) (p : Progress) : (g.execute target w).runFrom p = (.error (.parse error), p) := by
  rw [execute, h]
  rfl

theorem kept_nil (g : Engine) (store : Store) (asked : List (List Request)) : g.Kept store ⟨[], asked⟩ :=
  ⟨store.agrees_nil, fun _ => rfl⟩

section OverStore

variable {g : Engine} {store : Store} (hreg : g.registry = Registry.builtins) (hg : g.source = store.source)
include hreg hg

/-- an expression on holdings of its own fails for no missing request -/
theorem neverMissing_executeExpr (e : Expr) (w : Window) (p : Progress) :
    NeverMissing ((g.executeExpr e w).runFrom p).1 := by
  rw [executeExpr_run]
  obtain ⟨v, hv, hrun⟩ := settles_fetch_eval hreg hg (fun _ => False) w fun asks requests hgather hasks =>
    settles_eval hreg hg e w asks requests hgather hasks
  rw [(hrun _ ⟨kept_nil g store p.asked, fun r hr => hr.elim⟩).1]
  exact hv

/-- without a moving window of points, an expression on holdings of its own asks what its first fetch asks -/
theorem asked_executeExpr {e : Expr} (hpoints : ¬ e.MovesByPoints) (w : Window) (p : Progress) :
    ((g.executeExpr e w).runFrom p).2.asked = ((g.fetch [e] w).runFrom { p with held := [] }).2.asked := by
  rw [executeExpr_run]
  cases hf : (g.fetch [e] w).runFrom { p with held := [] } with
  | mk r q =>
    cases r with
    | error error => rw [Eval.runFrom_bind_error hf]
    | ok u =>
      rw [Eval.runFrom_bind_ok hf]
      have hresult := fetch_result hg (kept_nil g store p.asked) [e] w
      have hgrows := fetch_grows hg [e] w { p with held := [] }
      rw [hf] at hresult hgrows
      obtain ⟨requests, hgather⟩ := gather_of_fetched hresult.symm
      have hsettles : Settles (g.quiet store (· ∈ requests)) (g.eval e w) :=
        settles_quietly hreg e hpoints w (· ∈ requests) requests hgather fun r hr => hr
      obtain ⟨v, -, hrun⟩ := hsettles
      have hfit : (g.quiet store (· ∈ requests)).Fit q :=
        ⟨hgrows.kept (kept_nil g store p.asked), fetch_holds hg hgather hf⟩
      rw [(hrun q hfit).2]

end OverStore

/-- **The phases agree.** Over any store and window no target fails because a request was not fetched: whatever its
evaluation looks up, through any nesting of functions and after any second fetch, was asked for before. Without a moving
window of points it asks for the requests of the target in one batch and never again; it asks nothing if it is
cancelled, or if the target has no requests or fails to tell them. -/
theorem execute_agrees (store : Store) (cancelled : Bool) (target : String) (w : Window) (p : Progress) :
    (∀ request, (((store.engine cancelled).execute target w).runFrom p).1 ≠ .error (.missingData request)) ∧
      ∀ e, Target.parse target = .ok e → ¬ e.MovesByPoints →
        let asked := (((store.engine cancelled).execute target w).runFrom p).2.asked
        let requests := Registry.builtins.requests e w
        (asked = p.asked ∧ (cancelled = true ∨ requests = .ok [] ∨ ∃ error, requests = .error error)) ∨
          (cancelled = false ∧ ∃ batch, batch ≠ [] ∧ requests = .ok batch ∧ asked = p.asked ++ [batch]) := by
  refine ⟨?_, fun e he hpoints => ?_⟩
  · cases hparse : Target.parse target with
    | error error =>
      rw [execute_run_error hparse]
      simp
    | ok e =>
      rw [execute_run_ok hparse]
      exact neverMissing_executeExpr (store.engine_registry cancelled) (store.engine_source cancelled) e w p
  · dsimp only
    rw [execute_run_ok he, asked_executeExpr (store.engine_registry cancelled) (store.engine_source cancelled) hpoints]
    have hfetch := asked_fetch_nil (store.engine_source cancelled) e w p.asked
    rw [store.engine_registry cancelled] at hfetch
    exact hfetch

/-- the hits of a shifted series, counted from whole minutes on, beside another series: one batch with both requests -/
theorem execute_agrees_sum :
    let store : Store := [Series.ofSamples "a" [1, 2, 3, 4] 60 0, Series.ofSamples "b" [5, 6] 60 60]
    let target := "sum(hitcount(timeShift(a,'10s'),'1min',true),b)"
    ∃ e, Target.parse target = .ok e ∧ ¬ e.MovesByPoints ∧
      (∀ request, (((store.engine false).execute target ⟨95, 200⟩).runFrom {}).1 ≠ .error (.missingData request)) ∧
      (((store.engine false).execute target ⟨95, 200⟩).runFrom {}).2.asked =
        [[⟨"a", ⟨50, 190⟩⟩, ⟨"b", ⟨95, 200⟩⟩]] := by
  intro store target
  let shifted : Expr := .call "timeShift" [.name "a", .string "10s" .single] [] "a,'10s'"
  let hits : Expr :=
    .call "hitcount" [shifted, .string "1min" .single, .string "true" .single] [] "timeShift(a,'10s'),'1min',true"
  let e : Expr := .call "sum" [hits, .name "b"] [] "hitcount(timeShift(a,'10s'),'1min',true),b"
  have htarget : Target.parse target = .ok e := by cbv
  have hrequests : Registry.builtins.requests e ⟨95, 200⟩ = .ok [⟨"a", ⟨50, 190⟩⟩, ⟨"b", ⟨95, 200⟩⟩] := by cbv
  have hshifted : ¬ shifted.MovesByPoints := fun h => by
    simpa [Expr.not_movesByPoints_name, Expr.not_movesByPoints_string] using Expr.movesByPoints_call (by decide) h
  have hhits : ¬ hits.MovesByPoints := fun h => by
    simpa [hshifted, Expr.not_movesByPoints_string] using Expr.movesByPoints_call (by decide) h
  have hpoints : ¬ e.MovesByPoints := fun h => by
    simpa [hhits, Expr.not_movesByPoints_name] using Expr.movesByPoints_call (by decide) h
  obtain ⟨hfetched, hasked⟩ := execute_agrees store false target ⟨95, 200⟩ {}
  refine ⟨e, htarget, hpoints, hfetched, ?_⟩
  rcases hasked e htarget hpoints with ⟨-, hcancelled | hnone | ⟨error, herror⟩⟩ | ⟨-, batch, -, hbatch, hasked⟩
  · cases hcancelled
  · rw [hrequests] at hnone
    cases hnone
  · rw [hrequests] at herror
    cases herror
  · rw [hrequests] at hbatch
    cases hbatch
    exact hasked

end Engine

end MetricQuery
