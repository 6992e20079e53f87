/-
Calls evaluated over a store.

A target that is a call comes to what its function makes of its operands, once what the arguments need over the window
that the function announces is held (`Ready`). There an argument that is a pattern comes to the parts of the series it
matches (`seriesAt_ready`). `execute_call` goes this way forward, for a call that is valid with plain arguments, and
`execute_call_ok` backward from a result, whatever the arguments are.
-/
import MetricQuery.Proofs.Engine.PointWindow

namespace MetricQuery

open Target (Expr Call)
open Time (Window)

/-! ## Steps of a run -/

theorem Eval.runFrom_bind_eq_ok {α β : Type} {x : Eval α} {f : α → Eval β} {p : Progress} {b : β}
    (h : ((x >>= f).runFrom p).1 = .ok b) : ∃ a q, x.runFrom p = (.ok a, q) ∧ ((f a).runFrom q).1 = .ok b := by
  cases hx : x.runFrom p with
  | mk r q =>
    cases r with
    | error e =>
      rw [runFrom_bind_error hx] at h
      cases h
    | ok a =>
      rw [runFrom_bind_ok hx] at h
      exact ⟨a, q, rfl, h⟩

/-- what is read off the call first was read without an error -/
theorem Eval.runFrom_lift_bind_eq_ok {α β : Type} {x : Except EvalError α} {f : α → Eval β} {p : Progress} {b : β}
    (h : (((liftM x : Eval α) >>= f).runFrom p).1 = .ok b) : ∃ a, x = .ok a ∧ ((f a).runFrom p).1 = .ok b := by
  cases x with
  | error e => cases h
  | ok a => exact ⟨a, rfl, h⟩

/-! ## Calls of leaves -/

theorem Target.Call.hasArg_of_arg {c : Call} {i : Nat} {arg : Expr} (h : c.args[i]? = some arg) (key : String) :
    c.hasArg key i = true := by
  rw [hasArg, namedOrAt?, arg?, h]
  simp

/-- an argument that is no call, as data that can be compared, which trees cannot -/
inductive Target.Leaf where
  | name (path : String)
  | number (value : Float) (literal : String)
  | string (value : String) (quote : Target.Quote)
  | flag (value : Bool)
  deriving DecidableEq

def Target.Leaf.toExpr : Leaf → Expr
  | name path => .name path
  | number value literal => .number value literal
  | string value quote => .string value quote
  | flag value => .flag value

def Target.Expr.leaf? : Expr → Option Leaf
  | .name path => some (.name path)
  | .number value literal => some (.number value literal)
  | .string value quote => some (.string value quote)
  | .flag value => some (.flag value)
  | .call .. => none

/-- the name, arguments and argument text of a call of leaves by place -/
def Target.Expr.leafCall? : Expr → Option (String × List Leaf × String)
  | .call f args [] argText => (args.mapM leaf?).map fun leaves => (f, leaves, argText)
  | _ => none

theorem Target.Expr.toExpr_of_leaf? {e : Expr} {leaf : Leaf} (h : e.leaf? = some leaf) : leaf.toExpr = e := by
  cases e <;> cases h <;> rfl

theorem Target.Expr.map_toExpr_of_mapM {args : List Expr} {leaves : List Leaf} (h : args.mapM leaf? = some leaves) :
    leaves.map Leaf.toExpr = args := by
  induction args generalizing leaves with
  | nil =>
    cases h
    rfl
  | cons e args ih =>
    rw [List.mapM_cons] at h
    obtain ⟨leaf, hleaf, h⟩ := Option.bind_eq_some_iff.1 h
    obtain ⟨rest, hrest, h⟩ := Option.bind_eq_some_iff.1 h
    cases h
    rw [List.map_cons, ih hrest, toExpr_of_leaf? hleaf]

/-- a target is read as a call of leaves if its parts are those of one -/
theorem Target.parse_of_leafCall? {target f argText : String} {leaves : List Leaf}
    (h : (Target.parse target).toOption.bind Expr.leafCall? = some (f, leaves, argText)) :
    Target.parse target = .ok (Call.toExpr ⟨f, leaves.map Leaf.toExpr, [], argText⟩) := by
  cases hparse : Target.parse target with
  | error e =>
    rw [hparse] at h
    cases h
  | ok e =>
    rw [hparse] at h
    change e.leafCall? = _ at h
    unfold Expr.leafCall? at h
    split at h
    · rename_i g args text
      obtain ⟨found, hfound, heq⟩ := Option.map_eq_some_iff.1 h
      cases heq
      rw [Call.toExpr, Expr.map_toExpr_of_mapM hfound]
    · cases h

/-- a pattern that is read, and not too long, is matched as it was read -/
theorem Glob.compile_of_parse {pattern : String} {glob : Glob} (hread : Glob.parse pattern = some glob)
    (hfits : glob.fits = true) : Glob.compile pattern = some glob := by
  rw [compile, hread, Option.filter_some, if_pos hfits]

/-- the pattern of the calls that are worked through as examples -/
theorem Glob.compile_m : Glob.compile "m" = some [.char 'm'] :=
  compile_of_parse (by cbv) (by decide +kernel)

namespace Engine

/-! ## Operands over a store -/

/-- what a call is evaluated with -/
def operands (g : Engine) (c : Call) : Operands :=
  ⟨evalAll g c.args, evalNamed g c.named, fun e w => g.fetch [e] w⟩

/-- what is held is the store's, and what the arguments of a call that are patterns need over a window is held -/
structure Ready (store : Store) (c : Call) (w : Window) (q : Progress) : Prop where
  kept : (store.engine false).Kept store q
  held : ∀ m, Expr.name m ∈ c.args ∨ Expr.name m ∈ c.named.map Prod.snd → q.held.holds ⟨m, w⟩ = true

/-- a pattern that is held comes to what the store has of it -/
theorem lookUp_pattern {store : Store} {q : Progress} (hq : (store.engine false).Kept store q) {m : String} {w : Window}
    (hheld : q.held.holds ⟨m, w⟩ = true) {glob : Glob} (hglob : Glob.compile m = some glob) :
    (lookUp ⟨m, w⟩).runFrom q = (.ok ((store.matched glob).filterMap (Request.part ⟨m, w⟩)), q) := by
  rw [lookUp_held hq.agrees hheld, store.answer_eq (r := ⟨m, w⟩) hglob]
  rfl

theorem arg_operands (g : Engine) (c : Call) (i : Nat) : (g.operands c).args[i]? = (c.args[i]?).map g.eval := by
  show (evalAll g c.args)[i]? = _
  rw [evalAll_eq, List.getElem?_map]

theorem named_operands (g : Engine) (c : Call) (key : String) :
    (g.operands c).named.get? key = (c.named? key).map g.eval := by
  show Keyed.get? (evalNamed g c.named) key = _
  rw [evalNamed_eq]
  exact Keyed.get?_map g.eval c.named key

/-- an argument that is a pattern is looked up -/
theorem seriesOf_pattern (g : Engine) (c : Call) (i : Nat) (m : String) (w : Window) :
    Builtin.seriesOf c i (.name m) (g.eval (.name m)) w = lookUp ⟨m, w⟩ := by
  rw [eval]
  rfl

theorem seriesAt_operands {g : Engine} {c : Call} {i : Nat} {m : String} (hm : c.args[i]? = some (.name m)) (w : Window) :
    Builtin.seriesAt (g.operands c) c i w = lookUp ⟨m, w⟩ := by
  rw [Builtin.seriesAt, arg_operands, hm]
  exact seriesOf_pattern g c i m w

/-- **A pattern among the arguments comes to the parts of the series it matches.** -/
theorem seriesAt_ready {store : Store} {c : Call} {w : Window} {q : Progress} (hq : Ready store c w q) {i : Nat}
    {m : String} (hm : c.args[i]? = some (.name m)) {glob : Glob} (hglob : Glob.compile m = some glob) :
    (Builtin.seriesAt ((store.engine false).operands c) c i w).runFrom q =
      (.ok ((store.matched glob).filterMap (Request.part ⟨m, w⟩)), q) := by
  rw [seriesAt_operands hm]
  exact lookUp_pattern hq.kept (hq.held m (Or.inl (List.mem_of_getElem? hm))) hglob

/-! ## Parts of stored series -/

end Engine

/-- what a window has of a series that has a sample in it -/
structure Series.PartIn (w : Window) (s u : Series) : Prop where
  step_eq : u.step = s.step
  samples_eq : u.samples = s.inside w
  sampled : s.inside w ≠ []

/-- each series with a sample in a window is answered with its part there, in turn, and no other -/
theorem Request.forall₂_part {w : Window} {series : List Series}
    (hseries : ∀ s ∈ series, 0 < s.step ∧ s.IndexFits w.start ∧ s.IndexFits w.stop) (m : String) :
    List.Forall₂ (fun s u => s ∈ series ∧ Series.PartIn w s u) (series.filter fun s => s.inside w ≠ [])
      (series.filterMap (Request.part ⟨m, w⟩)) := by
  induction series with
  | nil => exact List.Forall₂.nil
  | cons s rest ih =>
    have hrest := (ih fun u hu => hseries u (List.mem_cons_of_mem s hu)).imp fun _ _ h =>
      And.imp_left (List.mem_cons_of_mem s) h
    obtain ⟨hstep, hstart, hstop⟩ := hseries s List.mem_cons_self
    have hnone := Series.slice_eq_none_iff hstep hstart hstop
    rw [List.filterMap_cons, Request.part]
    cases hcut : s.slice w with
    | none =>
      rw [List.filter_cons_of_neg (by simpa using hnone.1 hcut)]
      exact hrest
    | some cut =>
      have hinside : s.inside w ≠ [] := mt hnone.2 (by simp [hcut])
      rw [List.filter_cons_of_pos (by simpa using hinside)]
      have hsamples : cut.samples = s.inside w := Series.samples_slice hstep hstart hstop hcut
      refine List.Forall₂.cons ⟨List.mem_cons_self, ?_, hsamples, hinside⟩ hrest
      rw [(Series.slice_eq_some hstep hcut).1]
      rfl

namespace Engine

/-! ## Whole targets -/

/-- after a fetch of a call, its arguments are ready over the window of its function -/
theorem ready_of_fetch {store : Store} {c : Call} {w inner : Window} {entry : Entry}
    (hentry : Registry.builtins.get? c.function = some entry) (hinner : entry.function.window c w = .ok inner)
    {requests : List Request} (hgather : gather (store.engine false).registry c.toExpr w = .ok requests)
    {q : Progress} (hq : (store.engine false).Kept store q) (hholds : ∀ r ∈ requests, q.held.holds r = true) :
    Ready store c inner q := by
  refine ⟨hq, fun m hm => ?_⟩
  rw [store.engine_registry] at hgather
  obtain ⟨entry', inner', hentry', hinner', hparts⟩ := gather_call hgather
  cases hentry.symm.trans hentry'
  cases hinner.symm.trans hinner'
  obtain ⟨part, hpart, hsub⟩ := hparts _ hm
  rw [gather] at hpart
  cases hpart
  exact hholds _ (hsub List.mem_cons_self)

/-- **A valid call with plain arguments comes to what its function makes of them.** -/
theorem execute_call {store : Store} {target : String} {c : Call} (hparse : Target.parse target = .ok c.toExpr)
    {entry : Entry} (hentry : Registry.builtins.get? c.function = some entry) {w inner : Window}
    (hinner : entry.function.window c w = .ok inner) (hvalid : entry.description.validate c = .ok ())
    (hargs : ∀ e ∈ c.args, e.Plain) (hnamed : ∀ p ∈ c.named, p.2.Plain) (p : Progress) :
    ∃ q, Ready store c inner q ∧ (((store.engine false).execute target w).runFrom p).1 =
      ((entry.function.evaluate ((store.engine false).operands c) c w).runFrom q).1 := by
  have hentry' := hentry
  rw [← store.engine_registry false] at hentry'
  obtain ⟨requests, hgather, hanswers⟩ := gather_call_plain store _ w hentry' hinner hargs hnamed
  obtain ⟨q, hfetch, hq, hholds⟩ :=
    fetch_answered (store.engine_source false) rfl hgather hanswers (kept_nil _ store p.asked)
  refine ⟨q, ready_of_fetch hentry hinner hgather hq hholds, ?_⟩
  rw [execute_run_ok hparse, executeExpr_run, Eval.runFrom_bind_ok hfetch, eval_call_run rfl hentry' hvalid]
  rfl

/-- **A result of a call was made by its function**, of arguments over the window that it announces. -/
theorem execute_call_ok {store : Store} {target : String} {c : Call} (hparse : Target.parse target = .ok c.toExpr)
    {w : Window} {p : Progress} {outs : List Series}
    (hrun : (((store.engine false).execute target w).runFrom p).1 = .ok outs) :
    ∃ entry inner q, Registry.builtins.get? c.function = some entry ∧ entry.function.window c w = .ok inner ∧
      Ready store c inner q ∧
        ((entry.function.evaluate ((store.engine false).operands c) c w).runFrom q).1 = .ok outs := by
  rw [execute_run_ok hparse, executeExpr_run] at hrun
  dsimp only at hrun
  obtain ⟨u, q, hfetch, heval⟩ := Eval.runFrom_bind_eq_ok hrun
  have hkept := kept_nil (store.engine false) store p.asked
  have hfetched := fetch_result (store.engine_source false) hkept [c.toExpr] w
  rw [hfetch] at hfetched
  obtain ⟨requests, hgather⟩ := gather_of_fetched hfetched.symm
  have hq := (fetch_grows (store.engine_source false) [c.toExpr] w { p with held := [] }).kept hkept
  rw [hfetch] at hq
  have hholds := fetch_holds (store.engine_source false) hgather hfetch
  obtain ⟨entry, inner, hentry, hinner, -⟩ := gather_call hgather
  rw [store.engine_registry] at hentry
  have happly : (((store.engine false).apply c (evalAll (store.engine false) c.args)
      (evalNamed (store.engine false) c.named) w).runFrom q).1 = .ok outs := by
    rw [Call.toExpr, eval] at heval
    exact heval
  unfold apply at happly
  rw [if_neg (by simp [Store.engine])] at happly
  obtain ⟨entry', hresolve, happly⟩ := Eval.runFrom_lift_bind_eq_ok happly
  obtain ⟨-, -, happly⟩ := Eval.runFrom_lift_bind_eq_ok happly
  rw [store.engine_registry] at hresolve
  cases hentry.symm.trans (Registry.resolve_eq_ok.1 hresolve)
  exact ⟨entry, inner, q, hentry, hinner, ready_of_fetch hentry hinner hgather hq hholds, happly⟩

end Engine

end MetricQuery
