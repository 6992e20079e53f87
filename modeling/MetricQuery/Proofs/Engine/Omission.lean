/-
Targets that give a bare `None`.

Where a parameter is optional, a bare `None` stands for no argument. Still it is the name of a series too, and the
requests of a call are gathered before its function reads it: a call that gives `None` fetches one request more than the
call without (`OneMore`). Every store answers it, so both calls come to their evaluation alike, or fail alike before it
(`executeExpr_withNone`). What is held besides does not change what an evaluation comes to, and a function that takes
`None` for no argument evaluates both calls alike. So they have the same result, but for the reference of
`transformNull`: this one looks `None` up, and names its series after a reference (`executeExpr_omitted`).
-/
import MetricQuery.Proofs.Builtin.OmittedArguments
import MetricQuery.Proofs.Engine.Filling
import MetricQuery.Proofs.Engine.Rejection
import MetricQuery.Proofs.Engine.SharedHoldings

namespace MetricQuery

open Target (Expr Call)
open Time (Window)

/-! ## Runs -/

namespace Eval

variable {α β : Type} {S : β → β → Prop} {p : Progress}

/-- evaluations with the same first step compare as they compare behind it -/
theorem related_after {x : Eval α} {f g : α → Eval β}
    (h : ∀ a q, x.runFrom p = (.ok a, q) → Related S ((f a).runFrom q).1 ((g a).runFrom q).1) :
    Related S ((x >>= f).runFrom p).1 ((x >>= g).runFrom p).1 := by
  cases hx : x.runFrom p with
  | mk r q =>
    cases r with
    | error e =>
      rw [runFrom_bind_error hx, runFrom_bind_error hx]
      exact Related.error S e
    | ok a =>
      rw [runFrom_bind_ok hx, runFrom_bind_ok hx]
      exact h a q hx

theorem related_after_lift {x : Except EvalError α} {f g : α → Eval β}
    (h : ∀ a, Related S ((f a).runFrom p).1 ((g a).runFrom p).1) :
    Related S (((liftM x : Eval α) >>= f).runFrom p).1 (((liftM x : Eval α) >>= g).runFrom p).1 := by
  cases x with
  | error e => exact Related.error S e
  | ok a => exact h a

end Eval

/-! ## Operands -/

theorem besides_operands (g : Engine) {key : String} {place : Nat} {c c' : Call} (h : c.Omits key place c') :
    (g.operands c).Besides key (g.operands c') where
  args := congrArg g.evalAll h.args
  named k hk := by rw [Engine.named_operands, Engine.named_operands, h.named k hk]
  fetch := rfl

namespace Builtin

/-! ## Series without nulls -/

/-- the name tells whether there was a reference -/
theorem nullsFilled_ne (default : Float) (references : List Series) (s : Series) :
    nullsFilled default (some references) s ≠ nullsFilled default none s := by
  intro h
  have hlength := congrArg (fun u => u.name.length) h
  simp [nullsFilled, reshaped, Series.withTag, Series.withValues, Series.shell] at hlength
  exact absurd hlength (by decide)

/-- the same series filled without a reference and with one -/
def FilledBothWays (outs outs' : List Series) : Prop :=
  ∃ (series : List Series) (default : Float) (references : List Series),
    outs = series.map (nullsFilled default none) ∧ outs' = series.map (nullsFilled default (some references))

/-- results of filling both ways differ if there are series at all -/
theorem FilledBothWays.eq_iff {x x' : Except EvalError (List Series)} (h : Related FilledBothWays x x') :
    x' = x ↔ ∀ outs, x = .ok outs → outs = [] := by
  rcases h with ⟨e, rfl, rfl⟩ | ⟨_, _, rfl, rfl, series, default, references, rfl, rfl⟩
  · simp
  · cases series with
    | nil => simp
    | cons s rest => simp [nullsFilled_ne]

end Builtin

/-! ## Requests -/

/-- requests, and the same with one more among them -/
def OneMore (r : Request) (requests requests' : List Request) : Prop :=
  ∃ before after, requests = before ++ after ∧ requests' = before ++ r :: after

theorem OneMore.cons (r : Request) (requests : List Request) : OneMore r requests (r :: requests) :=
  ⟨[], requests, rfl, rfl⟩

theorem OneMore.append_left {r : Request} {requests requests' : List Request} (h : OneMore r requests requests')
    (first : List Request) : OneMore r (first ++ requests) (first ++ requests') := by
  obtain ⟨before, after, rfl, rfl⟩ := h
  exact ⟨first ++ before, after, by rw [List.append_assoc], by rw [List.append_assoc]⟩

/-- requests that are answered do not decide which fault comes first -/
theorem OneMore.findSome? {store : Store} {r : Request} {requests requests' : List Request}
    (h : OneMore r requests requests') (hanswered : store.fault? r = none) :
    requests'.findSome? store.fault? = requests.findSome? store.fault? := by
  obtain ⟨before, after, rfl, rfl⟩ := h
  rw [List.findSome?_append, List.findSome?_append, List.findSome?_cons, hanswered]

theorem OneMore.subset {r : Request} {requests requests' : List Request} (h : OneMore r requests requests') :
    requests ⊆ requests' := by
  obtain ⟨before, after, rfl, rfl⟩ := h
  exact ((List.sublist_cons_self r after).append_left before).subset

theorem OneMore.mem {r : Request} {requests requests' : List Request} (h : OneMore r requests requests') :
    r ∈ requests' := by
  obtain ⟨before, after, rfl, rfl⟩ := h
  simp

/-- a name put under a new key is gathered where its key stands -/
theorem gatherNamed_insert (registry : Registry) {key : String} {named : Keyed Expr} (hkey : named.get? key = none)
    (m : String) (w : Window) :
    Related (OneMore ⟨m, w⟩) (gatherNamed registry named w) (gatherNamed registry (named.insert key (.name m)) w) := by
  induction named with
  | nil => exact Related.ok (OneMore.cons ⟨m, w⟩ [])
  | cons p rest ih =>
    obtain ⟨k, e⟩ := p
    rw [Keyed.get?_cons] at hkey
    split_ifs at hkey with hk
    unfold Keyed.insert
    rw [if_neg hk]
    split_ifs
    · cases hall : gatherNamed registry ((k, e) :: rest) w with
      | error err =>
        rw [gatherNamed, hall]
        exact Related.error _ err
      | ok requests =>
        rw [gatherNamed, hall]
        exact Related.ok (OneMore.cons ⟨m, w⟩ requests)
    · refine Related.after (fun first => ?_) (gather registry e w)
      exact (ih hkey).bind fun requests requests' h => Related.ok (h.append_left first)

/-- a bare `None` is gathered over the window of the arguments, if the call can be gathered -/
theorem gather_withNone (registry : Registry) {c : Call} {key : String} (habsent : c.named? key = none)
    (argText : String) {entry : Entry} (hentry : registry.get? c.function = some entry)
    (hwindow : entry.function.window (c.withNone key argText) = entry.function.window c) (w : Window) :
    ∃ inner, (∀ requests, gather registry c.toExpr w = .ok requests → entry.function.window c w = .ok inner) ∧
      Related (OneMore ⟨"None", inner⟩) (gather registry c.toExpr w)
        (gather registry (c.withNone key argText).toExpr w) := by
  have hgather : ∀ c' : Call, registry.get? c'.function = some entry → gather registry c'.toExpr w = (do
      let inner ← entry.function.window c' w
      let first ← gatherAll registry c'.args inner
      let second ← gatherNamed registry c'.named inner
      .ok (first ++ second)) := by
    intro c' hentry
    rw [Call.toExpr, gather, Registry.resolve_eq_ok.2 hentry]
    rfl
  rw [hgather c hentry, hgather (c.withNone key argText) hentry, hwindow]
  cases hinner : entry.function.window c w with
  | error e =>
    refine ⟨w, fun requests h => ?_, Related.error _ e⟩
    cases h
  | ok inner =>
    refine ⟨inner, fun _ _ => rfl, Related.after (fun first => ?_) (gatherAll registry c.args inner)⟩
    exact (gatherNamed_insert registry habsent "None" inner).bind fun requests requests' h =>
      Related.ok (h.append_left first)

/-- `None` is the name of a series too -/
theorem Glob.compile_none : Glob.compile "None" = some [.char 'N', .char 'o', .char 'n', .char 'e'] :=
  compile_of_parse (by cbv) (by decide +kernel)

namespace Engine

/-! ## Phases -/

section OverStore

variable {g : Engine} {store : Store} (hg : g.source = store.source)
include hg

/-- an expression whose requests are answered comes to what it comes to wherever they are held -/
theorem executeExpr_answered (hreg : g.registry = Registry.builtins) (hc : g.cancelled = false) {e : Expr} {w : Window}
    {requests : List Request} (hgather : gather g.registry e w = .ok requests) (hanswers : store.AnswersAll requests)
    {q : Progress} (hq : g.Kept store q) (hheld : ∀ r ∈ requests, q.held.holds r = true) (p : Progress) :
    ((g.executeExpr e w).runFrom p).1 = ((g.eval e w).runFrom q).1 := by
  obtain ⟨q', hfetch, hq', hheld'⟩ := fetch_answered hg hc hgather hanswers (kept_nil g store p.asked)
  obtain ⟨v, -, hrun⟩ := settles_eval hreg hg e w (· ∈ requests) requests hgather fun r hr => hr
  rw [executeExpr_run, Eval.runFrom_bind_ok hfetch, (hrun q' ⟨hq', hheld'⟩).1, (hrun q ⟨hq, hheld⟩).1]

end OverStore

/-- **A call with a bare `None` gets to its evaluation as the call without it does**, or fails alike before. Then `None`
is held over the window of the arguments. -/
theorem executeExpr_withNone {S : List Series → List Series → Prop} {store : Store} {c : Call} {key : String}
    (habsent : c.named? key = none) (argText : String) {entry : Entry}
    (hentry : Registry.builtins.get? c.function = some entry)
    (hwindow : entry.function.window (c.withNone key argText) = entry.function.window c) (w : Window)
    (heval : ∀ inner q, entry.function.window c w = .ok inner → (store.engine false).Kept store q →
      q.held.holds ⟨"None", inner⟩ = true →
      Related S (((store.engine false).eval c.toExpr w).runFrom q).1
        (((store.engine false).eval (c.withNone key argText).toExpr w).runFrom q).1) (p : Progress) :
    Related S (((store.engine false).executeExpr c.toExpr w).runFrom p).1
      (((store.engine false).executeExpr (c.withNone key argText).toExpr w).runFrom p).1 := by
  have hg := store.engine_source false
  have hreg := store.engine_registry false
  rw [← hreg] at hentry
  obtain ⟨inner, hinner, hgather⟩ := gather_withNone (store.engine false).registry habsent argText hentry hwindow w
  rcases hgather with ⟨e, h, h'⟩ | ⟨requests, requests', h, h', hmore⟩
  · -- neither can be gathered
    rw [executeExpr_unfetched hg (by rw [fetched, requests_single_error h]),
      executeExpr_unfetched hg (by rw [fetched, requests_single_error h'])]
    exact Related.error S e
  · have hanswered : store.fault? ⟨"None", inner⟩ = none :=
      Store.fault?_of_answer (store.answer_eq (r := ⟨"None", inner⟩) Glob.compile_none)
    have hsame := hmore.findSome? hanswered
    cases hfault : requests.findSome? store.fault? with
    | some fault =>
      rw [executeExpr_unfetched hg (fetched_fault rfl h hfault),
        executeExpr_unfetched hg (fetched_fault rfl h' (hsame.trans hfault))]
      exact Related.error S (EvalError.fetch fault)
    | none =>
      have hanswers : store.AnswersAll requests := List.findSome?_eq_none_iff.1 hfault
      have hanswers' : store.AnswersAll requests' := List.findSome?_eq_none_iff.1 (hsame.trans hfault)
      obtain ⟨q, hfetch, hq, hheld⟩ := fetch_answered hg rfl h' hanswers' (kept_nil _ store p.asked)
      rw [executeExpr_answered hg hreg rfl h hanswers hq (fun r hr => hheld r (hmore.subset hr)),
        executeExpr_answered hg hreg rfl h' hanswers' hq hheld]
      exact heval inner q (hinner requests h) hq (hheld _ hmore.mem)

/-! ## Evaluations -/

/-- calls that pass validation alike are refused alike, or come to what the function makes of them -/
theorem eval_omits {S : List Series → List Series → Prop} {g : Engine} (hc : g.cancelled = false) {c c' : Call}
    (hfunction : c'.function = c.function) {entry : Entry} (hentry : g.registry.get? c.function = some entry)
    (hvalid : entry.description.validate c' = entry.description.validate c) {w : Window} {q : Progress}
    (hevaluate : Related S ((entry.function.evaluate (g.operands c) c w).runFrom q).1
      ((entry.function.evaluate (g.operands c') c' w).runFrom q).1) :
    Related S ((g.eval c.toExpr w).runFrom q).1 ((g.eval c'.toExpr w).runFrom q).1 := by
  have hentry' := hentry
  rw [← hfunction] at hentry'
  cases hvalidate : entry.description.validate c with
  | error e =>
    rw [eval_call_rejected hc hentry hvalidate, eval_call_rejected hc hentry' (hvalid.trans hvalidate)]
    exact Related.error S e
  | ok u =>
    rw [eval_call_run hc hentry hvalidate, eval_call_run hc hentry' (hvalid.trans hvalidate)]
    exact hevaluate

/-- the series of an argument are evaluated without a loss of what is held -/
theorem seriesAt_grows {store : Store} {q : Progress} (hq : (store.engine false).Kept store q) (c : Call) (i : Nat)
    (w : Window) :
    (store.engine false).Grows store q ((Builtin.seriesAt ((store.engine false).operands c) c i w).runFrom q).2 := by
  let D := Discipline.staying ((store.engine false).regime store fun _ => False)
  have heval : ∀ e, D.Holds ((store.engine false).eval e w) := fun e =>
    staying_eval (store.engine_registry false) (store.engine_source false) e w _
  have hops : Operands.HoldAt ((store.engine false).operands c) D w := by
    refine ⟨fun arg harg => ?_, fun p hp => ?_⟩
    · rw [operands, evalAll_eq] at harg
      obtain ⟨e, -, rfl⟩ := List.mem_map.1 harg
      exact heval e
    · rw [operands, evalNamed_eq] at hp
      obtain ⟨named, -, rfl⟩ := List.mem_map.1 hp
      exact heval named.2
  have hlength : ((store.engine false).operands c).args.length = c.args.length := by
    rw [operands, evalAll_eq, List.length_map]
  have hstays : D.Holds (Builtin.seriesAt ((store.engine false).operands c) c i w) :=
    Builtin.holds_seriesAt (fun _ _ => trivial) hlength hops fun _ => List.mem_singleton_self i
  exact hstays q ⟨hq, fun _ hr => hr.elim⟩

section Reference

variable {store : Store} {c : Call} (habsent : c.named? "referenceSeries" = none) (hplace : c.args.length ≤ 2)
  (argText : String)
include habsent hplace

theorem referenceOf_omitted (g : Engine) (w : Window) : Builtin.referenceOf (g.operands c) c w = pure none := by
  have hat : c.arg? 2 = none := List.getElem?_eq_none hplace
  rw [Builtin.referenceOf, habsent, hat]
  rfl

omit habsent hplace in
/-- a bare `None` is looked up as a reference -/
theorem referenceOf_withNone {w : Window} {q : Progress} (hq : (store.engine false).Kept store q)
    (hheld : q.held.holds ⟨"None", w⟩ = true) {glob : Glob} (hglob : Glob.compile "None" = some glob) :
    (Builtin.referenceOf ((store.engine false).operands (c.withNone "referenceSeries" argText))
      (c.withNone "referenceSeries" argText) w).runFrom q =
      (.ok (some ((store.matched glob).filterMap (Request.part ⟨"None", w⟩))), q) := by
  have hbare : (c.withNone "referenceSeries" argText).named? "referenceSeries" = some (.name "None") :=
    Keyed.get?_insert_self _ _ c.named
  rw [Builtin.referenceOf, named_operands, hbare]
  show (some <$> Builtin.seriesOf _ 2 (.name "None") ((store.engine false).eval (.name "None")) w
    : Eval _).runFrom q = _
  rw [seriesOf_pattern, map_eq_pure_bind]
  exact Eval.runFrom_bind_ok (lookUp_pattern hq hheld hglob)

/-- **With a bare `None` for the reference the series are filled as by a reference**, and without it as by none. -/
theorem filledBothWays_evaluate {w : Window} {q : Progress} (hq : (store.engine false).Kept store q)
    (hheld : q.held.holds ⟨"None", w⟩ = true) :
    let g := store.engine false
    let c' := c.withNone "referenceSeries" argText
    Related Builtin.FilledBothWays ((Builtin.transformNull.evaluate (g.operands c) c w).runFrom q).1
      ((Builtin.transformNull.evaluate (g.operands c') c' w).runFrom q).1 := by
  intro g c'
  have homits : c.Omits "referenceSeries" 2 c' := Call.omits_withNone habsent hplace argText
  rw [Builtin.evaluate_transformNull, Builtin.evaluate_transformNull,
    Builtin.seriesAt_besides homits (besides_operands g homits) 0, homits.floatOr (by decide) 0.0]
  refine Eval.related_after fun series q' hseries => ?_
  have hgrows : g.Grows store q ((Builtin.seriesAt (g.operands c) c 0 w).runFrom q).2 := seriesAt_grows hq c 0 w
  rw [hseries] at hgrows
  refine Eval.related_after_lift fun default => ?_
  have hreferences :=
    referenceOf_withNone (c := c) argText (hgrows.kept hq) (hgrows.holds hq hheld) Glob.compile_none
  rw [referenceOf_omitted habsent hplace, Eval.runFrom_bind_ok hreferences]
  exact Related.ok ⟨series, default, _, rfl, rfl⟩

theorem filledBothWays_executeExpr {d : Description}
    (hentry : Registry.builtins.get? c.function = some ⟨Builtin.transformNull, d⟩)
    (hvalid : d.validate (c.withNone "referenceSeries" argText) = d.validate c) (w : Window) (p : Progress) :
    Related Builtin.FilledBothWays (((store.engine false).executeExpr c.toExpr w).runFrom p).1
      (((store.engine false).executeExpr (c.withNone "referenceSeries" argText).toExpr w).runFrom p).1 := by
  refine executeExpr_withNone habsent argText hentry rfl w (fun inner q hinner hq hheld => ?_) p
  cases hinner
  rw [← store.engine_registry false] at hentry
  have hfunction := (Call.omits_withNone habsent hplace argText).function
  exact eval_omits rfl hfunction hentry hvalid (filledBothWays_evaluate habsent hplace argText hq hheld)

end Reference

/-- **A bare `None` is as good as no argument, but for a reference.** A call that leaves an optional parameter out, and
the same call with `None` for it, come to the same series or the same error over every store and window. The reference
of `transformNull` is the exception: there the two differ as soon as there are series to fill. -/
theorem executeExpr_omitted (store : Store) {c : Call} {entry : Entry}
    (hentry : Registry.builtins.get? c.function = some entry) {i : Nat} {param : Param}
    (hparam : entry.description.params[i]? = some param) (hoptional : param.required = false)
    (hsingle : param.variadic = false) (habsent : c.named? param.name = none) (hplace : c.args.length ≤ i)
    (argText : String) (w : Window) (p : Progress) :
    let outcome (c : Call) := (((store.engine false).executeExpr c.toExpr w).runFrom p).1
    outcome (c.withNone param.name argText) = outcome c ↔
      (c.function = "transformNull" ∧ param.name = "referenceSeries" → ∀ outs, outcome c = .ok outs → outs = []) := by
  intro outcome
  obtain ⟨hall, hdesc, hname⟩ := Registry.builtins_get? hentry
  have hmem := Function.mem_optional hdesc hparam hoptional hsingle
  have homits := Call.omits_withNone habsent hplace argText
  have hvalid := Builtin.validate_omits hall hdesc hparam hoptional homits
  have hreference := Builtin.eq_reference_iff _ hall _ hdesc _ hmem
  rw [hname] at hreference
  by_cases hcase : (param.name, i) = Builtin.reference
  · obtain ⟨hkey, rfl⟩ := Prod.mk.inj hcase
    have hfunction := (hreference.1 hcase).1
    obtain ⟨d, -, htransformNull⟩ := Builtin.get?_transformNull
    rw [← hfunction, hentry] at htransformNull
    cases htransformNull
    rw [hkey] at habsent hvalid ⊢
    rw [Builtin.FilledBothWays.eq_iff (filledBothWays_executeExpr habsent hplace argText hentry hvalid w p)]
    exact ⟨fun hempty _ => hempty, fun hempty => hempty ⟨hfunction, rfl⟩⟩
  · have hforgives := Builtin.all_forgiveNone _ hall _ hmem hcase
    have hsame : Related Eq (outcome c) (outcome (c.withNone param.name argText)) := by
      refine executeExpr_withNone habsent argText hentry (hforgives.window homits) w (fun inner q _ _ _ => ?_) p
      rw [← store.engine_registry false] at hentry
      refine eval_omits rfl homits.function hentry hvalid ?_
      rw [hforgives.evaluate homits (besides_operands _ homits)]
      exact Related.refl _
    exact ⟨fun _ hexcept => absurd (hreference.2 hexcept) hcase, fun _ => hsame.eq.symm⟩

/-! ## A reference that is none -/

/-- a missing sample, and one that is present -/
def gapped : Series :=
  Series.ofSamples "m" [Decimal.nan, 1] 60 0

/-- a call of a pattern alone, with a bare `None` for the reference -/
def noneReferenceCall : Call :=
  (bareCall "transformNull").withNone "referenceSeries" "m,referenceSeries=None"

theorem matched_gapped : Store.matched [gapped] [.char 'm'] = [gapped] ∧
    Store.matched [gapped] [.char 'N', .char 'o', .char 'n', .char 'e'] = [] := by
  have hname : gapped.nameTag = "m" := by decide +kernel
  have hm : Glob.accepts [.char 'm'] "m" = true := by decide +kernel
  have hnone : Glob.accepts [.char 'N', .char 'o', .char 'n', .char 'e'] "m" = false := by decide +kernel
  simp [Store.matched, hname, hm, hnone]

theorem parse_bareTransformNull : Target.parse "transformNull(m)" = .ok (bareCall "transformNull").toExpr := by
  show _ = Except.ok (Expr.call "transformNull" [.name "m"] [] "m")
  cbv

theorem parse_noneReferenceCall :
    Target.parse "transformNull(m,referenceSeries=None)" = .ok noneReferenceCall.toExpr := by
  show _ = Except.ok (Expr.call "transformNull" [.name "m"] [("referenceSeries", .name "None")]
    "m,referenceSeries=None")
  cbv

theorem execute_bareTransformNull :
    (((Store.engine [gapped] false).execute "transformNull(m)" ⟨0, 120⟩).runFrom {}).1 =
      .ok [Builtin.nullsFilled 0.0 none gapped] ∧
    (((Store.engine [gapped] false).execute "transformNull(m,referenceSeries=None)" ⟨0, 120⟩).runFrom {}).1 =
      .ok [Builtin.nullsFilled 0.0 (some []) gapped] := by
  obtain ⟨d, hd, hentry⟩ := Builtin.get?_transformNull
  have hargs := plain_bareCall "transformNull"
  have hnamed : ∀ p ∈ noneReferenceCall.named, p.2.Plain := by
    intro p hp
    rw [List.mem_singleton.1 hp]
    exact ⟨_, Glob.compile_none⟩
  have hpart : Request.part ⟨"m", 0, 120⟩ gapped = some gapped := rfl
  obtain ⟨hmatched, hnone⟩ := matched_gapped
  constructor
  · obtain ⟨q, hq, hrun⟩ := @execute_call [gapped] _ _ parse_bareTransformNull _ hentry ⟨0, 120⟩ _ rfl
      (Builtin.validate_transformNull hd rfl (by decide)) hargs (by simp [bareCall]) {}
    have hseries := seriesAt_ready hq (i := 0) rfl Glob.compile_m
    rw [hmatched, List.filterMap_cons_some hpart] at hseries
    rw [hrun, Builtin.runFrom_transformNull hseries rfl (by rw [referenceOf_omitted rfl (by decide)]; rfl)]
    rfl
  · obtain ⟨q, hq, hrun⟩ := @execute_call [gapped] _ _ parse_noneReferenceCall _ hentry ⟨0, 120⟩ _ rfl
      (Builtin.validate_transformNull hd rfl (by decide)) hargs hnamed {}
    have hseries := seriesAt_ready hq (i := 0) rfl Glob.compile_m
    rw [hmatched, List.filterMap_cons_some hpart] at hseries
    have hreferences := referenceOf_withNone (c := bareCall "transformNull") "m,referenceSeries=None" hq.kept
      (hq.held "None" (Or.inr (List.mem_singleton_self _))) Glob.compile_none
    rw [hnone] at hreferences
    rw [hrun, Builtin.runFrom_transformNull hseries rfl hreferences]
    rfl

/-- a limit that is `None` is no limit, and a reference that is `None` is another result -/
theorem executeExpr_omitted_limit :
    let outcome (c : Call) := (((Store.engine [gapped] false).executeExpr c.toExpr ⟨0, 120⟩).runFrom {}).1
    outcome ((bareCall "keepLastValue").withNone "limit" "m,limit=None") = outcome (bareCall "keepLastValue") ∧
      outcome noneReferenceCall ≠ outcome (bareCall "transformNull") := by
  intro outcome
  have hentry : ∃ d ∈ Builtin.keepLastValue.descriptions,
      Registry.builtins.get? "keepLastValue" = some ⟨Builtin.keepLastValue, d⟩ := by
    apply Registry.exists_get?_builtins
    · simp [Builtin.all, Builtin.transforming]
    · simp [Builtin.keepLastValue, Builtin.Mapping.toFunction]
    · simp [Builtin.keepLastValue, Builtin.Mapping.toFunction]
  constructor
  · obtain ⟨d, hd, hentry⟩ := hentry
    cases List.mem_singleton.1 hd
    exact (executeExpr_omitted [gapped] (c := bareCall "keepLastValue") hentry (i := 1) rfl rfl rfl rfl (by decide)
      "m,limit=None" ⟨0, 120⟩ {}).2 fun hexcept => absurd hexcept.1 (by decide)
  · obtain ⟨d, hd, hentry⟩ := Builtin.get?_transformNull
    cases List.mem_singleton.1 hd
    intro hsame
    have hempty := (executeExpr_omitted [gapped] (c := bareCall "transformNull") hentry (i := 2) rfl rfl rfl rfl
      (by decide) "m,referenceSeries=None" ⟨0, 120⟩ {}).1 hsame ⟨rfl, rfl⟩
    have hrun := execute_bareTransformNull.1
    rw [execute_run_ok parse_bareTransformNull] at hrun
    exact absurd (hempty _ hrun) (by simp)

/-- an optional parameter for which a bare `None` is not the same as no argument -/
theorem execute_noneReference :
    let run (target : String) := (((Store.engine [gapped] false).execute target ⟨0, 120⟩).runFrom {}).1
    ∃ d param, Registry.builtins.get? "transformNull" = some ⟨Builtin.transformNull, d⟩ ∧
      d.params[2]? = some param ∧ param.required = false ∧ param.variadic = false ∧
      (bareCall "transformNull").named? param.name = none ∧
      Target.parse "transformNull(m)" = .ok (bareCall "transformNull").toExpr ∧
      Target.parse "transformNull(m,referenceSeries=None)" =
        .ok ((bareCall "transformNull").withNone param.name "m,referenceSeries=None").toExpr ∧
      run "transformNull(m,referenceSeries=None)" ≠ run "transformNull(m)" ∧
      ∃ o o', run "transformNull(m)" = .ok [o] ∧ run "transformNull(m,referenceSeries=None)" = .ok [o'] ∧
        o.values = [0, 1] ∧ o'.values = [Decimal.nan, 1] := by
  intro run
  obtain ⟨d, hd, hentry⟩ := Builtin.get?_transformNull
  cases List.mem_singleton.1 hd
  obtain ⟨hrun, hrun'⟩ := execute_bareTransformNull
  refine ⟨_, _, hentry, rfl, rfl, rfl, rfl, parse_bareTransformNull, parse_noneReferenceCall, ?_, _, _, hrun, hrun',
    ?_, ?_⟩
  · intro hsame
    have hsame := hrun'.symm.trans (hsame.trans hrun)
    simp [Builtin.nullsFilled_ne] at hsame
  · decide +kernel
  · decide +kernel

end Engine

end MetricQuery
