/-
Two spellings of one computation.

`aggregate(x,'f')` and `fSeries(x)` reduce all series at once, `groupByNode(x,n,'f')` and `groupByNodes(x,'f',n)` group
them by one node or tag, and `movingWindow(x,w,'f')` and `movingF(x,w)` move a window over each. The two of a pair are
functions of their own: they find their arguments at other places, and one takes from the text of its arguments what
the other takes from the tree. For texts in canonical form they come to the same series (`spellings_agree`).
-/
import MetricQuery.Proofs.Engine.Agreement

namespace MetricQuery

open Target (Expr Call CanonicalText)
open Time (Window)

/-! ## Arguments read alike -/

namespace Builtin

/-- an argument that stands for series is evaluated alike for any function; only its refusal names the function -/
theorem seriesOf_alike (c c' : Call) (i j : Nat) (e : Expr) (arg : Windowed) (w : Window) :
    Eval.SucceedAlike (seriesOf c i e arg w) (seriesOf c' j e arg w) := by
  unfold seriesOf
  cases e.isSeries with
  | true => exact Eval.SucceedAlike.refl _
  | false => exact Eval.SucceedAlike.throw _ _

/-- what comes to series is an expression that stands for series, and no literal -/
theorem isSeries_of_seriesOf {c : Call} {i : Nat} {e : Expr} {arg : Windowed} {w : Window} {p q : Progress}
    {series : List Series} (h : (seriesOf c i e arg w).runFrom p = (.ok series, q)) : e.isSeries = true := by
  unfold seriesOf at h
  cases hseries : e.isSeries with
  | true => rfl
  | false =>
    rw [hseries] at h
    cases h

theorem seriesAt_alike (g : Engine) {c c' : Call} (h : c.args[0]? = c'.args[0]?) (w : Window) :
    Eval.SucceedAlike (seriesAt (g.operands c) c 0 w) (seriesAt (g.operands c') c' 0 w) := by
  unfold seriesAt
  rw [Engine.arg_operands, Engine.arg_operands, h]
  cases c'.args[0]? with
  | none => exact Eval.SucceedAlike.throw _ _
  | some e => exact seriesOf_alike c c' 0 0 e (g.eval e) w

end Builtin

namespace Arguments

theorem asFloat_alike (c c' : Call) (param param' : String) (e : Expr) :
    SucceedAlike (asFloat c param e) (asFloat c' param' e) := by
  cases e with
  | number value literal => exact SucceedAlike.refl _
  | string value quote =>
    unfold asFloat
    dsimp only
    cases Decimal.readFloat (Text.trim value.toList) with
    | some x => exact SucceedAlike.refl _
    | none => exact SucceedAlike.error _ _
  | name path => exact SucceedAlike.error _ _
  | call f args named argText => exact SucceedAlike.error _ _
  | flag value => exact SucceedAlike.error _ _

theorem asInt_alike (c c' : Call) (param param' : String) (e : Expr) :
    SucceedAlike (asInt c param e) (asInt c' param' e) := by
  refine (asFloat_alike c c' param param' e).bind fun x => ?_
  split_ifs
  · exact SucceedAlike.refl _
  · exact SucceedAlike.error _ _

end Arguments

theorem Target.Call.asSelector_alike (c c' : Call) (param param' : String) (e : Expr) :
    SucceedAlike (c.asSelector param e) (c'.asSelector param' e) := by
  unfold asSelector
  split
  · exact SucceedAlike.refl _
  · exact (Arguments.asInt_alike c c' param param' _).map Selector.node

/-- only the text of a bare `None` is read as one -/
theorem Target.CanonicalText.isNone_value {x : CanonicalText} (h : x.text ≠ "None") :
    Arguments.isNone x.value = false := by
  cases hvalue : x.value with
  | name path =>
    have hexpr : x.value = x.expr := CanonicalText.value_of_isSeries (by rw [hvalue]; rfl)
    have hrender := x.render
    rw [← hexpr, hvalue] at hrender
    change path = x.text at hrender
    simpa [Arguments.isNone, hrender] using h
  | _ => rfl

/-! ## Aggregates -/

namespace Builtin

/-- the aggregate of some series, named after its reducer and a text of the arguments -/
def aggregated (f : String) (r : Reducer) (argText : String) (series : List Series) : List Series :=
  Series.aggregate s!"{f}Series({argText})" series r.apply (firstFactor series)

variable {f : String} {r : Reducer}

theorem aggregated_nil (argText : String) : aggregated f r argText [] = [] := rfl

theorem reducerNamed_eq (hr : Reducer.ofName? f = some r) : reducerNamed f = .ok r := by
  rw [reducerNamed, hr]

theorem evaluate_aggregate (hr : Reducer.ofName? f = some r) (x : CanonicalText) (g : Engine) (w : Window) :
    let c := callOn "aggregate" [x, .quotedReducer hr]
    aggregate.evaluate (g.operands c) c w =
      (do pure (aggregated f r x.value.render (← seriesOf c 0 x.value (g.eval x.value) w))) := by
  intro c
  have hname : c.stringOr "func" 1 "" = .ok f := rfl
  have hfactor : c.float? "xFilesFactor" 2 = .ok none := rfl
  show (do
    let series ← seriesOf c 0 x.value (g.eval x.value) w
    (do
      let name ← c.stringOr "func" 1 ""
      let r ← reducerNamed name
      if series = [] then .ok []
      else
        let factor := (← c.float? "xFilesFactor" 2).elim (firstFactor series) Float.toFloat32
        .ok (Series.aggregate s!"{name}Series({x.value.render})" series r.apply factor) : Except EvalError _)
    : Eval _) = _
  congr
  funext series
  refine congrArg (liftM : Except EvalError _ → Eval _) ?_
  refine bind_eq_ok.2 ⟨f, hname, bind_eq_ok.2 ⟨r, reducerNamed_eq hr, ?_⟩⟩
  split_ifs with hnil
  · rw [hnil, aggregated_nil]
  · exact bind_eq_ok.2 ⟨none, hfactor, rfl⟩

theorem seriesPerArg_single (name : String) (x : CanonicalText) (g : Engine) (w : Window) :
    let c := callOn name [x]
    seriesPerArg (g.operands c) c w = (do pure [(x.value, ← seriesOf c 0 x.value (g.eval x.value) w)]) := by
  intro c
  show [((x.value, g.eval x.value), 0)].mapM _ = _
  rw [List.mapM_cons, List.mapM_nil]
  simp only [bind_assoc, pure_bind]

/-- with one argument, the text of the arguments that matched something is the text of all of them, or there is
nothing to name -/
theorem evaluate_summarizer (x : CanonicalText) (g : Engine) (w : Window) :
    let c := callOn s!"{f}Series" [x]
    (summarizer f r).evaluate (g.operands c) c w =
      (do pure (aggregated f r x.text (← seriesOf c 0 x.value (g.eval x.value) w))) := by
  intro c
  show (do
    let found ← seriesPerArg (g.operands c) c w
    let kept := found.filter fun p => p.2 ≠ []
    let argText := if kept.length = 1 then x.text else Text.joinWith "," (kept.map fun p => p.1.render)
    pure (aggregated f r argText (kept.flatMap Prod.snd)) : Eval _) = _
  rw [seriesPerArg_single]
  simp only [bind_assoc, pure_bind]
  congr
  funext series
  by_cases hnil : series = []
  · simp [hnil, aggregated_nil]
  · simp [hnil]

theorem evaluate_aggregate_alike (hr : Reducer.ofName? f = some r) (x : CanonicalText) (g : Engine) (w : Window) :
    let c := callOn "aggregate" [x, .quotedReducer hr]
    let c' := callOn s!"{f}Series" [x]
    Eval.SucceedAlike (aggregate.evaluate (g.operands c) c w) ((summarizer f r).evaluate (g.operands c') c' w) := by
  intro c c'
  rw [evaluate_aggregate hr, evaluate_summarizer]
  refine (seriesOf_alike c c' 0 0 x.value (g.eval x.value) w).bind fun p series q hrun => ?_
  rw [CanonicalText.value_of_isSeries (isSeries_of_seriesOf hrun), x.render]
  exact Eval.SucceedAlike.refl _

/-! ## Groups -/

/-- the single selector of `groupByNode` is read as each one of `groupByNodes` is, unless it counts as left out -/
theorem nodeSelector_eq {c : Call} {e : Expr} (hnamed : c.named = []) (he : c.args[1]? = some e)
    (hnone : Arguments.isNone e = false) : nodeSelector c = c.asSelector "nodeNum" e := by
  have hfound : c.namedOrAt? "nodeNum" 1 = some e := by
    rw [Call.namedOrAt?, Call.named?, hnamed, Call.arg?, he]
    rfl
  have hgiven : c.given? "nodeNum" 1 = some e := by
    rw [Call.given?, hfound, Option.filter_some, hnone]
    rfl
  rw [nodeSelector, hfound, Call.intOr, Call.orDefault, hgiven]
  cases e <;> rfl

/-- the aggregates of the groups by one selector -/
def groupedBy (r : Reducer) (series : List Series) (selector : Selector) : List Series :=
  aggregateGroups r (groupBy (fun s => s.groupKey [selector]) series)

theorem evaluate_groupByNode (hr : Reducer.ofName? f = some r) (x n : CanonicalText) (hn : n.text ≠ "None") (g : Engine)
    (w : Window) :
    let c := callOn "groupByNode" [x, n, .quotedReducer hr]
    groupByNode.evaluate (g.operands c) c w = (do
      let series ← seriesAt (g.operands c) c 0 w
      (do .ok (groupedBy r series (← c.asSelector "nodeNum" n.value)) : Except EvalError _)) := by
  intro c
  have hselector : nodeSelector c = c.asSelector "nodeNum" n.value := nodeSelector_eq rfl rfl (n.isNone_value hn)
  have hcallback : c.stringOr "callback" 2 "average" = .ok f := rfl
  have hread : ∀ series, (do
      let selector ← nodeSelector c
      let r ← reducerNamed (← c.stringOr "callback" 2 "average")
      .ok (groupedBy r series selector)) = (do .ok (groupedBy r series (← c.asSelector "nodeNum" n.value))) := by
    intro series
    simp only [hselector, hcallback, reducerNamed_eq hr, ok_bind]
  simp only [← hread]
  rfl

theorem evaluate_groupByNodes (hr : Reducer.ofName? f = some r) (x n : CanonicalText) (g : Engine) (w : Window) :
    let c := callOn "groupByNodes" [x, .quotedReducer hr, n]
    groupByNodes.evaluate (g.operands c) c w = (do
      let series ← seriesAt (g.operands c) c 0 w
      (do .ok (groupedBy r series (← c.asSelector (Arguments.placeName 2) n.value)) : Except EvalError _)) := by
  intro c
  have hcallback : c.stringAt 1 = .ok f := rfl
  have hselectors : c.selectorsFrom 2 = (do .ok [← c.asSelector (Arguments.placeName 2) n.value]) := by
    show [(n.value, 2)].mapM _ = _
    rw [List.mapM_cons, List.mapM_nil]
    rfl
  have hread : ∀ series, (do
      let r ← reducerNamed (← c.stringAt 1)
      let selectors ← c.selectorsFrom 2
      .ok (aggregateGroups r (groupBy (fun s => s.groupKey selectors) series))) =
        (do .ok (groupedBy r series (← c.asSelector (Arguments.placeName 2) n.value))) := by
    intro series
    simp only [hselectors, hcallback, reducerNamed_eq hr, ok_bind, bind_assoc]
    rfl
  simp only [← hread]
  rfl

theorem evaluate_groupByNode_alike (hr : Reducer.ofName? f = some r) (x n : CanonicalText) (hn : n.text ≠ "None")
    (g : Engine) (w : Window) :
    let c := callOn "groupByNode" [x, n, .quotedReducer hr]
    let c' := callOn "groupByNodes" [x, .quotedReducer hr, n]
    Eval.SucceedAlike (groupByNode.evaluate (g.operands c) c w) (groupByNodes.evaluate (g.operands c') c' w) := by
  intro c c'
  rw [evaluate_groupByNode hr x n hn, evaluate_groupByNodes hr]
  have hselector := Call.asSelector_alike c c' "nodeNum" (Arguments.placeName 2) n.value
  refine (seriesAt_alike g (show c.args[0]? = c'.args[0]? from rfl) w).bind fun _ series _ _ => ?_
  exact Eval.SucceedAlike.lift (hselector.bind fun selector => SucceedAlike.refl _)

/-! ## Moving windows -/

section Moving

variable {c c' : Call} (hwindow : c.namedOrAt? Reach.param 1 = c'.namedOrAt? Reach.param 1)
include hwindow

theorem intOr_alike (default : Int) :
    SucceedAlike (c.intOr Reach.param 1 default) (c'.intOr Reach.param 1 default) := by
  have hgiven : c.given? Reach.param 1 = c'.given? Reach.param 1 := by rw [Call.given?, Call.given?, hwindow]
  unfold Call.intOr Call.orDefault
  rw [hgiven]
  cases c'.given? Reach.param 1 with
  | some e => exact Arguments.asInt_alike c c' Reach.param Reach.param e
  | none => exact SucceedAlike.refl _

theorem ofCall_alike : SucceedAlike (Reach.ofCall c) (Reach.ofCall c') := by
  have hpositive : ∀ seconds, SucceedAlike (positive c seconds) (positive c' seconds) := by
    intro seconds
    unfold positive
    split_ifs
    · exact SucceedAlike.error _ _
    · exact SucceedAlike.refl _
  unfold Reach.ofCall
  rw [hwindow]
  split
  · exact (SucceedAlike.refl _).bind fun seconds => (hpositive seconds.natAbs).bind fun span => SucceedAlike.refl _
  · refine (intOr_alike hwindow 0).bind fun n => ?_
    split_ifs
    · exact SucceedAlike.error _ _
    · exact SucceedAlike.refl _

/-- name and tag of a moved series quote the window as it is written, wherever the call has it from -/
theorem moveOver_congr (name : String) (reach : Reach) (r : Reducer) (factor : Option Float) :
    moveOver name c reach r factor = moveOver name c' reach r factor := by
  funext s
  simp only [moveOver, windowTag, Call.literalText, Call.plainText, hwindow]

omit hwindow in
theorem reachedSeries_alike (g : Engine) (hfirst : c.args[0]? = c'.args[0]?) (reach : Reach) (w : Window) :
    Eval.SucceedAlike (reachedSeries (g.operands c) c reach w) (reachedSeries (g.operands c') c' reach w) := by
  cases reach with
  | seconds span => exact (Eval.SucceedAlike.refl _).bind fun _ w' _ _ => seriesAt_alike g hfirst w'
  | points n =>
    have hhead : c.args.head? = c'.args.head? := by rw [List.head?_eq_getElem?, List.head?_eq_getElem?, hfirst]
    refine (seriesAt_alike g hfirst w).bind fun _ sampled _ _ => ?_
    dsimp only
    rw [hhead]
    split
    · refine (Eval.SucceedAlike.refl _).bind fun _ start _ _ => ?_
      exact (Eval.SucceedAlike.refl _).bind fun _ _ _ _ => seriesAt_alike g hfirst _
    · exact Eval.SucceedAlike.refl _

end Moving

theorem evaluate_movingWindow_alike (hr : Reducer.ofName? f = some r) {name : String}
    (hname : s!"moving{capitalize f}" = name) (x v : CanonicalText) (g : Engine) (w : Window) :
    let c := callOn "movingWindow" [x, v, .quotedReducer hr]
    let c' := callOn name [x, v]
    Eval.SucceedAlike (movingWindow.evaluate (g.operands c) c w)
      ((movingFixed name r).evaluate (g.operands c') c' w) := by
  intro c c'
  have hwindow : c.namedOrAt? Reach.param 1 = c'.namedOrAt? Reach.param 1 := rfl
  have hreducer : c.stringOr "func" 2 "average" = .ok f := rfl
  have hfactor : c.float? "xFilesFactor" 3 = .ok none := rfl
  have hfactor' : c'.float? "xFilesFactor" 2 = .ok none := rfl
  refine (Eval.SucceedAlike.lift (ofCall_alike hwindow)).bind fun _ reach _ _ => ?_
  rw [hreducer, hfactor']
  change Eval.SucceedAlike
    (do
      let r ← reducerNamed f
      let factor ← c.float? "xFilesFactor" 3
      let series ← reachedSeries (g.operands c) c reach w
      pure (series.map (moveOver s!"moving{capitalize f}" c reach r factor)))
    (do
      let series ← reachedSeries (g.operands c') c' reach w
      pure (series.map (moveOver name c' reach r none)))
  rw [reducerNamed_eq hr, hfactor, hname]
  change Eval.SucceedAlike
    (do
      let series ← reachedSeries (g.operands c) c reach w
      pure (series.map (moveOver name c reach r none)))
    _
  rw [moveOver_congr hwindow]
  have hseries := reachedSeries_alike g (show c.args[0]? = c'.args[0]? from rfl) reach w
  exact hseries.bind fun _ series _ _ => Eval.SucceedAlike.refl _

end Builtin

/-! ## Pairs of targets -/

open Builtin (aggregate summarizer groupByNode groupByNodes movingWindow movingFixed fixedMoving capitalize)

section Pairs

variable (x n v : CanonicalText) {f : String} {r : Reducer} (hr : Reducer.ofName? f = some r)

theorem callOf_aggregate :
    CallOf s!"aggregate({x.text},'{f}')" (callOn "aggregate" [x, .quotedReducer hr]) aggregate := by
  have hf : aggregate ∈ Builtin.all := by simp [Builtin.all, Builtin.combining]
  refine CallOf.of_texts hf List.mem_cons_self rfl (by simp) (by simp) (by simp) rfl ?_
  rw [← String.toList_inj, Target.toList_callText]
  simp [toString, String.intercalate_cons_of_ne_nil]

include hr in
theorem callOf_summarizer (hf : f ∈ Reducer.names) :
    CallOf s!"{f}Series({x.text})" (callOn s!"{f}Series" [x]) (summarizer f r) := by
  have hmem : summarizer f r ∈ Builtin.all := by
    have hmem : summarizer f r ∈ Builtin.summarizers := List.mem_filterMap.2 ⟨f, hf, by rw [hr]; rfl⟩
    simp [Builtin.all, Builtin.combining, hmem]
  have hletters : ∀ c ∈ s!"{f}Series".toList, c.isAlpha = true := by
    intro c hc
    have hsplit : c ∈ f.toList ∨ c ∈ "Series".toList := by simpa [toString] using hc
    rcases hsplit with hc | hc
    · exact Reducer.isAlpha_of_mem_names f hf c hc
    · have hseries : ∀ c ∈ "Series".toList, c.isAlpha = true := by simp
      exact hseries c hc
  refine CallOf.of_texts hmem List.mem_cons_self rfl (by simp [toString]) hletters (by simp) rfl ?_
  rw [← String.toList_inj, Target.toList_callText]
  simp [toString]

theorem callOf_groupByNode : CallOf s!"groupByNode({x.text},{n.text},'{f}')"
    (callOn "groupByNode" [x, n, .quotedReducer hr]) groupByNode := by
  have hf : groupByNode ∈ Builtin.all := by simp [Builtin.all, Builtin.combining]
  refine CallOf.of_texts hf List.mem_cons_self rfl (by simp) (by simp) (by simp) rfl ?_
  rw [← String.toList_inj, Target.toList_callText]
  simp [toString, String.intercalate_cons_of_ne_nil]

theorem callOf_groupByNodes : CallOf s!"groupByNodes({x.text},'{f}',{n.text})"
    (callOn "groupByNodes" [x, .quotedReducer hr, n]) groupByNodes := by
  have hf : groupByNodes ∈ Builtin.all := by simp [Builtin.all, Builtin.combining]
  refine CallOf.of_texts hf List.mem_cons_self rfl (by simp) (by simp) (by simp) rfl ?_
  rw [← String.toList_inj, Target.toList_callText]
  simp [toString, String.intercalate_cons_of_ne_nil]

theorem callOf_movingWindow : CallOf s!"movingWindow({x.text},{v.text},'{f}')"
    (callOn "movingWindow" [x, v, .quotedReducer hr]) movingWindow := by
  have hf : movingWindow ∈ Builtin.all := by simp [Builtin.all, Builtin.moving]
  refine CallOf.of_texts hf List.mem_cons_self rfl (by simp) (by simp) (by simp) rfl ?_
  rw [← String.toList_inj, Target.toList_callText]
  simp [toString, String.intercalate_cons_of_ne_nil]

theorem callOf_movingFixed {name : String} (hname : (name, r) ∈ fixedMoving) :
    CallOf s!"{name}({x.text},{v.text})" (callOn name [x, v]) (movingFixed name r) := by
  obtain ⟨d, hd, hentry⟩ := Builtin.get?_movingFixed hname
  obtain ⟨hf, -, hd'⟩ := Registry.builtins_get? hentry
  have hwords : ∀ p ∈ fixedMoving, p.1 ≠ "" ∧ ∀ c ∈ p.1.toList, c.isAlpha = true := by simp [fixedMoving]
  obtain ⟨hne, hletters⟩ := hwords _ hname
  have hvalid : d.validate (callOn name [x, v]) = .ok () := by
    cases List.mem_singleton.1 hd
    rfl
  refine CallOf.of_texts hf hd hd' hne hletters (by simp) hvalid ?_
  rw [← String.toList_inj, Target.toList_callText]
  simp [toString, String.intercalate_cons_of_ne_nil]

end Pairs

/-- the names of the moving windows that are spelled out, each behind the reducer it is of -/
def movingSpellings : List (String × String) :=
  [("average", "movingAverage"), ("sum", "movingSum"), ("min", "movingMin"), ("max", "movingMax"),
    ("median", "movingMedian")]

theorem fixedMoving_of_spelling {p : String × String} (hp : p ∈ movingSpellings) :
    ∃ r, Reducer.ofName? p.1 = some r ∧ (p.2, r) ∈ fixedMoving ∧ s!"moving{capitalize p.1}" = p.2 := by
  simp only [movingSpellings, List.mem_cons, List.not_mem_nil, or_false] at hp
  rcases hp with rfl | rfl | rfl | rfl | rfl
  all_goals exact ⟨_, rfl, by simp [fixedMoving], by decide⟩

/-- **Two spellings come to the same series.** For every expression in canonical form, over every store and window, the
targets of each pair come to the same list of series if either comes to one: an aggregate of all series, groups by one
node or tag (anything but a bare `None`, which only the first takes for no argument), and a moving window. -/
theorem spellings_agree (x : CanonicalText) :
    (∀ f ∈ Reducer.names, SameResults s!"aggregate({x.text},'{f}')" s!"{f}Series({x.text})") ∧
    (∀ (n : CanonicalText) (f : String) (r : Reducer), n.text ≠ "None" → Reducer.ofName? f = some r →
      SameResults s!"groupByNode({x.text},{n.text},'{f}')" s!"groupByNodes({x.text},'{f}',{n.text})") ∧
    ∀ (v : CanonicalText) (f name : String), (f, name) ∈ movingSpellings →
      SameResults s!"movingWindow({x.text},{v.text},'{f}')" s!"{name}({x.text},{v.text})" := by
  refine ⟨fun f hf => ?_, fun n f r hn hr => ?_, fun v f name hp => ?_⟩
  · obtain ⟨r, hr⟩ := Reducer.exists_of_mem_names f hf
    refine (callOf_aggregate x hr).sameResults (callOf_summarizer x hr hf) (fun w => SucceedAlike.refl _) (fun w => ?_)
      rfl fun g w => Builtin.evaluate_aggregate_alike hr x g w
    exact gatherAll_cons_congr (gatherAll_string _ f .single [] w) x.value
  · refine (callOf_groupByNode x n hr).sameResults (callOf_groupByNodes x n hr) (fun w => SucceedAlike.refl _)
      (fun w => ?_) rfl fun g w => Builtin.evaluate_groupByNode_alike hr x n hn g w
    refine gatherAll_cons_congr ?_ x.value
    exact (gatherAll_cons_congr (gatherAll_string _ f .single [] w) n.value).trans
      (gatherAll_string _ f .single [n.value] w).symm
  · obtain ⟨r, hr, hfixed, hname⟩ := fixedMoving_of_spelling hp
    have hwindow : (callOn "movingWindow" [x, v, .quotedReducer hr]).namedOrAt? Builtin.Reach.param 1 =
        (callOn name [x, v]).namedOrAt? Builtin.Reach.param 1 := rfl
    refine (callOf_movingWindow x v hr).sameResults (callOf_movingFixed x v hfixed) (fun w => ?_) (fun w => ?_) rfl
      fun g w => Builtin.evaluate_movingWindow_alike hr hname x v g w
    · exact (Builtin.ofCall_alike hwindow).bind fun reach => SucceedAlike.refl _
    · exact gatherAll_cons_congr (gatherAll_cons_congr (gatherAll_string _ f .single [] w) v.value) x.value

/-- the sum of one series, groups by a node and by percentile, and a window of a minute -/
theorem spellings_agree_pattern :
    let store : Store := [Series.ofSamples "m" [1, 2] 60 0]
    let run (target : String) := (((store.engine false).execute target ⟨0, 120⟩).runFrom {}).1
    (∃ o, run "aggregate(m,'sum')" = .ok [o] ∧ run "sumSeries(m)" = .ok [o] ∧ o.name = "sumSeries(m)" ∧
      o.values = [1, 2]) ∧
    SameResults "groupByNode(m,1,'p95')" "groupByNodes(m,'p95',1)" ∧
    SameResults "movingWindow(m,'1min','max')" "movingMax(m,'1min')" := by
  intro store run
  let m : CanonicalText := ⟨"m", .name "m", by cbv, rfl⟩
  obtain ⟨haggregate, hgroup, hmoving⟩ := spellings_agree m
  refine ⟨?_, ?_, ?_⟩
  · have hsum : Reducer.ofName? "sum" = some .sum := rfl
    have hrun : run "aggregate(m,'sum')" = .ok (Builtin.aggregated "sum" .sum "m" store) := by
      have hcall := callOf_aggregate m hsum
      obtain ⟨d, hentry, hvalid⟩ := hcall.entry
      have hplain : ∀ e ∈ (callOn "aggregate" [m, .quotedReducer hsum]).args, e.Plain := by
        intro e he
        rcases List.mem_pair.1 he with rfl | rfl
        · exact ⟨_, Glob.compile_m⟩
        · trivial
      obtain ⟨q, hq, hrun⟩ := @Engine.execute_call store _ _ hcall.parse _ hentry ⟨0, 120⟩ _ rfl hvalid hplain
        (by simp [callOn]) {}
      have hmatched : Store.matched store [.char 'm'] = store := List.filter_eq_self.2 (by decide +kernel)
      have hlook := Engine.lookUp_pattern hq.kept (hq.held "m" (Or.inl List.mem_cons_self)) Glob.compile_m
      have hpart : store.filterMap (Request.part ⟨"m", 0, 120⟩) = store := rfl
      rw [hmatched, hpart] at hlook
      change run "aggregate(m,'sum')" = _ at hrun
      rw [hrun, Builtin.evaluate_aggregate hsum m]
      exact congrArg Prod.fst (Eval.runFrom_bind_ok hlook)
    have hsame := haggregate "sum" (by simp [Reducer.names]) store ⟨0, 120⟩ {}
    refine ⟨_, hrun, (hsame _).1 hrun, rfl, ?_⟩
    decide +kernel
  · have hone : Decimal.readFloat ['1'] = some (Decimal.Numeral.toFloat (.decimal false 1 0)) := rfl
    obtain ⟨r, hr⟩ := Option.isSome_iff_exists.1 (show (Reducer.ofName? "p95").isSome = true by decide +kernel)
    have hdigit : ∀ d ∈ ['1'], Target.isNumberChar d = true := by simp [Target.isNumberChar]
    exact hgroup (.number (Or.inl rfl) hdigit hone) "p95" r (show "1" ≠ "None" by decide) hr
  · exact hmoving (.quoted "1min" (by simp) (by simp)) "max" "movingMax" (by simp [movingSpellings])

end MetricQuery
