/-
Missing samples filled where a reference has data.

`transformNull` with a reference goes by index: a missing sample is filled if some reference has one present at the same
index. The series of both sides are cut to the window one by one, so an index is a number of steps behind the first
sample that a series has in the window. Told by time, a sample is filled exactly where a reference has one present as
long after its own first sample (`Filled.samples_eq`). Where the references begin in the window when the series does,
this is the same time (`Filled.by_time`). Otherwise it is another one (`execute_transformNull_displaced`).
-/
import MetricQuery.Proofs.Engine.Calls

namespace MetricQuery

open Target (Expr Call)
open Time (Window)

namespace Series

/-- the time of the first sample in a window, or the start of the window if there is none -/
def firstIn (s : Series) (w : Window) : Int :=
  ((s.inside w).head?.map Prod.fst).getD w.start

/-- whether a sample is present at a time in a window -/
def presentIn (s : Series) (w : Window) (t : Int) : Bool :=
  ((s.inside w).lookup t).any fun x => !x.isNaN

/-- the part of a series in a window starts with its first sample there -/
theorem PartIn.firstIn_eq {w : Window} {s u : Series} (h : PartIn w s u) : s.firstIn w = u.start := by
  obtain ⟨p, rest, hp⟩ := List.exists_cons_of_ne_nil h.sampled
  have hget : u.samples[0]? = some p := by rw [h.samples_eq, hp]; rfl
  rw [getElem?_samples] at hget
  obtain ⟨v, -, rfl⟩ := Option.map_eq_some_iff.1 hget
  rw [firstIn, hp]
  simp [timestamp]

/-- what is present at an index of a part is what is present as many steps behind its first sample -/
theorem PartIn.present_getElem? {w : Window} {s u : Series} (h : PartIn w s u) (hstep : 0 < s.step) (i : Nat) :
    ((u.values[i]?).any fun x => !x.isNaN) = s.presentIn w (s.firstIn w + i * s.step) := by
  have htime : s.firstIn w + i * s.step = u.timestamp i := by rw [h.firstIn_eq, timestamp, h.step_eq]
  rw [presentIn, htime, ← h.samples_eq, ← sampleAt?_timestamp (h.step_eq ▸ hstep) i, sampleAt?]

theorem presentIn_of_nil {s : Series} {w : Window} (h : s.inside w = []) (t : Int) : s.presentIn w t = false := by
  rw [presentIn, h]
  rfl

end Series

namespace Builtin

/-! ## Filled samples -/

/-- a missing sample filled with a default, if it is to be filled -/
def filled (default : Float) (fills : Bool) (x : Float) : Float :=
  if !x.isNaN then x else if fills then default else Decimal.nan

/-- `o` has the samples of `s` in a window, those missing filled where some reference has one present as long after its
first sample -/
structure Filled (default : Float) (references : List Series) (w : Window) (s o : Series) : Prop where
  samples_eq : o.samples = (s.inside w).map fun p =>
    (p.1, filled default (references.any fun u => u.presentIn w (u.firstIn w + (p.1 - s.firstIn w))) p.2)
  by_time : (∀ u ∈ references, u.inside w ≠ [] → u.firstIn w = s.firstIn w) →
    o.samples = (s.inside w).map fun p => (p.1, filled default (references.any fun u => u.presentIn w p.1) p.2)

section References

variable {w : Window} {step : Int} (hstep : 0 < step) {references parts : List Series}
  (hsteps : ∀ u ∈ references, u.step = step)
  (hparts : List.Forall₂ (fun u v => u ∈ references ∧ Series.PartIn w u v) (references.filter fun u => u.inside w ≠ [])
    parts)
include hstep hsteps hparts

/-- at an index some part is present exactly if some series is present as many steps behind its first sample -/
theorem anyPresentAt_parts (i : Nat) :
    anyPresentAt parts i = references.any fun u => u.presentIn w (u.firstIn w + i * step) := by
  have hpresent : (references.filter fun u => u.inside w ≠ []).any (fun u => u.presentIn w (u.firstIn w + i * step)) =
      anyPresentAt parts i := by
    have hboth := hparts.imp (S := fun u v => u.step = step ∧ Series.PartIn w u v) fun u _ h => h.imp_left (hsteps u)
    generalize references.filter (fun u => u.inside w ≠ []) = series at hboth
    clear hparts
    induction hboth with
    | nil => rfl
    | cons hpart _ ih =>
      obtain ⟨rfl, hpart⟩ := hpart
      rw [List.any_cons, ih, anyPresentAt, anyPresentAt, List.any_cons, hpart.present_getElem? hstep]
  rw [← hpresent, List.any_filter]
  congr 1
  funext u
  by_cases hne : u.inside w = []
  · rw [Series.presentIn_of_nil hne, Bool.and_false]
  · simp [hne]

/-- **Filling by index is filling by the time since the first sample.** -/
theorem filled_fillMissing (default : Float) {s u : Series} (hs : s.step = step) (hu : Series.PartIn w s u)
    (name key value : String) :
    Filled default references w s (reshaped u name (fillMissing default (some parts) u.values) key value) := by
  have hsamples : (reshaped u name (fillMissing default (some parts) u.values) key value).samples =
      (s.inside w).map fun p =>
        (p.1, filled default (references.any fun u => u.presentIn w (u.firstIn w + (p.1 - s.firstIn w))) p.2) := by
    rw [← hu.samples_eq, hu.firstIn_eq]
    apply List.ext_getElem?
    intro i
    rw [Series.getElem?_samples, List.getElem?_map, Series.getElem?_samples]
    show ((fillMissing default (some parts) u.values)[i]?).map (fun v => (u.timestamp i, v)) = _
    rw [fillMissing, List.getElem?_map, List.getElem?_zipIdx]
    cases hv : u.values[i]? with
    | none => rfl
    | some v =>
      have hdelay : u.timestamp i - u.start = i * step := by
        rw [Series.timestamp, hu.step_eq, hs]
        omega
      simp only [Option.map_some, hdelay, ← anyPresentAt_parts hstep hsteps hparts, Nat.zero_add]
      rfl
  refine ⟨hsamples, fun hfirst => ?_⟩
  rw [hsamples]
  have hsame : ∀ p ∈ s.inside w, references.any (fun u => u.presentIn w (u.firstIn w + (p.1 - s.firstIn w))) =
      references.any fun u => u.presentIn w p.1 := by
    intro p hp
    rw [Bool.eq_iff_iff, List.any_eq_true, List.any_eq_true]
    refine exists_congr fun u => and_congr_right fun hu => ?_
    by_cases hnil : u.inside w = []
    · rw [Series.presentIn_of_nil hnil, Series.presentIn_of_nil hnil]
    · rw [hfirst u hu hnil, add_sub_cancel]
  exact List.map_congr_left fun p hp => by rw [hsame p hp]

end References

/-! ## Calls of `transformNull` -/

theorem get?_transformNull :
    ∃ d ∈ transformNull.descriptions, Registry.builtins.get? "transformNull" = some ⟨transformNull, d⟩ := by
  apply Registry.exists_get?_builtins
  · simp [Builtin.all, transforming]
  · simp [transformNull]
  · simp [transformNull]

theorem validate_transformNull {c : Call} {arg : Expr} {d : Description} (hd : d ∈ transformNull.descriptions)
    (harg : c.args[0]? = some arg) (hcount : c.args.length ≤ 3) : d.validate c = .ok () := by
  have hfirst := Call.hasArg_of_arg harg "seriesList"
  rw [List.mem_singleton.1 hd]
  simp [Description.validate, Description.missingFrom, seriesList, hfirst, hcount]

/-- a pattern as the reference, by key or by place, comes to the parts of the series it matches -/
theorem referenceOf_ready {store : Store} {c : Call} {w : Window} {q : Progress} (hq : Engine.Ready store c w q)
    {r : String} (hr : c.namedOrAt? "referenceSeries" 2 = some (.name r)) {glob : Glob}
    (hglob : Glob.compile r = some glob) :
    (referenceOf ((store.engine false).operands c) c w).runFrom q =
      (.ok (some ((store.matched glob).filterMap (Request.part ⟨r, w⟩))), q) := by
  unfold referenceOf
  rw [Engine.named_operands]
  cases hnamed : c.named? "referenceSeries" with
  | some e =>
    rw [Call.namedOrAt?, hnamed] at hr
    cases hr
    have hheld := hq.held r (Or.inr (List.mem_map_of_mem (Keyed.mem_of_get? hnamed)))
    show (some <$> seriesOf c 2 (.name r) ((store.engine false).eval (.name r)) w : Eval _).runFrom q = _
    rw [Engine.seriesOf_pattern, map_eq_pure_bind]
    exact Eval.runFrom_bind_ok (Engine.lookUp_pattern hq.kept hheld hglob)
  | none =>
    rw [Call.namedOrAt?, hnamed] at hr
    have hat : c.arg? 2 = some (.name r) := hr
    show (if (c.arg? 2).isSome then some <$> seriesAt ((store.engine false).operands c) c 2 w else pure none
      : Eval _).runFrom q = _
    rw [hat, Option.isSome_some, if_pos rfl, map_eq_pure_bind]
    exact Eval.runFrom_bind_ok (Engine.seriesAt_ready hq hat hglob)

/-- a series with its missing samples filled, named after how this was done -/
def nullsFilled (default : Float) (references : Option (List Series)) (s : Series) : Series :=
  let suffix := if references.isSome then ",referenceSeries" else ""
  let text := Decimal.plainText default
  reshaped s s!"transformNull({s.name},{text}{suffix})" (fillMissing default references s.values) "transformNull" text

theorem evaluate_transformNull (ops : Operands) (c : Call) (w : Window) : transformNull.evaluate ops c w = (do
    let series ← seriesAt ops c 0 w
    let default ← c.floatOr "default" 1 0.0
    let references ← referenceOf ops c w
    pure (series.map (nullsFilled default references))) := rfl

theorem runFrom_transformNull {ops : Operands} {c : Call} {w : Window} {p q : Progress} {series : List Series}
    (hseries : (seriesAt ops c 0 w).runFrom p = (.ok series, q)) {default : Float}
    (hdefault : c.floatOr "default" 1 0.0 = .ok default) {references : Option (List Series)}
    (hreferences : (referenceOf ops c w).runFrom q = (.ok references, q)) :
    (transformNull.evaluate ops c w).runFrom p = (.ok (series.map (nullsFilled default references)), q) := by
  rw [evaluate_transformNull, Eval.runFrom_bind_ok hseries, hdefault]
  exact Eval.runFrom_bind_ok hreferences

theorem transformNull_run {store : Store} {c : Call} {w : Window} {q : Progress} (hq : Engine.Ready store c w q)
    {m r : String} {gm gr : Glob} (hm : c.args[0]? = some (.name m))
    (hr : c.namedOrAt? "referenceSeries" 2 = some (.name r)) (hgm : Glob.compile m = some gm)
    (hgr : Glob.compile r = some gr) {default : Float} (hdefault : c.floatOr "default" 1 0.0 = .ok default) :
    let text := Decimal.plainText default
    let suffix := ",referenceSeries"
    (transformNull.evaluate ((store.engine false).operands c) c w).runFrom q =
      (.ok (((store.matched gm).filterMap (Request.part ⟨m, w⟩)).map fun s =>
        reshaped s s!"transformNull({s.name},{text}{suffix})"
          (fillMissing default (some ((store.matched gr).filterMap (Request.part ⟨r, w⟩))) s.values) "transformNull"
          text), q) := by
  intro text suffix
  rw [runFrom_transformNull (Engine.seriesAt_ready hq hm hgm) hdefault (referenceOf_ready hq hr hgr)]
  rfl

end Builtin

namespace Engine

open Builtin (Filled filled transformNull fillMissing reshaped)

section Call

variable (store : Store) {target : String} {c : Call} (hparse : Target.parse target = .ok c.toExpr)
  (hname : c.function = "transformNull") {m r : String} (hm : c.args[0]? = some (.name m))
  (hr : c.namedOrAt? "referenceSeries" 2 = some (.name r)) {gm gr : Glob} (hgm : Glob.compile m = some gm)
  (hgr : Glob.compile r = some gr) (hargs : ∀ e ∈ c.args, e.Plain) (hnamed : ∀ p ∈ c.named, p.2.Plain)
  (hcount : c.args.length ≤ 3) {default : Float} (hdefault : c.floatOr "default" 1 0.0 = .ok default)
include hparse hname hm hr hgm hgr hargs hnamed hcount hdefault

/-- the parts of the series that a pattern matches are filled by those of the reference -/
theorem execute_transformNull_parts (w : Window) (p : Progress) :
    let text := Decimal.plainText default
    let suffix := ",referenceSeries"
    (((store.engine false).execute target w).runFrom p).1 =
      .ok (((store.matched gm).filterMap (Request.part ⟨m, w⟩)).map fun s =>
        reshaped s s!"transformNull({s.name},{text}{suffix})"
          (fillMissing default (some ((store.matched gr).filterMap (Request.part ⟨r, w⟩))) s.values) "transformNull"
          text) := by
  obtain ⟨d, hd, hentry⟩ := Builtin.get?_transformNull
  rw [← hname] at hentry
  obtain ⟨q, hq, hrun⟩ :=
    execute_call hparse hentry rfl (Builtin.validate_transformNull hd hm hcount) hargs hnamed p
  rw [hrun, Builtin.transformNull_run hq hm hr hgm hgr hdefault]

/-- **A reference fills by the time since its first sample.** Where the series that two patterns match have one step,
and nothing overflows on their way to the window, `transformNull` gives a series for each with a sample there. It keeps
the samples that are present. It fills a missing one exactly where a reference has a sample as long after its own first
one in the window, which is at the same time where all begin there together. -/
theorem execute_transformNull {step : Int} (hstep : 0 < step) {w : Window}
    (hmatched : ∀ s, s ∈ store.matched gm ∨ s ∈ store.matched gr →
      s.step = step ∧ s.IndexFits w.start ∧ s.IndexFits w.stop) (p : Progress) :
    ∃ outs, (((store.engine false).execute target w).runFrom p).1 = .ok outs ∧
      List.Forall₂ (Filled default (store.matched gr) w) ((store.matched gm).filter fun s => s.inside w ≠ []) outs := by
  refine ⟨_, execute_transformNull_parts store hparse hname hm hr hgm hgr hargs hnamed hcount hdefault w p, ?_⟩
  have hparts : ∀ {glob}, (∀ s ∈ store.matched glob, s.step = step ∧ s.IndexFits w.start ∧ s.IndexFits w.stop) →
      ∀ name, List.Forall₂ (fun s u => s ∈ store.matched glob ∧ Series.PartIn w s u)
        ((store.matched glob).filter fun s => s.inside w ≠ [])
        ((store.matched glob).filterMap (Request.part ⟨name, w⟩)) := by
    intro glob hall name
    refine Request.forall₂_part (fun s hs => ?_) name
    obtain ⟨rfl, hfits⟩ := hall s hs
    exact ⟨hstep, hfits⟩
  have hseries := hparts (fun s hs => hmatched s (Or.inl hs)) m
  have hreferences := hparts (fun s hs => hmatched s (Or.inr hs)) r
  rw [List.forall₂_map_right_iff]
  refine hseries.imp fun s u ⟨hs, hu⟩ => ?_
  exact Builtin.filled_fillMissing hstep (fun v hv => (hmatched v (Or.inr hv)).1) hreferences default
    (hmatched s (Or.inl hs)).1 hu _ _ _

end Call

/-- a call of two patterns -/
def fivesByReference : Call :=
  ⟨"transformNull", [.name "m", .number 5 "5", .name "r"], [], "m,5,r"⟩

theorem parse_fivesByReference : Target.parse "transformNull(m,5,r)" = .ok fivesByReference.toExpr := by
  have hread : (Target.parse "transformNull(m,5,r)").toOption.bind Expr.leafCall? =
      some ("transformNull", [.name "m", .number 5 "5", .name "r"], "m,5,r") := by decide +kernel
  exact Target.parse_of_leafCall? hread

theorem compile_r : Glob.compile "r" = some [.char 'r'] :=
  Glob.compile_of_parse (by cbv) (by decide +kernel)

theorem plain_fivesByReference : ∀ e ∈ fivesByReference.args, e.Plain := by
  intro e he
  simp only [fivesByReference, List.mem_cons, List.not_mem_nil, or_false] at he
  rcases he with rfl | rfl | rfl
  · exact ⟨_, Glob.compile_m⟩
  · trivial
  · exact ⟨_, compile_r⟩

theorem matched_pair {a b : Series} (ha : a.nameTag = "m") (hb : b.nameTag = "r") :
    Store.matched [a, b] [.char 'm'] = [a] ∧ Store.matched [a, b] [.char 'r'] = [b] := by
  have hm : Glob.accepts [.char 'm'] "m" = true ∧ Glob.accepts [.char 'm'] "r" = false := by decide +kernel
  have hr : Glob.accepts [.char 'r'] "m" = false ∧ Glob.accepts [.char 'r'] "r" = true := by decide +kernel
  simp [Store.matched, ha, hb, hm, hr]

/-- a reference that begins with the series fills what it has itself -/
theorem execute_transformNull_five :
    let a := Series.ofSamples "m" [Decimal.nan, 1, Decimal.nan] 60 0
    let b := Series.ofSamples "r" [Decimal.nan, 7, 8] 60 0
    ∃ o, (((Store.engine [a, b] false).execute "transformNull(m,5,r)" ⟨0, 180⟩).runFrom {}).1 = .ok [o] ∧
      o.samples = [(0, Decimal.nan), (60, 1), (120, 5)] := by
  intro a b
  obtain ⟨hseries, hreference⟩ := matched_pair (a := a) (b := b) (by decide +kernel) (by decide +kernel)
  have hgrid : ∀ s ∈ [a, b], s.step = 60 ∧ s.IndexFits 0 ∧ s.IndexFits 180 := by decide +kernel
  have hmatched : ∀ s, s ∈ Store.matched [a, b] [.char 'm'] ∨ s ∈ Store.matched [a, b] [.char 'r'] →
      s.step = 60 ∧ s.IndexFits 0 ∧ s.IndexFits 180 := by
    rintro s (hs | hs)
    · exact hgrid s (List.mem_of_mem_filter hs)
    · exact hgrid s (List.mem_of_mem_filter hs)
  have hinside : a.inside ⟨0, 180⟩ ≠ [] := by decide +kernel
  obtain ⟨outs, hrun, hall⟩ := execute_transformNull [a, b] parse_fivesByReference rfl rfl rfl Glob.compile_m compile_r
    plain_fivesByReference (by simp [fivesByReference]) (by decide) rfl (by decide) (w := ⟨0, 180⟩) hmatched {}
  rw [hseries, List.filter_cons_of_pos (by simpa using hinside), List.filter_nil] at hall
  obtain ⟨o, rest, ho, hnil, rfl⟩ := List.forall₂_cons_left_iff.1 hall
  rw [List.forall₂_nil_left_iff.1 hnil] at hrun
  refine ⟨o, hrun, ho.samples_eq.trans ?_⟩
  rw [hreference]
  decide +kernel

/-- a reference that begins a step later fills what it has a step later, and not what it has itself -/
theorem execute_transformNull_displaced :
    let a := Series.ofSamples "m" [Decimal.nan, 1, Decimal.nan] 60 0
    let b := Series.ofSamples "r" [7, 8] 60 60
    ∃ o, (((Store.engine [a, b] false).execute "transformNull(m,5,r)" ⟨0, 180⟩).runFrom {}).1 = .ok [o] ∧
      o.samples = [(0, 5), (60, 1), (120, Decimal.nan)] ∧
      o.samples ≠ (a.inside ⟨0, 180⟩).map fun p => (p.1, filled 5 (b.presentIn ⟨0, 180⟩ p.1) p.2) := by
  intro a b
  obtain ⟨hseries, hreference⟩ := matched_pair (a := a) (b := b) (by decide +kernel) (by decide +kernel)
  have hrun := execute_transformNull_parts [a, b] parse_fivesByReference rfl rfl rfl Glob.compile_m compile_r
    plain_fivesByReference (by simp [fivesByReference]) (by decide) rfl ⟨0, 180⟩ {}
  have ha : Request.part ⟨"m", 0, 180⟩ a = some a := by
    dsimp only [a]
    rfl
  have hb : Request.part ⟨"r", 0, 180⟩ b = some b := by
    dsimp only [b]
    rfl
  rw [hseries, hreference, List.filterMap_cons_some ha, List.filterMap_cons_some hb] at hrun
  exact ⟨_, hrun, by decide +kernel, by decide +kernel⟩

end Engine

end MetricQuery
