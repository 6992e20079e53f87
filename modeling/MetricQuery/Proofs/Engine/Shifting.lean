/-
Time shifts, one inside the other.

A shift moves the window by its seconds before its argument is evaluated, and moves what comes of it back by as many. So
shifts add up: the window goes by the sum, and so do the series on their way back (`MovedBack.trans`). Between the two
stands a cut of what lies beyond the end of the window, if `resetEnd` is set. There is nothing to cut at any level, since
the stored series were cut to the window that was moved through all of them, and a series that ends in a window still
does when both are moved (`movedBack_shiftSeries`).
-/
import MetricQuery.Proofs.Builtin.Lead
import MetricQuery.Proofs.Engine.Nesting

namespace MetricQuery

open Target (Expr Call)
open Time (Window)

/-- the window some seconds later -/
def Time.Window.moved (w : Window) (shift : Int) : Window :=
  ⟨w.start + shift, w.stop + shift⟩

/-- both ends of a window fit in 64 bits -/
def Time.Window.Fits (w : Window) : Prop :=
  Time.inRange w.start = true ∧ Time.inRange w.stop = true

theorem Time.Window.moved_moved (w : Window) (a b : Int) : (w.moved b).moved a = w.moved (a + b) := by
  show (⟨w.start + b + a, w.stop + b + a⟩ : Window) = ⟨w.start + (a + b), w.stop + (a + b)⟩
  congr 1 <;> omega

namespace Builtin

/-! ## Series moved back -/

/-- `o` has the values of `s`, some seconds earlier -/
structure MovedBack (shift : Int) (s o : Series) : Prop where
  start_eq : o.start = s.start - shift
  step_eq : o.step = s.step
  values_eq : o.values = s.values
  stop_eq : o.stop = o.start + o.values.length * o.step

namespace MovedBack

variable {a b : Int} {s u o : Series}

theorem trans (h : MovedBack a s u) (h' : MovedBack b u o) : MovedBack (a + b) s o where
  start_eq := by rw [h'.start_eq, h.start_eq]; omega
  step_eq := h'.step_eq.trans h.step_eq
  values_eq := h'.values_eq.trans h.values_eq
  stop_eq := h'.stop_eq

theorem samples_eq (h : MovedBack a s o) : o.samples = s.samples.map fun p => (p.1 - a, p.2) := by
  apply List.ext_getElem?
  intro i
  rw [Series.getElem?_samples, List.getElem?_map, Series.getElem?_samples, h.values_eq, Option.map_map]
  congr 1
  funext v
  have htime : o.timestamp i = s.timestamp i - a := by
    rw [Series.timestamp, Series.timestamp, h.start_eq, h.step_eq]
    omega
  rw [htime, Function.comp_apply]

end MovedBack

/-- nothing is cut off where every sample is in front of the end -/
theorem cutAt_eq_self {stop start step : Int} {values : List Float} (hstep : 0 < step)
    (h : ∀ i < values.length, start + i * step < stop) : cutAt stop start step values = values := by
  unfold cutAt
  split
  · have hcovers := (bucketCount_le_iff hstep (stop - start) (bucketCount (stop - start) step)).1 le_rfl
    refine List.take_of_length_le (not_lt.1 fun hshort => ?_)
    have hlast := h _ hshort
    omega
  · rfl

/-- a series in front of the end of a window -/
def EndsIn (w : Window) (s : Series) : Prop :=
  0 < s.step ∧ ∀ p ∈ s.samples, p.1 < w.stop

/-- **A shift cuts nothing** of a series that ends in the window moved by it. -/
theorem movedBack_shiftSeries {w : Window} {shift : Int} {s : Series} (hs : EndsIn (w.moved shift) s) (text : String)
    (resetEnd : Bool) :
    MovedBack shift s (shiftSeries text shift resetEnd w s) ∧ EndsIn w (shiftSeries text shift resetEnd w s) := by
  obtain ⟨hstep, hwithin⟩ := hs
  have hcut : cutAt w.stop (s.start - shift) s.step s.values = s.values := by
    refine cutAt_eq_self hstep fun i hi => ?_
    have hbefore : s.timestamp i < w.stop + shift :=
      hwithin (s.timestamp i, s.values[i]) (Series.mem_samples_iff.2 ⟨i, List.getElem?_eq_getElem hi, rfl⟩)
    rw [Series.timestamp] at hbefore
    omega
  have hmoved : MovedBack shift s (shiftSeries text shift resetEnd w s) := by
    refine ⟨rfl, rfl, ?_, rfl⟩
    show (if resetEnd then cutAt w.stop (s.start - shift) s.step s.values else s.values) = s.values
    rw [hcut, ite_self]
  refine ⟨hmoved, hmoved.step_eq ▸ hstep, fun p hp => ?_⟩
  rw [hmoved.samples_eq] at hp
  obtain ⟨q, hq, rfl⟩ := List.mem_map.1 hp
  have hbefore : q.1 < w.stop + shift := hwithin q hq
  exact Int.sub_right_lt_of_lt_add hbefore

/-! ## Calls of `timeShift` -/

theorem get?_timeShift :
    ∃ d ∈ timeShift.descriptions, Registry.builtins.get? "timeShift" = some ⟨timeShift, d⟩ := by
  apply Registry.exists_get?_builtins
  · simp [Builtin.all, shifting]
  · simp [timeShift, Mapping.toFunction]
  · simp [timeShift, Mapping.toFunction]

/-- a call that moves what an expression comes to; its other arguments are plain -/
structure ShiftCall (c : Call) (e : Expr) (shift : Int) (resetEnd : Bool) : Prop where
  name_eq : c.function = "timeShift"
  first : c.args.head? = some e
  plain : ∀ e' ∈ c.args.tail, e'.Plain
  named : ∀ p ∈ c.named, p.2.Plain
  count : c.args.length ≤ 3
  given : c.hasArg "timeShift" 1 = true
  shift_eq : shiftOf c = .ok shift
  reset_eq : c.boolOr "resetEnd" 2 true = .ok resetEnd

variable {c : Call} {e : Expr} {shift : Int} {resetEnd : Bool}

theorem ShiftCall.validate (hc : ShiftCall c e shift resetEnd) {d : Description} (hd : d ∈ timeShift.descriptions) :
    d.validate c = .ok () := by
  have hfirst : c.args[0]? = some e := by
    rw [← List.head?_eq_getElem?]
    exact hc.first
  have hseries := Call.hasArg_of_arg hfirst "seriesList"
  have hcount := hc.count
  have hgiven := hc.given
  rw [List.mem_singleton.1 hd]
  simp [Description.validate, Description.missingFrom, seriesList, hseries, hgiven, hcount]

end Builtin

/-! ## Stored series in a window -/

/-- the series of a store that a pattern matches and that have a sample in a window -/
def Store.sampled (store : Store) (glob : Glob) (w : Window) : List Series :=
  (store.matched glob).filter fun s => 0 < s.step ∧ s.inside w ≠ []

/-- those are answered with their parts in the window, in turn, and no others -/
theorem Store.forall₂_part {store : Store} {glob : Glob} {w : Window}
    (hfits : ∀ s ∈ store.matched glob, 0 < s.step → s.IndexFits w.start ∧ s.IndexFits w.stop) (m : String) :
    List.Forall₂ (fun s u => 0 < s.step ∧ Series.PartIn w s u) (store.sampled glob w)
      ((store.matched glob).filterMap (Request.part ⟨m, w⟩)) := by
  have hpart : (store.matched glob).filterMap (Request.part ⟨m, w⟩) =
      ((store.matched glob).filter fun s => 0 < s.step).filterMap (Request.part ⟨m, w⟩) := by
    rw [List.filterMap_filter]
    refine List.filterMap_congr fun s _ => ?_
    by_cases hstep : 0 < s.step
    · simp [hstep]
    · have hslice : s.slice w = none := if_pos (Or.inl (not_lt.1 hstep))
      simp [hstep, Request.part, hslice]
  have hsampled : store.sampled glob w =
      ((store.matched glob).filter fun s => 0 < s.step).filter fun s => s.inside w ≠ [] := by
    rw [List.filter_filter, sampled]
    exact List.filter_congr fun s _ => by simp [Bool.and_comm]
  rw [hpart, hsampled]
  have hsteps : ∀ s ∈ (store.matched glob).filter (fun s => 0 < s.step), s ∈ store.matched glob ∧ 0 < s.step := by
    intro s hs
    obtain ⟨hmem, hstep⟩ := List.mem_filter.1 hs
    exact ⟨hmem, of_decide_eq_true hstep⟩
  have hall := Request.forall₂_part (w := w) (fun s hs => ⟨(hsteps s hs).2, hfits s (hsteps s hs).1 (hsteps s hs).2⟩) m
  exact hall.imp fun s _ h => h.imp_left fun hs => (hsteps s hs).2

theorem Series.PartIn.endsIn {w : Window} {s u : Series} (h : PartIn w s u) (hstep : 0 < s.step) :
    Builtin.EndsIn w u := by
  refine ⟨h.step_eq ▸ hstep, fun p hp => ?_⟩
  rw [h.samples_eq] at hp
  exact (of_decide_eq_true (List.mem_filter.1 hp).2).2

namespace Engine

open Builtin (ShiftCall MovedBack EndsIn shiftSeries timeShift)

/-- **A shift moves what its argument comes to over the moved window.** -/
theorem ComesTo.shift {store : Store} {c : Call} {e : Expr} {shift : Int} {resetEnd : Bool} {w : Window}
    {series : List Series} (he : ComesTo store e (w.moved shift) series) (hseries : e.isSeries = true)
    (hc : ShiftCall c e shift resetEnd) (hfits : (w.moved shift).Fits) :
    ComesTo store c.toExpr w (series.map (shiftSeries (c.plainText "timeShift" 1) shift resetEnd w)) := by
  obtain ⟨d, hd, hentry⟩ := Builtin.get?_timeShift
  rw [← hc.name_eq] at hentry
  obtain ⟨rest, hargs⟩ := List.head?_eq_some_iff.1 hc.first
  have hplain := hc.plain
  rw [hargs, List.tail_cons] at hplain
  have hearly : (do
      let shift ← Builtin.shiftOf c
      .ok (shift, ← c.boolOr "resetEnd" 2 true) : Except EvalError (Int × Bool)) = .ok (shift, resetEnd) :=
    bind_eq_ok.2 ⟨_, hc.shift_eq, bind_eq_ok.2 ⟨_, hc.reset_eq, rfl⟩⟩
  have hwindow : timeShift.window c w = .ok (w.moved shift) := by
    have hstart := Builtin.moved_eq_ok.2 ⟨hfits.1, rfl⟩
    have hstop := Builtin.moved_eq_ok.2 ⟨hfits.2, rfl⟩
    exact bind_eq_ok.2 ⟨_, hc.shift_eq, bind_eq_ok.2 ⟨_, hstart, bind_eq_ok.2 ⟨_, hstop, rfl⟩⟩⟩
  exact he.mapping hseries hargs hplain hc.named hentry (hc.validate hd) hearly hwindow rfl

/-- two series with the same samples on the same grid -/
structure SameSamples (o u : Series) : Prop where
  start_eq : o.start = u.start
  stop_eq : o.stop = u.stop
  step_eq : o.step = u.step
  values_eq : o.values = u.values

/-- two series that are one series moved back by the same shift -/
theorem sameSamples_of_movedBack {shift : Int} {s o u : Series} (h : MovedBack shift s o) (h' : MovedBack shift s u) :
    SameSamples o u := by
  have hstart : o.start = u.start := h.start_eq.trans h'.start_eq.symm
  have hstep : o.step = u.step := h.step_eq.trans h'.step_eq.symm
  have hvalues : o.values = u.values := h.values_eq.trans h'.values_eq.symm
  exact ⟨hstart, by rw [h.stop_eq, h'.stop_eq, hstart, hstep, hvalues], hstep, hvalues⟩

/-- `o` has the samples of `s` in a window moved by a shift, each moved back by it -/
structure ShiftedFrom (shift : Int) (w : Window) (s o : Series) : Prop where
  consistent : o.Consistent
  step_eq : o.step = s.step
  samples_eq : o.samples = (s.inside (w.moved shift)).map fun p => (p.1 - shift, p.2)

theorem shiftedFrom_of_movedBack {shift : Int} {w : Window} {s u o : Series} (hstep : 0 < s.step)
    (hu : Series.PartIn (w.moved shift) s u) (ho : MovedBack shift u o) : ShiftedFrom shift w s o where
  consistent := by
    refine ⟨?_, by rw [ho.stop_eq]; omega⟩
    rw [ho.step_eq, hu.step_eq]
    exact hstep
  step_eq := ho.step_eq.trans hu.step_eq
  samples_eq := by rw [ho.samples_eq, hu.samples_eq]

/-- **Shifts add up.** A pattern is shifted by `a` and what comes of it by `b`, and the same pattern is shifted by
`a + b`, all over one window and each with a `resetEnd` of its own. Nothing overflows: not the ends of the window moved
by `b` or by both, nor the way of the stored series to the latter. Then both targets come to as many series, alike in
turn. There is one for each stored series with a sample in the window that is moved by both, and it holds exactly the
samples there, each moved back by both. -/
theorem execute_shifts_add (store : Store) {m : String} {glob : Glob} (hglob : Glob.compile m = some glob)
    {inner outer single : Call} {a b : Int} {resetInner resetOuter resetSingle : Bool}
    (hinner : ShiftCall inner (.name m) a resetInner) (houter : ShiftCall outer inner.toExpr b resetOuter)
    (hsingle : ShiftCall single (.name m) (a + b) resetSingle) {nested flat : String}
    (hnested : Target.parse nested = .ok outer.toExpr) (hflat : Target.parse flat = .ok single.toExpr) {w : Window}
    (hmoved : (w.moved b).Fits) (hmovedBoth : (w.moved (a + b)).Fits)
    (hmatched : ∀ s ∈ store.matched glob, 0 < s.step →
      s.IndexFits (w.moved (a + b)).start ∧ s.IndexFits (w.moved (a + b)).stop) (p : Progress) :
    ∃ twice once, (((store.engine false).execute nested w).runFrom p).1 = .ok twice ∧
      (((store.engine false).execute flat w).runFrom p).1 = .ok once ∧ List.Forall₂ SameSamples twice once ∧
      List.Forall₂ (ShiftedFrom (a + b) w) (store.sampled glob (w.moved (a + b))) twice ∧
      List.Forall₂ (ShiftedFrom (a + b) w) (store.sampled glob (w.moved (a + b))) once := by
  have hback : (w.moved b).moved a = w.moved (a + b) := w.moved_moved a b
  have hpattern := comesTo_pattern store hglob (w.moved (a + b))
  have hparts := Store.forall₂_part hmatched m
  -- both targets are changed copies of the same parts from here on
  generalize (store.matched glob).filterMap (Request.part ⟨m, w.moved (a + b)⟩) = parts at hpattern hparts
  have hends : ∀ u ∈ parts, EndsIn (w.moved (a + b)) u :=
    ((List.forall₂_and_left _ _).1 (hparts.imp fun _ _ ⟨hstep, hu⟩ => ⟨hu.endsIn hstep, hu⟩).flip).1
  have honce := hpattern.shift rfl hsingle hmovedBoth
  rw [← hback] at hpattern
  have htwice := (hpattern.shift rfl hinner (hback ▸ hmovedBoth)).shift rfl houter hmoved
  rw [List.map_map] at htwice
  have honceBack : ∀ u, EndsIn (w.moved (a + b)) u →
      MovedBack (a + b) u (shiftSeries (single.plainText "timeShift" 1) (a + b) resetSingle w u) :=
    fun u hu => (Builtin.movedBack_shiftSeries hu _ _).1
  have htwiceBack : ∀ u, EndsIn (w.moved (a + b)) u → MovedBack (a + b) u
      ((shiftSeries (outer.plainText "timeShift" 1) b resetOuter w ∘
        shiftSeries (inner.plainText "timeShift" 1) a resetInner (w.moved b)) u) := by
    intro u hu
    -- the inner call sees the window moved by `b`, and what it moves back ends there, as the outer one needs
    obtain ⟨hfirst, hbetween⟩ := Builtin.movedBack_shiftSeries (w := w.moved b) (hback ▸ hu)
      (inner.plainText "timeShift" 1) resetInner
    exact hfirst.trans (Builtin.movedBack_shiftSeries hbetween _ _).1
  refine ⟨_, _, htwice.execute hnested p, honce.execute hflat p, ?_, ?_, ?_⟩
  · rw [List.forall₂_map_left_iff, List.forall₂_map_right_iff, List.forall₂_same]
    exact fun u hu => sameSamples_of_movedBack (htwiceBack u (hends u hu)) (honceBack u (hends u hu))
  · rw [List.forall₂_map_right_iff]
    exact hparts.imp fun s u ⟨hstep, hu⟩ => shiftedFrom_of_movedBack hstep hu (htwiceBack u (hu.endsIn hstep))
  · rw [List.forall₂_map_right_iff]
    exact hparts.imp fun s u ⟨hstep, hu⟩ => shiftedFrom_of_movedBack hstep hu (honceBack u (hu.endsIn hstep))

/-- a minute into the past -/
def minuteBack : Call :=
  ⟨"timeShift", [.name "m", .string "1min" .single], [], "m,'1min'"⟩

/-- a minute and a half ahead of that, with nothing cut off -/
def ahead : Call :=
  ⟨"timeShift", [minuteBack.toExpr, .string "+90s" .single], [("resetEnd", .flag false)],
    "timeShift(m,'1min'),'+90s',resetEnd=false"⟩

/-- half a minute ahead at once -/
def halfMinuteAhead : Call :=
  ⟨"timeShift", [.name "m", .string "+30s" .single], [], "m,'+30s'"⟩

theorem shiftCall_minuteBack : ShiftCall minuteBack (.name "m") (-60) true :=
  ⟨rfl, rfl, by simp [minuteBack, Expr.Plain], by simp [minuteBack], by decide, rfl, by cbv, by cbv⟩

theorem shiftCall_ahead : ShiftCall ahead minuteBack.toExpr 90 false :=
  ⟨rfl, rfl, by simp [ahead, Expr.Plain], by simp [ahead, Expr.Plain], by simp [ahead], rfl, by cbv, by cbv⟩

theorem shiftCall_halfMinuteAhead : ShiftCall halfMinuteAhead (.name "m") (-60 + 90) true :=
  ⟨rfl, rfl, by simp [halfMinuteAhead, Expr.Plain], by simp [halfMinuteAhead], by decide, rfl, by cbv, by cbv⟩

/-- of two series one has samples in the window that is moved, off the grid of its ends -/
theorem execute_shifts_add_half :
    let a := Series.ofSamples "m" [1, 2, 3, 4, 5, 6] 60 0
    let b := Series.ofSamples "m" [7, 8, 9] 50 10
    ∃ o u, (((Store.engine [a, b] false).execute "timeShift(timeShift(m,'1min'),'+90s',resetEnd=false)"
        ⟨95, 215⟩).runFrom {}).1 = .ok [o] ∧
      (((Store.engine [a, b] false).execute "timeShift(m,'+30s')" ⟨95, 215⟩).runFrom {}).1 = .ok [u] ∧
      SameSamples o u ∧ o.samples = [(150, 4), (210, 5)] ∧ u.samples = [(150, 4), (210, 5)] := by
  intro a b
  have hnested : Target.parse "timeShift(timeShift(m,'1min'),'+90s',resetEnd=false)" = .ok ahead.toExpr := by cbv
  have hflat : Target.parse "timeShift(m,'+30s')" = .ok halfMinuteAhead.toExpr := by cbv
  have hall : Store.matched [a, b] [.char 'm'] = [a, b] := List.filter_eq_self.2 (by decide +kernel)
  have hgrid : ∀ s ∈ Store.matched [a, b] [.char 'm'], 0 < s.step →
      s.IndexFits (Window.moved ⟨95, 215⟩ (-60 + 90)).start ∧ s.IndexFits (Window.moved ⟨95, 215⟩ (-60 + 90)).stop := by
    rw [hall]
    decide +kernel
  have hsampled : Store.sampled [a, b] [.char 'm'] (Window.moved ⟨95, 215⟩ (-60 + 90)) = [a] := by
    rw [Store.sampled, hall, List.filter_cons_of_pos (by decide +kernel), List.filter_cons_of_neg (by decide +kernel),
      List.filter_nil]
  obtain ⟨twice, once, hrun, hrun', hsame, htwice, honce⟩ := execute_shifts_add [a, b] Glob.compile_m
    shiftCall_minuteBack shiftCall_ahead shiftCall_halfMinuteAhead hnested hflat ⟨by decide, by decide⟩
    ⟨by decide, by decide⟩ hgrid {}
  rw [hsampled] at htwice honce
  obtain ⟨o, rest, ho, hrest, rfl⟩ := List.forall₂_cons_left_iff.1 htwice
  obtain ⟨u, rest', hu, hrest', rfl⟩ := List.forall₂_cons_left_iff.1 honce
  rw [List.forall₂_nil_left_iff.1 hrest] at hrun hsame
  rw [List.forall₂_nil_left_iff.1 hrest'] at hrun' hsame
  refine ⟨o, u, hrun, hrun', (List.forall₂_cons.1 hsame).1, ho.samples_eq.trans ?_, hu.samples_eq.trans ?_⟩
  · decide +kernel
  · decide +kernel

end Engine

end MetricQuery
