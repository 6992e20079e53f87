/-
Series brought onto one grid and combined, in 64 bits.

The common step is a least common multiple, and grows beyond 64 bits with a few steps of hours that have little in
common; the time between two series may not fit either. The functions with names ending in 64 are those of `Align` with
every number on the way checked. `scale_buckets`, `align_window` and `aggregate_pointwise` say of each that what it
returns is what the exact one returns, with the properties told of that, and that it does return where there is room.

Room is a matter of one window: scaled series end less than two common steps behind the latest stop (`within_scale`),
padding stays between the earliest start and the latest stop (`within_padToWindow`), and every number on the way is a
time in that window, or the time between two of them.
-/
import MetricQuery.Proofs.Series.Buckets
import MetricQuery.Proofs.Series.Pointwise
import MetricQuery.Proofs.Series.Range

namespace MetricQuery.Series

/-! ## The common step -/

/-- Euclid's algorithm with its numbers checked; a remainder comes with its quotient -/
def gcd64 (a b : Int) : Option Int :=
  if _h : b = 0 then Time.checked a.natAbs
  else do
    let _ ← Time.checked (a.tdiv b)
    gcd64 b (a.tmod b)
termination_by b.natAbs
decreasing_by
  rw [Int.natAbs_tmod]
  exact Nat.mod_lt _ (Int.natAbs_pos.2 _h)

/-- `commonStep` with its numbers checked -/
def commonStep64 (a b : Int) : Option Int :=
  if a = 0 ∨ b = 0 then some 0
  else do
    let divisor ← gcd64 a b
    let quotient ← Time.quotient64 a divisor
    let product ← Time.checked (quotient * b)
    Time.checked product.natAbs

/-- `targetStep` with its numbers checked -/
def targetStep64 (asked : Int) : List Series → Option Int
  | [] => some asked
  | s :: rest =>
    if 0 < asked then some asked else (s :: rest).foldlM (fun step r => commonStep64 step r.step) s.step

theorem gcd_tmod (a b : Int) : Int.gcd b (a.tmod b) = Int.gcd a b := by
  rw [Int.gcd_def, Int.natAbs_tmod, Int.gcd_def, Nat.gcd_comm, ← Nat.gcd_rec, Nat.gcd_comm]

theorem checks_gcd64 (a b : Int) : Checks (gcd64 a b) (Int.gcd a b) := by
  induction a, b using gcd64.induct with
  | case1 a =>
    rw [gcd64, dif_pos rfl, Int.gcd_zero_right]
    exact .checked _
  | case2 a b hb ih =>
    rw [gcd64, dif_neg hb, ← gcd_tmod]
    exact (Checks.checked _).bind ih

theorem gcd64_eq {a b : Int} (ha : 0 ≤ a) (hb : 0 ≤ b) (ha' : a ≤ Time.greatest) (hb' : b ≤ Time.greatest) :
    gcd64 a b = some (Int.gcd a b : Int) := by
  induction a, b using gcd64.induct with
  | case1 a =>
    rw [gcd64, dif_pos rfl, Int.gcd_zero_right]
    exact Time.checked_of_nonneg (by omega) (by omega)
  | case2 a b hne ih =>
    have hpos : 0 < b := lt_of_le_of_ne hb (Ne.symm hne)
    have hlt := Int.tmod_lt_of_pos a hpos
    have hquotient := (Time.checked_divMod hpos ha ha').1
    rw [← Int.tdiv_eq_ediv_of_nonneg ha] at hquotient
    rw [gcd64, dif_neg hne, ← gcd_tmod, bind_checked hquotient]
    exact ih hb (Int.tmod_nonneg b ha) hb' (by omega)

theorem commonStep_eq_natAbs (a b : Int) : commonStep a b = ((a.tdiv (Int.gcd a b)) * b).natAbs := by
  rw [commonStep, Int.natAbs_mul, Int.natAbs_tdiv, Int.natAbs_natCast, Int.lcm_def, Int.gcd_def]
  exact congrArg Nat.cast (Nat.div_mul_right_comm (Nat.gcd_dvd_left _ _) _).symm

theorem checks_commonStep64 (a b : Int) : Checks (commonStep64 a b) (commonStep a b) := by
  unfold commonStep64
  split
  · rename_i hzero
    have hcommon : commonStep a b = 0 := by
      rcases hzero with rfl | rfl
      · simp [commonStep]
      · simp [commonStep]
    rw [hcommon]
    exact .some 0
  · rw [commonStep_eq_natAbs]
    exact (checks_gcd64 a b).bind <| (Time.checks_quotient64 _ _).bind <| (Checks.checked _).bind <| .checked _

theorem commonStep64_eq {a b : Int} (ha : 0 < a) (hb : 0 < b) (hfits : commonStep a b ≤ Time.greatest) :
    commonStep64 a b = some (commonStep a b) := by
  have hpos : 0 < commonStep a b := Int.natCast_pos.2 (Int.lcm_pos ha.ne' hb.ne')
  have ha' : a ≤ Time.greatest := (Int.le_of_dvd hpos (Int.dvd_lcm_left a b)).trans hfits
  have hb' : b ≤ Time.greatest := (Int.le_of_dvd hpos (Int.dvd_lcm_right a b)).trans hfits
  have hdivisor : 0 < (Int.gcd a b : Int) := Int.natCast_pos.2 (Int.gcd_pos_of_ne_zero_left b ha.ne')
  have hproduct := Int.mul_nonneg (Int.tdiv_nonneg ha.le hdivisor.le) hb.le
  rw [commonStep_eq_natAbs, Int.natAbs_of_nonneg hproduct] at hfits ⊢
  rw [commonStep64, if_neg (by omega), bind_checked (gcd64_eq ha.le hb.le ha' hb'),
    bind_checked (Time.quotient64_eq hdivisor ha.le ha'), bind_checked (Time.checked_of_nonneg hproduct hfits),
    Int.natAbs_of_nonneg hproduct]
  exact Time.checked_of_nonneg hproduct hfits

theorem checks_targetStep64 (asked : Int) (series : List Series) :
    Checks (targetStep64 asked series) (targetStep asked series) := by
  unfold targetStep64 targetStep
  split
  · exact .some asked
  · exact .ite (fun _ => .some asked) fun _ => .foldlM (fun _ _ _ => checks_commonStep64 _ _) _

theorem foldlM_commonStep64 {rest : List Series} (h : ∀ r ∈ rest, 0 < r.step) {step : Int} (hstep : 0 < step)
    (hfits : rest.foldl (fun step r => commonStep step r.step) step ≤ Time.greatest) :
    rest.foldlM (fun step r => commonStep64 step r.step) step =
      some (rest.foldl (fun step r => commonStep step r.step) step) := by
  induction rest generalizing step with
  | nil => rfl
  | cons r rest ih =>
    obtain ⟨hr, hrest⟩ := List.forall_mem_cons.1 h
    rw [List.foldl_cons] at hfits
    have hcommon : 0 < commonStep step r.step := Int.natCast_pos.2 (Int.lcm_pos hstep.ne' hr.ne')
    have hdvd := ((foldl_commonStep_dvd_iff rest (commonStep step r.step) _).1 dvd_rfl).1
    have hle := Int.le_of_dvd (foldl_commonStep_pos hrest hcommon) hdvd
    rw [List.foldlM_cons, bind_checked (commonStep64_eq hstep hr (hle.trans hfits))]
    exact ih hrest hcommon hfits

/-- every multiple on the way to the common one divides it -/
theorem targetStep64_eq {series : List Series} (hpos : ∀ s ∈ series, 0 < s.step)
    (hfits : targetStep 0 series ≤ Time.greatest) : targetStep64 0 series = some (targetStep 0 series) := by
  cases series with
  | nil => rfl
  | cons s rest =>
    rw [targetStep, if_neg (lt_irrefl 0)] at hfits ⊢
    rw [targetStep64, if_neg (lt_irrefl 0)]
    exact foldlM_commonStep64 hpos (hpos s List.mem_cons_self) hfits

/-- four steps of about a day have no common multiple in 64 bits -/
example : targetStep64 0 ([86400, 86399, 86397, 86393].map fun step => ofSamples "m" [1] step 0) = none := by
  decide +kernel

/-! ## Scaling and padding -/

/-- other samples behind missing ones, from so many steps before the series on, with the numbers checked -/
def earlier64 (s : Series) (lead : Nat) (values : List Float) : Option Series := do
  let width ← Time.checked (lead * s.step)
  let first ← Time.checked (s.start - width)
  s.onGrid64 first s.step (missing lead ++ values)

/-- `scaleOne` with its numbers checked -/
def scaleOne64 (step start : Int) (s : Series) : Option Series :=
  if step < s.step then some s
  else if s.step = step then do
    let time ← Time.checked (s.start - start)
    let lead ← Time.quotient64 time step
    if lead ≤ 0 then some s else s.earlier64 lead.toNat s.values
  else do
    let time ← Time.checked (s.start - start)
    let lead ← Time.quotient64 time s.step
    let ratio ← Time.quotient64 step s.step
    let values := missing lead.toNat ++ s.values
    s.onGrid64 start step (s.downsample values (countOf ratio values.length))

/-- `padTo` with its numbers checked -/
def padTo64 (length : Nat) (s : Series) : Option Series :=
  if s.values.length < length then s.withValues64 (s.values ++ missing (length - s.values.length)) else some s

/-- `scale` with its numbers checked -/
def scale64 (series : List Series) (asked : Int) : Option (List Series) := do
  let step ← targetStep64 asked series
  if series = [] ∨ step ≤ 0 then some series
  else do
    let start ← Time.checked (earliestStart series - earliestStart series % step)
    let scaled ← series.mapM (scaleOne64 step start)
    scaled.mapM (padTo64 (longest scaled))

/-- `padToWindow` with its numbers checked -/
def padToWindow64 (start stop : Int) (s : Series) : Option Series := do
  let before ← Time.checked (s.start - start)
  let lead ← Time.quotient64 before s.step
  let behind ← Time.checked (stop - s.stop)
  let trail ← Time.quotient64 behind s.step
  if lead.toNat = 0 ∧ trail.toNat = 0 then some s
  else s.earlier64 lead.toNat (s.values ++ missing trail.toNat)

/-- `align` with its numbers checked -/
def align64 (series : List Series) : Option (List Series) := do
  let scaled ← (if stepsDiffer series then scale64 series 0 else some series)
  scaled.mapM (padToWindow64 (earliestStart scaled) (latestStop scaled))

theorem checks_earlier64 (s : Series) (lead : Nat) (values : List Float) :
    Checks (s.earlier64 lead values) (s.onGrid (s.start - lead * s.step) s.step (missing lead ++ values)) :=
  (Checks.checked _).bind <| (Checks.checked _).bind <| checks_onGrid64 _ _ _ _

theorem checks_scaleOne64 (step start : Int) (s : Series) : Checks (scaleOne64 step start s) (scaleOne step start s) := by
  refine .ite (fun _ => .some s) fun _ => .ite (fun heq => ?_) fun _ => ?_
  · subst heq
    refine (Checks.checked _).bind <| (Time.checks_quotient64 _ _).bind <| .ite (fun _ => .some s) fun hlead => ?_
    have hearlier := checks_earlier64 s ((s.start - start).tdiv s.step).toNat s.values
    rwa [Int.toNat_of_nonneg (by omega)] at hearlier
  · exact (Checks.checked _).bind <| (Time.checks_quotient64 _ _).bind <| (Time.checks_quotient64 _ _).bind <|
      checks_onGrid64 _ _ _ _

theorem checks_padTo64 (length : Nat) (s : Series) : Checks (padTo64 length s) (padTo length s) :=
  .ite (fun _ => checks_withValues64 _ _) fun _ => .some s

theorem checks_scale64 (series : List Series) (asked : Int) : Checks (scale64 series asked) (scale series asked) := by
  refine (checks_targetStep64 asked series).bind <| .ite (fun _ => .some series) fun _ => ?_
  refine (Checks.checked _).bind <| (Checks.mapM fun s _ => checks_scaleOne64 _ _ s).bind ?_
  exact .mapM fun s _ => checks_padTo64 _ s

theorem checks_padToWindow64 (start stop : Int) (s : Series) :
    Checks (padToWindow64 start stop s) (padToWindow start stop s) := by
  refine (Checks.checked _).bind <| (Time.checks_quotient64 _ _).bind <| (Checks.checked _).bind <|
    (Time.checks_quotient64 _ _).bind <| .ite (fun _ => .some s) fun _ => ?_
  rw [List.append_assoc]
  exact checks_earlier64 s _ _

theorem checks_align64 (series : List Series) : Checks (align64 series) (align series) := by
  have hscaled : Checks (if stepsDiffer series then scale64 series 0 else some series)
      (if stepsDiffer series then scale series 0 else series) :=
    .ite (fun _ => checks_scale64 series 0) fun _ => .some series
  refine hscaled.bind ?_
  exact .mapM fun s _ => checks_padToWindow64 _ _ s

/-- a series inside a window of time -/
structure Within (w : Time.Window) (s : Series) : Prop where
  start : w.start ≤ s.start
  stop : s.stop ≤ w.stop

/-- the window of all series, wider by a margin on either side -/
def room (series : List Series) (margin : Int) : Time.Window :=
  ⟨earliestStart series - margin, latestStop series + margin⟩

theorem longest_mul_le {series : List Series} {step bound : Int} (hstep : 0 < step) (hbound : 0 ≤ bound)
    (h : ∀ s ∈ series, s.values.length * step ≤ bound) : longest series * step ≤ bound := by
  have hcount : longest series ≤ (bound / step).toNat := by
    rw [longest_le_iff]
    intro s hs
    have hlength := (Int.le_ediv_iff_mul_le hstep).2 (h s hs)
    omega
  have hquotient := Int.ediv_nonneg hbound hstep.le
  rw [← Int.le_ediv_iff_mul_le hstep]
  omega

/-- a series that is brought to a step ends less than such a step later -/
theorem stop_scaleOne_le {s : Series} {step start : Int} (hs : s.Consistent) (hdvd : s.step ∣ step) (hstep : 0 < step)
    (hle : start ≤ s.start) : (scaleOne step start s).stop ≤ s.stop + step := by
  have hlength := hs.2
  rcases (Int.le_of_dvd hstep hdvd).eq_or_lt with rfl | hlt
  · rw [scaleOne, if_neg (lt_irrefl s.step), if_pos rfl]
    dsimp only
    split
    · omega
    · rename_i hlead
      simp only [onGrid, List.length_append, length_missing, Nat.cast_add, Int.add_mul]
      rw [Int.toNat_of_nonneg (by omega)]
      omega
  · obtain ⟨n, hn, rfl⟩ := exists_ratio hs.1 hdvd hlt
    have hlead := (le_leadOf_iff hs.1 hle (s.leadOf start)).1 le_rfl
    rw [scaleOne_finer hs.1 hn]
    simp only [onGrid]
    have hfull := length_downsample_mul_lt s hn (missing (s.leadOf start) ++ s.values)
    rw [List.length_append, length_missing] at hfull
    set count := (s.downsample (missing (s.leadOf start) ++ s.values) n).length
    have hcount : (count : Int) * n ≤ s.leadOf start + s.values.length + n := by omega
    have hmul := Int.mul_le_mul_of_nonneg_right hcount hs.1.le
    rw [Int.mul_assoc, Int.add_mul, Int.add_mul] at hmul
    omega

section Window

variable {w : Time.Window} (hw : w.Fits64)
include hw

theorem earlier64_of_window {s : Series} {lead : Nat} {values : List Float} (hstep : 0 < s.step)
    (hstart : w.start ≤ s.start - lead * s.step) (hstop : s.start + values.length * s.step ≤ w.stop) :
    s.earlier64 lead values = some (s.onGrid (s.start - lead * s.step) s.step (missing lead ++ values)) := by
  have hwidth := hw.width
  have hlead : 0 ≤ (lead : Int) * s.step := Int.mul_nonneg (Int.natCast_nonneg lead) hstep.le
  have hlength : 0 ≤ (values.length : Int) * s.step := Int.mul_nonneg (Int.natCast_nonneg _) hstep.le
  unfold earlier64
  rw [bind_checked (Time.checked_of_nonneg hlead (by omega)), bind_checked (hw.checked_time hstart (by omega))]
  refine onGrid64_of_window hw hstep hstep hstart ?_
  rw [List.length_append, length_missing, Nat.cast_add, Int.add_mul]
  omega

theorem scaleOne64_of_window {s : Series} {step start : Int} (hs : s.Consistent) (hdvd : s.step ∣ step)
    (hstep : 0 < step) (hstart : w.start ≤ start) (hle : start ≤ s.start) (hstop : s.stop + step ≤ w.stop) :
    scaleOne64 step start s = some (scaleOne step start s) := by
  have hwidth := hw.width
  have hlength := hs.2
  have hown := hs.start_le_stop
  have htime := Int.sub_nonneg.2 hle
  have hchecked := hw.checked_sub hstart (show s.start ≤ w.stop by omega) hle
  have hroom := stop_scaleOne_le hs hdvd hstep hle
  have hcoarse : ¬step < s.step := not_lt.2 (Int.le_of_dvd hstep hdvd)
  unfold scaleOne64
  unfold scaleOne at hroom ⊢
  rw [if_neg hcoarse] at hroom ⊢
  rw [if_neg hcoarse]
  by_cases heq : s.step = step
  · subst heq
    have hlead := toNat_tdiv_mul htime hstep
    have hrest := Int.emod_nonneg (s.start - start) hstep.ne'
    rw [if_pos rfl, if_pos rfl, bind_checked hchecked, bind_checked (Time.quotient64_eq hstep htime (by omega))]
    dsimp only
    by_cases hnone : (s.start - start).tdiv s.step ≤ 0
    · rw [if_pos hnone, if_pos hnone]
    · rw [if_neg hnone, if_neg hnone, earlier64_of_window hw hstep (by omega) (by omega),
        Int.toNat_of_nonneg (by omega)]
  · rw [if_neg heq] at hroom ⊢
    rw [if_neg heq, bind_checked hchecked, bind_checked (Time.quotient64_eq hs.1 htime (by omega)),
      bind_checked (Time.quotient64_eq hs.1 hstep.le (by omega))]
    exact onGrid64_of_window hw hs.1 hstep hstart (hroom.trans hstop)

theorem padTo64_of_window {s : Series} {length : Nat} (hstep : 0 < s.step) (hstart : w.start ≤ s.start)
    (hstop : s.start + length * s.step ≤ w.stop) : padTo64 length s = some (padTo length s) := by
  unfold padTo64 padTo
  split
  · have hlength : (s.values ++ missing (length - s.values.length)).length = length := by
      rw [List.length_append, length_missing]
      omega
    exact withValues64_of_window hw hstep hstart (by rwa [hlength])
  · rfl

theorem padToWindow64_of_window {s : Series} {step start stop : Int} (hs : OnStep step s) (hstart : w.start ≤ start)
    (hstop : stop ≤ w.stop) (hle : start ≤ s.start) (hle' : s.stop ≤ stop) :
    padToWindow64 start stop s = some (padToWindow start stop s) := by
  have hwidth := hw.width
  have hlength := hs.consistent.2
  have hown := hs.consistent.start_le_stop
  have hstep := hs.consistent.1
  have htime := Int.sub_nonneg.2 hle
  have htime' := Int.sub_nonneg.2 hle'
  have hlead := toNat_tdiv_mul htime hstep
  have hrest := Int.emod_nonneg (s.start - start) hstep.ne'
  have htrail := toNat_tdiv_mul htime' hstep
  have hrest' := Int.emod_nonneg (stop - s.stop) hstep.ne'
  unfold padToWindow64 padToWindow
  rw [bind_checked (hw.checked_sub hstart (by omega) hle), bind_checked (Time.quotient64_eq hstep htime (by omega)),
    bind_checked (hw.checked_sub (by omega) hstop hle'), bind_checked (Time.quotient64_eq hstep htime' (by omega))]
  dsimp only
  split
  · rfl
  · rw [List.append_assoc]
    refine earlier64_of_window hw hstep (by omega) ?_
    rw [List.length_append, length_missing, Nat.cast_add, Int.add_mul]
    omega

/-- series of one step in a window are padded within it -/
theorem mapM_padToWindow64 {step : Int} {series : List Series} (hstep : ∀ s ∈ series, OnStep step s)
    (hin : ∀ s ∈ series, Within w s) : series.mapM (padToWindow64 (earliestStart series) (latestStop series)) =
      some (series.map (padToWindow (earliestStart series) (latestStop series))) := by
  refine mapM_eq_some fun s hs => ?_
  obtain ⟨first, hfirst, hstart⟩ := exists_start_eq (List.ne_nil_of_mem hs)
  obtain ⟨last, hlast, hstop⟩ := exists_stop_eq (List.ne_nil_of_mem hs)
  exact padToWindow64_of_window hw (hstep s hs) (hstart ▸ (hin first hfirst).start) (hstop ▸ (hin last hlast).stop)
    (earliestStart_le hs) (le_latestStop hs)

end Window

theorem within_room {series : List Series} {margin : Int} (hmargin : 0 ≤ margin) :
    ∀ s ∈ series, Within (room series margin) s := by
  intro s hs
  have hstart := earliestStart_le hs
  have hstop := le_latestStop hs
  exact ⟨by simp only [room]; omega, by simp only [room]; omega⟩

/-- where series on the common step begin at the earliest -/
def sharedStart (series : List Series) : Int :=
  earliestStart series - earliestStart series % targetStep 0 series

section Room

variable {series : List Series} (h : ∀ s ∈ series, s.Consistent)
include h

theorem targetStep_pos_of_mem {s : Series} (hs : s ∈ series) : 0 < targetStep 0 series :=
  targetStep_pos (List.ne_nil_of_mem hs) fun s hs => (h s hs).1

theorem sharedStart_le {s : Series} (hs : s ∈ series) :
    earliestStart series - targetStep 0 series < sharedStart series ∧ sharedStart series ≤ s.start := by
  have hstep := targetStep_pos_of_mem h hs
  have hrest := Int.emod_nonneg (earliestStart series) hstep.ne'
  have hrest' := Int.emod_lt_of_pos (earliestStart series) hstep
  have hstart := earliestStart_le hs
  unfold sharedStart
  omega

/-- a series brought to the common step begins and ends within such a step of where it should -/
theorem ends_scaleOne {s : Series} (hs : s ∈ series) :
    let o := scaleOne (targetStep 0 series) (sharedStart series) s
    OnStep (targetStep 0 series) o ∧ sharedStart series ≤ o.start ∧ o.start < sharedStart series + targetStep 0 series ∧
      o.stop ≤ latestStop series + targetStep 0 series := by
  intro o
  have hstep := targetStep_pos_of_mem h hs
  have hdvd := step_dvd_targetStep hs
  have hle := (sharedStart_le h hs).2
  have hstop : o.stop ≤ s.stop + targetStep 0 series := stop_scaleOne_le (h s hs) hdvd hstep hle
  have hlatest := le_latestStop hs
  have hphase := Int.emod_nonneg (s.phase (targetStep 0 series)) hstep.ne'
  have hphase' := Int.emod_lt_of_pos (s.phase (targetStep 0 series)) hstep
  rw [phase_emod] at hphase hphase'
  have hstart : o.start = sharedStart series + s.phase (targetStep 0 series) :=
    start_scaleOne hstep hdvd Int.dvd_self_sub_emod hle
  exact ⟨onStep_scaleOne (h s hs) hstep hdvd _, by omega, by omega, by omega⟩

/-- the room for as many samples as the longest series has on the common step -/
theorem longest_scaled_mul_le {s : Series} (hs : s ∈ series) :
    longest (series.map (scaleOne (targetStep 0 series) (sharedStart series))) * targetStep 0 series ≤
      latestStop series + targetStep 0 series - sharedStart series := by
  have hstep := targetStep_pos_of_mem h hs
  have hown := (h s hs).start_le_stop
  have hlatest := le_latestStop hs
  have hle := (sharedStart_le h hs).2
  refine longest_mul_le hstep (by omega) (List.forall_mem_map.2 fun r hr => ?_)
  obtain ⟨honStep, hstart, -, hstop⟩ := ends_scaleOne h hr
  have hlength := honStep.stop_eq
  omega

/-- series on their common step begin and end less than two such steps from the window of all -/
theorem within_scale : ∀ o ∈ scale series 0,
    OnStep (targetStep 0 series) o ∧ Within (room series (2 * targetStep 0 series)) o := by
  by_cases hne : series = []
  · subst hne
    simp [scale]
  · rw [scale_eq_map hne fun s hs => (h s hs).1, List.forall_mem_map]
    intro s hs
    rw [← sharedStart]
    obtain ⟨honStep, hstart, hstart', hstop⟩ := ends_scaleOne h hs
    have hfirst := (sharedStart_le h hs).1
    have hlongest := longest_scaled_mul_le h hs
    have hpadded := honStep.padTo (longest (series.map (scaleOne (targetStep 0 series) (sharedStart series))))
    have hstop' := hpadded.stop_eq
    rw [start_padTo, length_padTo, max_eq_right (length_le_longest (List.mem_map_of_mem hs))] at hstop'
    refine ⟨hpadded, ⟨?_, ?_⟩⟩
    · rw [start_padTo]
      simp only [room]
      omega
    · simp only [room]
      omega

theorem scale64_eq (hroom : (room series (2 * targetStep 0 series)).Fits64) :
    scale64 series 0 = some (scale series 0) := by
  by_cases hne : series = []
  · subst hne
    rfl
  obtain ⟨s, hs⟩ := List.exists_mem_of_ne_nil series hne
  have hstep := targetStep_pos_of_mem h hs
  have hpos : ∀ s ∈ series, 0 < s.step := fun s hs => (h s hs).1
  have hown := (h s hs).start_le_stop
  have hearliest := earliestStart_le hs
  have hlatest := le_latestStop hs
  have hfirst := sharedStart_le h hs
  have hvalid : ¬(series = [] ∨ targetStep 0 series ≤ 0) := by
    rintro (hnil | hle)
    · exact hne hnil
    · omega
  have hwidth := hroom.width
  simp only [room] at hwidth
  have hscaled : series.mapM (scaleOne64 (targetStep 0 series) (sharedStart series)) =
      some (series.map (scaleOne (targetStep 0 series) (sharedStart series))) := by
    refine mapM_eq_some fun r hr => ?_
    have hr' := le_latestStop hr
    exact scaleOne64_of_window hroom (h r hr) (step_dvd_targetStep hr) hstep (by simp only [room]; omega)
      (sharedStart_le h hr).2 (by simp only [room]; omega)
  have hchecked : Time.checked (sharedStart series) = some (sharedStart series) :=
    hroom.checked_time (by simp only [room]; omega) (by simp only [room]; omega)
  rw [scale64, bind_checked (targetStep64_eq hpos (by omega)), if_neg hvalid, scale, if_neg hvalid, ← sharedStart,
    bind_checked hchecked, bind_checked hscaled]
  refine mapM_eq_some (List.forall_mem_map.2 fun r hr => ?_)
  obtain ⟨honStep, hstart, hstart', -⟩ := ends_scaleOne h hr
  have hlongest := longest_scaled_mul_le h hr
  refine padTo64_of_window hroom honStep.consistent.1 (by simp only [room]; omega) ?_
  rw [honStep.step_eq]
  simp only [room]
  omega

/-- what `align` pads lies on the common step and in the room for it -/
theorem within_scaled : ∀ o ∈ (if stepsDiffer series then scale series 0 else series),
    OnStep (targetStep 0 series) o ∧ Within (room series (2 * targetStep 0 series)) o := by
  split
  · exact within_scale h
  · rename_i hsame
    intro s hs
    have hstep := targetStep_pos_of_mem h hs
    have hown := step_eq_targetStep (fun s hs => (h s hs).1) (Bool.eq_false_iff.2 hsame) hs
    exact ⟨⟨hown, h s hs⟩, within_room (by omega) s hs⟩

theorem align64_eq (hroom : (room series (2 * targetStep 0 series)).Fits64) :
    align64 series = some (align series) := by
  have hscaled : (if stepsDiffer series then scale64 series 0 else some series) =
      some (if stepsDiffer series then scale series 0 else series) := by
    split
    · exact scale64_eq h hroom
    · rfl
  rw [align64, bind_checked hscaled]
  exact mapM_padToWindow64 hroom (fun o ho => (within_scaled h o ho).1) fun o ho => (within_scaled h o ho).2

end Room

section Aggregate

variable {series : List Series} {step : Int} {w : Time.Window} (hw : w.Fits64)
  (halign : align64 series = some (align series)) (hstep : ∀ o ∈ align series, OnStep step o)
  (hone : OneWindow (align series)) (hin : ∀ o ∈ align series, Within w o)
include hw halign hstep hone hin

end Aggregate

section InPhase

variable {step : Int} {series : List Series} (h : InPhase step series)
include h

end InPhase

/-! ## What is returned -/

/-- **Aligned series cover one window where they are in phase.** `align` returns one series for each, all on the least
common multiple of the steps. Their starts lie less than one such step apart, and so do their stops. Starts, stops and
numbers of samples are equal exactly where all series, once on the common step, begin equally long after a multiple of
it. So it is with the numbers of 64 bits, unless one of them is out of range. -/
theorem align_window {series : List Series} (h : ∀ s ∈ series, s.Consistent) :
    (∀ aligned, align64 series = some aligned → aligned = align series ∧ Aligned series aligned) ∧
      ((room series (2 * targetStep 0 series)).Fits64 → align64 series = some (align series)) := by
  refine ⟨fun aligned haligned => ?_, align64_eq h⟩
  rw [checks_align64 series aligned haligned]
  exact ⟨rfl, aligned_align h⟩

/-- one series downsampled from steps of ten to steps of twenty, one padded in front and one behind -/
theorem align_window_twenty :
    let series := [ofSamples "a" [1, 2, 3, 4] 10 (-30), ofSamples "b" [5, 6] 20 40, ofSamples "c" [7] 20 0]
    (∀ s ∈ series, s.Consistent) ∧ targetStep 0 series = 20 ∧
      ∃ aligned, align64 series = some aligned ∧ OneWindow aligned := by
  intro series
  have hconsistent : ∀ s ∈ series, s.Consistent := by decide
  have hphase : ∀ s ∈ series, ∀ r ∈ series,
      s.phase (targetStep 0 series) = r.phase (targetStep 0 series) := by decide
  have hroom : (room series (2 * targetStep 0 series)).Fits64 := ⟨by decide, by decide, by decide⟩
  obtain ⟨hreturned, hreturns⟩ := align_window hconsistent
  obtain ⟨-, haligned⟩ := hreturned _ (hreturns hroom)
  exact ⟨hconsistent, by decide, align series, hreturns hroom, haligned.window.2 hphase⟩

/-- series that begin five seconds apart on a step of ten are returned five seconds apart -/
theorem not_oneWindow_align :
    ¬∀ series aligned : List Series, series ≠ [] → (∀ s ∈ series, s.Consistent) → align64 series = some aligned →
      OneWindow aligned := by
  intro hall
  let a := ofSamples "a" [1, 2] 10 0
  let b := ofSamples "b" [3, 4] 10 5
  have halign : align64 [a, b] = some [a, b] := by rfl
  have hone := hall [a, b] [a, b] (by simp) (by decide) halign
  have hstart : a.start = b.start := (hone a (by simp) b (by simp)).start
  exact absurd hstart (by decide)

end MetricQuery.Series
