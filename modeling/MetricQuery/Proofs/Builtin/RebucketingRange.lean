/-
Rebucketing in 64 bits.

The functions that put samples into buckets check the ends of their grid and refuse an interval for which these do not
fit in 64 bits. The other numbers on the way, such as the distance of a sample from the first bucket, the end of a sample
and the end of what is returned, nothing checks. Here each function is computed a second time with every number checked
(`Rebucketing.rebucket64`): a number that the function checks is reported where it does not fit, and for any other there
is no result at all. `rebucketing_in64` says that there always is one, and that it is the one without bounds.

What carries this are a few facts on a grid that was not refused (`Covers`): it covers the series, and its ends and width
fit. So whatever is counted from its start is no farther away than its end.
-/
import MetricQuery.Proofs.Builtin.Hits
import MetricQuery.Proofs.Series.Range

namespace MetricQuery

open Time (Window)

/-! ## Computations in 64 bits -/

/-- what is computed in 64 bits: nothing where a number on the way does not fit, and else a value or an error -/
abbrev In64 := ExceptT EvalError Option

namespace In64

variable {α β : Type}

/-- a result that no number on the way has stopped -/
def whole (x : Except EvalError α) : In64 α :=
  ExceptT.mk (some x)

theorem some_bind {x : Option α} {a : α} (hx : x = some a) (f : α → In64 β) : ((x : In64 α) >>= f) = f a := by
  subst hx
  rfl

theorem whole_bind {x : Except EvalError α} {f : α → Except EvalError β} {g : α → In64 β}
    (h : ∀ a, x = .ok a → g a = whole (f a)) : (whole x >>= g) = whole (x >>= f) := by
  cases x with
  | error e => rfl
  | ok a => exact h a rfl

end In64

namespace Builtin

open Target (Call)
open In64 (whole some_bind whole_bind)

/-! ## Grids -/

/-- `bucketCount` with its numbers checked -/
def bucketCount64 (width interval : Int) : Option Nat :=
  if width ≤ 0 then some 0
  else do
    let quotient ← Time.checked (width.tdiv interval)
    let remainder ← Time.checked (width.tmod interval)
    let count ← Time.checked (quotient + if remainder = 0 then 0 else 1)
    some count.toNat

/-- a number that is checked, and the interval refused where it does not fit -/
def reported (interval n : Int) : Except EvalError Int :=
  match Time.checked n with
  | some n => .ok n
  | none => .error (.invalidInterval s!"{interval}s")

/-- `grid` with the numbers of its count checked as well -/
def grid64 (start stop interval : Int) : In64 (Nat × Int) := do
  let width ← whole (reported interval (stop - start))
  let count ← bucketCount64 width interval
  let number ← whole (reported interval count)
  let covered ← whole (reported interval (number * interval))
  let stop ← whole (reported interval (start + covered))
  pure (count, stop)

theorem bucketCount_le {interval width : Int} (hpos : 0 < interval) (hwidth : 0 ≤ width) :
    (bucketCount width interval : Int) ≤ width := by
  obtain ⟨n, rfl⟩ := Int.eq_ofNat_of_zero_le hwidth
  have hcovers : (n : Int) ≤ n * interval := Series.le_mul_step hpos n
  have hle := (bucketCount_le_iff hpos (n : Int) n).2 hcovers
  exact Int.ofNat_le.2 hle

theorem bucketCount64_eq {interval width : Int} (hpos : 0 < interval) (hwidth : width ≤ Time.greatest) :
    bucketCount64 width interval = some (bucketCount width interval) := by
  unfold bucketCount64
  by_cases hvoid : width ≤ 0
  · rw [if_pos hvoid, bucketCount, if_pos hvoid]
  · have hwidth' : 0 ≤ width := (not_le.1 hvoid).le
    have hle := bucketCount_le hpos hwidth'
    rw [bucketCount, if_neg hvoid] at hle ⊢
    rw [if_neg hvoid]
    rw [Int.tdiv_eq_ediv_of_nonneg hwidth', Int.tmod_eq_emod_of_nonneg hwidth'] at hle ⊢
    have hquotient := Int.ediv_nonneg hwidth' hpos.le
    obtain ⟨hchecked, hchecked'⟩ := Time.checked_divMod hpos hwidth' hwidth
    rw [bind_checked hchecked, bind_checked hchecked', bind_checked (Time.checked_of_le hwidth ?_ ?_)]
    · split
      · omega
      · omega
    · omega

theorem reported_eq_ok {interval n a : Int} : reported interval n = .ok a ↔ Time.inRange n ∧ a = n := by
  unfold reported Time.checked
  by_cases hrange : Time.inRange n
  · simp [hrange, eq_comm]
  · simp [hrange]

theorem grid_eq (start stop interval : Int) : grid start stop interval = (do
    let width ← reported interval (stop - start)
    let covered ← reported interval (bucketCount width interval * interval)
    let stop ← reported interval (start + covered)
    .ok (bucketCount width interval, stop)) := by
  unfold grid reported Time.checked
  by_cases hwidth : Time.inRange (stop - start)
  · by_cases hcovered : Time.inRange (bucketCount (stop - start) interval * interval)
    · by_cases hstop : Time.inRange (start + bucketCount (stop - start) interval * interval)
      · simp [bind, Except.bind, hwidth, hcovered, hstop]
      · simp [bind, Except.bind, hwidth, hcovered, hstop]
    · simp [bind, Except.bind, hwidth, hcovered]
  · simp [bind, Except.bind, hwidth]

theorem inRange_bucketCount {interval width : Int} (hpos : 0 < interval) (hwidth : width ≤ Time.greatest) :
    Time.inRange (bucketCount width interval) := by
  have hnonneg := Int.natCast_nonneg (bucketCount width interval)
  refine Series.inRange_iff.2 ⟨Series.least_le_of_nonneg hnonneg, ?_⟩
  rcases le_total width 0 with hvoid | hwidth'
  · have hzero := (bucketCount_le_iff hpos width 0).2 (by simpa using hvoid)
    have hgreatest : 0 ≤ Time.greatest := by decide
    omega
  · have hle := bucketCount_le hpos hwidth'
    omega

/-- **A grid is refused or fits**: its count can always be computed. -/
theorem grid64_eq {interval : Int} (hpos : 0 < interval) (start stop : Int) :
    grid64 start stop interval = whole (grid start stop interval) := by
  rw [grid_eq]
  refine whole_bind fun width hwidth => ?_
  obtain ⟨hrange, rfl⟩ := reported_eq_ok.1 hwidth
  have hgreatest := (Series.inRange_iff.1 hrange).2
  rw [some_bind (bucketCount64_eq hpos hgreatest), reported_eq_ok.2 ⟨inRange_bucketCount hpos hgreatest, rfl⟩]
  exact whole_bind fun covered _ => whole_bind fun stop _ => rfl

/-- a grid that covers a series and fits in 64 bits -/
structure Covers (s : Series) (start interval : Int) (count : Nat) : Prop where
  positive : 0 < interval
  start_le : start ≤ s.start
  stop_le : s.stop ≤ start + count * interval
  start_fits : Time.inRange start
  width_fits : count * interval ≤ Time.greatest
  stop_fits : start + count * interval ≤ Time.greatest

/-! ## Buckets -/

/-- `bucketOf` with its numbers checked -/
def bucketOf64 (start interval t : Int) : Option Int := do
  let offset ← Time.checked (t - start)
  Time.checked (offset / interval)

/-- `bucketize` with its numbers checked -/
def bucketize64 (s : Series) (start interval : Int) (count : Nat) (r : Reducer) : Option (List Float) := do
  let samples ← s.samples64
  let placed ← samples.mapM fun (t, v) => do
    let index ← bucketOf64 start interval t
    some (index, v)
  some ((List.range count).map fun k =>
    r.reduce ((placed.filter fun (i, _) => i == (k : Int)).map Prod.snd) s.xFilesFactor)

section Samples

variable {s : Series} {start interval : Int} {count : Nat} (hs : s.Consistent) (hcovers : Covers s start interval count)
include hs hcovers

/-- how far a sample and its end lie behind the first bucket -/
theorem Covers.sample {p : Int × Float} (hp : p ∈ s.samples) :
    0 ≤ p.1 - start ∧ p.1 + s.step - start ≤ count * interval ∧ p.1 + s.step ≤ s.stop := by
  obtain ⟨hfirst, hlast⟩ := hs.sample_within hp
  have hstart := hcovers.start_le
  have hstop := hcovers.stop_le
  omega

theorem bucketize64_eq (hfits : s.Fits64) (r : Reducer) :
    bucketize64 s start interval count r = some (bucketize s start interval count r) := by
  have hplaced : (s.samples.mapM fun p => do
      let index ← bucketOf64 start interval p.1
      some (index, p.2)) = some (s.samples.map fun p => (bucketOf start interval p.1, p.2)) := by
    refine mapM_eq_some fun p hp => ?_
    obtain ⟨hnonneg, hend, -⟩ := hcovers.sample hs hp
    have hstep := hs.1
    have hwidth := hcovers.width_fits
    have hoffset : p.1 - start ≤ Time.greatest := by omega
    unfold bucketOf64
    rw [bind_checked (Time.checked_of_le hoffset (by omega) le_rfl),
      bind_checked (Time.checked_divMod hcovers.positive hnonneg hoffset).1]
    rfl
  unfold bucketize64
  rw [bind_checked (hfits.samples64_eq hs), bind_checked hplaced]
  unfold bucketize buckets
  rw [List.map_map]
  rfl

end Samples

/-! ## Hits -/

/-- `shares` with its numbers checked -/
def shares64 (start interval last t stop : Int) : Option (List (Int × Int)) := do
  let offset ← Time.checked (t - start)
  let first ← Time.checked (offset / interval)
  let before ← Time.checked (offset % interval)
  let reach ← Time.checked (stop - start)
  let reached ← Time.checked (reach / interval)
  let rest ← Time.checked (reach % interval)
  let (final, within) := if last < reached then (last, interval) else (reached, rest)
  if first = final then do
    let seconds ← Time.checked (within - before)
    some [(first, seconds)]
  else do
    let seconds ← Time.checked (interval - before)
    let next ← Time.checked (first + 1)
    let between ← (List.range (final - next).toNat).mapM fun (k : Nat) => do
      let index ← Time.checked (next + k)
      some (index, interval)
    some ((first, seconds) :: between ++ (if 0 < within then [(final, within)] else []))

/-- `addSample` with its numbers checked -/
def addSample64 (s : Series) (start interval last : Int) (totals : List (Option Float)) (p : Int × Float) :
    Option (List (Option Float)) :=
  if p.2.isNaN then some totals
  else do
    let stop ← Time.checked (p.1 + s.step)
    let weights ← shares64 start interval last p.1 stop
    some (weights.foldl (fun totals (index, weight) => addHits totals index (p.2 * Float.ofInt weight)) totals)

/-- `hits` with its numbers checked -/
def hits64 (s : Series) (start interval : Int) (count : Nat) : Option (List Float) := do
  let samples ← s.samples64
  let number ← Time.checked count
  let last ← Time.checked (number - 1)
  let totals ← samples.foldlM (addSample64 s start interval last) (List.replicate count none)
  some (totals.map fun total => total.getD Decimal.nan)

theorem shares64_eq {start interval last t stop : Int} (hpos : 0 < interval) (hgreatest : interval ≤ Time.greatest)
    (hstart : start ≤ t) (hsome : t < stop) (hlast : stop ≤ start + (last + 1) * interval)
    (hreach : stop - start ≤ Time.greatest) :
    shares64 start interval last t stop = some (shares start interval last t stop) := by
  obtain ⟨final, within, hstop, hwithin, hwithin', hle, hends⟩ := shares_ends hpos hsome hlast
  have hoffset : t - start ≤ Time.greatest := by omega
  have hfirst : 0 ≤ (t - start) / interval := Int.ediv_nonneg (by omega) hpos.le
  have hbefore := Int.emod_nonneg (t - start) hpos.ne'
  have hbefore' := Int.emod_lt_of_pos (t - start) hpos
  have hfinal : final ≤ Time.greatest := by
    obtain ⟨n, rfl⟩ := Int.eq_ofNat_of_zero_le (hfirst.trans hle)
    have hmul := Series.le_mul_step hpos n
    omega
  obtain ⟨hcheckedFirst, hcheckedBefore⟩ := Time.checked_divMod hpos (by omega) hoffset
  obtain ⟨hcheckedReached, hcheckedRest⟩ := Time.checked_divMod hpos (by omega) hreach
  unfold shares64 shares
  rw [bind_checked (Time.checked_of_le hoffset (by omega) le_rfl), bind_checked hcheckedFirst,
    bind_checked hcheckedBefore, bind_checked (Time.checked_of_le hreach (by omega) le_rfl),
    bind_checked hcheckedReached, bind_checked hcheckedRest, hends]
  dsimp only
  by_cases hsame : (t - start) / interval = final
  · rw [if_pos hsame, if_pos hsame, bind_checked (Time.checked_of_le hgreatest (by omega) (by omega))]
  · have hbetween : (List.range (final - ((t - start) / interval + 1)).toNat).mapM (fun (k : Nat) => do
        let index ← Time.checked ((t - start) / interval + 1 + k)
        some (index, interval)) = some ((List.range (final - ((t - start) / interval + 1)).toNat).map fun (k : Nat) =>
          ((t - start) / interval + 1 + (k : Int), interval)) := by
      refine mapM_eq_some fun k hk => ?_
      rw [List.mem_range] at hk
      rw [bind_checked (Time.checked_of_le hfinal (by omega) (by omega))]
    rw [if_neg hsame, if_neg hsame, bind_checked (Time.checked_of_le hgreatest (by omega) (by omega)),
      bind_checked (Time.checked_of_le hfinal (by omega) (by omega)), bind_checked hbetween, Int.sub_sub]

section Hits

variable {s : Series} {start interval : Int} {count : Nat} (hs : s.Consistent) (hcovers : Covers s start interval count)
  (hgreatest : interval ≤ Time.greatest) (hfits : s.Fits64)
include hs hcovers hgreatest hfits

theorem addSample64_eq (totals : List (Option Float)) {p : Int × Float} (hp : p ∈ s.samples) :
    addSample64 s start interval ((count : Int) - 1) totals p = some (addSample s start interval count totals p) := by
  unfold addSample64 addSample
  by_cases hnan : p.2.isNaN
  · rw [if_pos hnan, if_pos hnan]
  · obtain ⟨hnonneg, hend, hstop⟩ := hcovers.sample hs hp
    have hstep := hs.1
    have hwidth := hcovers.width_fits
    have hcount : ((count : Int) - 1) + 1 = count := Int.sub_add_cancel _ _
    have hleast := (Series.inRange_iff.1 hcovers.start_fits).1
    have hstop' := (Series.inRange_iff.1 hfits.stop).2
    rw [if_neg hnan, if_neg hnan, bind_checked (Series.checked_eq_some (by omega) (by omega)),
      bind_checked (shares64_eq hcovers.positive hgreatest (by omega) (by omega) (by rw [hcount]; omega) (by omega))]

theorem hits64_eq : hits64 s start interval count = some (hits s start interval count) := by
  have hwidth := hcovers.width_fits
  have hcount := Series.le_mul_step hcovers.positive count
  unfold hits64
  rw [bind_checked (hfits.samples64_eq hs), bind_checked (Series.checked_count hcovers.positive hwidth),
    bind_checked (Series.checked_eq_some ?_ ?_),
    bind_checked (foldlM_eq_some (fun totals p hp => addSample64_eq hs hcovers hgreatest hfits totals hp) _), hits_eq]
  · have hleast : Time.least ≤ -1 := by decide
    omega
  · omega

end Hits

/-! ## Functions -/

/-- what a call of one of the functions asks for, but for the interval -/
inductive Rebucketing where
  | summary (text reducerName : String) (r : Reducer) (alignToFrom : Bool)
  | smartSummary (text reducerName : String) (r : Reducer) (alignment : Option String)
  | hits (text : String) (aligned : Bool)

namespace Rebucketing

def function : Rebucketing → Function
  | summary .. => summarize
  | smartSummary .. => smartSummarize
  | hits .. => hitcount

/-- what is asked for is what the arguments of a call say -/
def ReadFrom (c : Call) : Rebucketing → Prop
  | summary text reducerName r alignToFrom =>
    c.plainText "intervalString" 1 = text ∧ c.stringOr "func" 2 "sum" = .ok reducerName ∧
      reducerNamed reducerName = .ok r ∧ c.boolOr "alignToFrom" 3 false = .ok alignToFrom
  | smartSummary text reducerName r alignment =>
    c.plainText "intervalString" 1 = text ∧ c.stringOr "func" 2 "sum" = .ok reducerName ∧
      reducerNamed reducerName = .ok r ∧ alignmentOf c = .ok alignment
  | hits text aligned => c.plainText "intervalString" 1 = text ∧ hitcountAligned c = .ok aligned

/-- a series without samples under its new name -/
def shell (s : Series) : Rebucketing → Series
  | summary text reducerName _ alignToFrom =>
    let suffix := if alignToFrom then ", true" else ""
    s.shell s!"summarize({s.name}, \"{text}\", \"{reducerName}\"{suffix})"
  | smartSummary text reducerName _ alignment =>
    let suffix := alignment.elim "" fun unit => s!",'{unit}'"
    s.shell s!"smartSummarize({s.name},'{text}','{reducerName}'{suffix})"
  | hits text aligned =>
    let suffix := if aligned then ", true" else ""
    s.shell s!"hitcount({s.name}, \"{text}\"{suffix})"

def tagged (interval : Int) (o : Series) : Rebucketing → Series
  | summary text reducerName _ _ => (o.withTag "summarize" text).withTag "summarizeFunction" reducerName
  | smartSummary _ reducerName _ _ =>
    (o.withTag "smartSummarize" (toString interval)).withTag "smartSummarizeFunction" reducerName
  | hits text _ => o.withTag "hitcount" text

theorem step_shell (k : Rebucketing) (s : Series) : (k.shell s).step = s.step := by
  cases k with
  | summary => rfl
  | smartSummary => rfl
  | hits => rfl

/-- a series with the tags of what it shows is on the grid that it was on -/
theorem tagged_grid (k : Rebucketing) (interval : Int) (o : Series) :
    (k.tagged interval o).start = o.start ∧ (k.tagged interval o).stop = o.stop ∧
      (k.tagged interval o).step = o.step ∧ (k.tagged interval o).values = o.values := by
  cases k with
  | summary => exact ⟨rfl, rfl, rfl, rfl⟩
  | smartSummary => exact ⟨rfl, rfl, rfl, rfl⟩
  | hits => exact ⟨rfl, rfl, rfl, rfl⟩

/-- where the buckets begin, and how many there are -/
def place (interval : Int) (s : Series) : Rebucketing → Except EvalError (Int × Nat)
  | summary _ _ _ alignToFrom => do
    let start ← if alignToFrom then .ok s.start else moved s.start (-(s.start % interval))
    let (count, _) ← grid start s.stop interval
    .ok (start, count)
  | smartSummary .. => do
    let (count, _) ← grid s.start s.stop interval
    .ok (s.start, count)
  | hits _ aligned => do
    let (count, stop) ← grid s.start s.stop interval
    let start ← if aligned then .ok s.start else moved s.stop (s.start - stop)
    .ok (start, count)

def values (s : Series) (start interval : Int) (count : Nat) : Rebucketing → List Float
  | summary _ _ r _ => bucketize s start interval count r
  | smartSummary _ _ r _ => bucketize s start interval count r
  | hits .. => Builtin.hits s start interval count

/-- what becomes of one series -/
def rebucket (k : Rebucketing) (interval : Int) (s : Series) : Except EvalError Series := do
  let (start, count) ← k.place interval s
  .ok (k.tagged interval ((k.shell s).onGrid start interval (k.values s start interval count)))

/-- `place` with its numbers checked -/
def place64 (interval : Int) (s : Series) : Rebucketing → In64 (Int × Nat)
  | summary _ _ _ alignToFrom => do
    let start ←
      if alignToFrom then pure s.start
      else do
        let rest ← Time.checked (s.start % interval)
        let offset ← Time.checked (-rest)
        whole (moved s.start offset)
    let (count, _) ← grid64 start s.stop interval
    pure (start, count)
  | smartSummary .. => do
    let (count, _) ← grid64 s.start s.stop interval
    pure (s.start, count)
  | hits _ aligned => do
    let (count, stop) ← grid64 s.start s.stop interval
    let start ←
      if aligned then pure s.start
      else do
        let offset ← Time.checked (s.start - stop)
        whole (moved s.stop offset)
    pure (start, count)

/-- `values` with its numbers checked -/
def values64 (s : Series) (start interval : Int) (count : Nat) : Rebucketing → Option (List Float)
  | summary _ _ r _ => bucketize64 s start interval count r
  | smartSummary _ _ r _ => bucketize64 s start interval count r
  | hits .. => hits64 s start interval count

/-- `rebucket` with its numbers checked -/
def rebucket64 (k : Rebucketing) (interval : Int) (s : Series) : In64 Series := do
  let (start, count) ← k.place64 interval s
  let values ← k.values64 s start interval count
  let o ← (k.shell s).onGrid64 start interval values
  pure (k.tagged interval o)

theorem read_bind {α β : Type} {x : Except EvalError α} {a : α} (hx : x = .ok a) (f : α → Except EvalError β) :
    (x >>= f) = f a := by
  subst hx
  rfl

/-- a function makes of its series what becomes of each -/
theorem runFrom_evaluate (k : Rebucketing) {interval : Int} {c : Call} (hinterval : intervalOf c = .ok interval)
    (hread : k.ReadFrom c) {ops : Operands} {w inner : Window} {p q : Progress} {series : List Series}
    (hwindow : k.function.window c w = .ok inner) (hseries : (seriesAt ops c 0 inner).runFrom p = (.ok series, q)) :
    (k.function.evaluate ops c w).runFrom p = (series.mapM (k.rebucket interval), q) := by
  cases k with
  | summary text reducerName r alignToFrom =>
    obtain ⟨rfl, hname, hreducer, halign⟩ := hread
    rw [function, summarize, Mapping.runFrom_evaluate _ _ rfl hwindow hseries]
    refine congrArg (·, q) ?_
    refine (read_bind hinterval _).trans ((read_bind hname _).trans ((read_bind hreducer _).trans
      ((read_bind halign _).trans (congrArg (series.mapM ·) (funext fun s => ?_)))))
    cases alignToFrom with
    | true =>
      simp only [rebucket, place, reduceIte, bind_assoc]
      rfl
    | false =>
      simp only [rebucket, place, Bool.false_eq_true, reduceIte, bind_assoc]
      rfl
  | smartSummary text reducerName r alignment =>
    obtain ⟨rfl, hname, hreducer, halign⟩ := hread
    rw [function, smartSummarize, Mapping.runFrom_evaluate _ _ rfl hwindow hseries]
    refine congrArg (·, q) ?_
    refine (read_bind hinterval _).trans ((read_bind hname _).trans ((read_bind hreducer _).trans
      ((read_bind halign _).trans (congrArg (series.mapM ·) (funext fun s => ?_)))))
    simp only [rebucket, place, bind_assoc]
    rfl
  | hits text aligned =>
    obtain ⟨rfl, haligned⟩ := hread
    rw [function, hitcount, Mapping.runFrom_evaluate _ _ rfl hwindow hseries]
    refine congrArg (·, q) ?_
    refine (read_bind hinterval _).trans ((read_bind haligned _).trans (congrArg (series.mapM ·) (funext fun s => ?_)))
    cases aligned with
    | true =>
      simp only [rebucket, place, reduceIte, bind_assoc]
      rfl
    | false =>
      simp only [rebucket, place, Bool.false_eq_true, reduceIte, bind_assoc]
      rfl

/-! ### Grids -/

/-- the numbers that are checked fit in 64 bits -/
def Fits (interval : Int) (s : Series) : Rebucketing → Prop
  | summary _ _ _ alignToFrom => SummaryFits alignToFrom interval s
  | smartSummary .. => GridFits s.start s.stop interval
  | hits _ aligned => HitsFit aligned interval s

/-- where the buckets begin -/
def start (interval : Int) (s : Series) : Rebucketing → Int
  | summary _ _ _ alignToFrom => summaryStart alignToFrom interval s
  | smartSummary .. => s.start
  | hits _ aligned => hitsStart aligned interval s

/-- the least number of buckets, from where they begin on for summaries, and for hits from where the series does -/
def count (interval : Int) (s : Series) : Rebucketing → Nat
  | summary _ _ _ alignToFrom => bucketCount (s.stop - summaryStart alignToFrom interval s) interval
  | smartSummary .. => bucketCount (s.stop - s.start) interval
  | hits .. => bucketCount (s.stop - s.start) interval

theorem okWhere_place (k : Rebucketing) (interval : Int) (s : Series) :
    OkWhere (k.Fits interval s) (· = (k.start interval s, k.count interval s)) (k.place interval s) := by
  cases k with
  | summary text reducerName r alignToFrom =>
    cases alignToFrom with
    | true =>
      refine ((okWhere_grid s.start s.stop interval).last ?_).congr (by simp [Fits, SummaryFits, summaryStart])
      rintro _ rfl
      exact .ok rfl
    | false =>
      refine ((okWhere_moved s.start (-(s.start % interval))).bind
        (GridFits (summaryStart false interval s) s.stop interval) ?_).congr ?_
      · rintro _ rfl
        refine (okWhere_grid _ s.stop interval).last ?_
        rintro _ rfl
        exact .ok rfl
      · simp only [Fits, SummaryFits, true_implies]
        rfl
  | smartSummary text reducerName r alignment =>
    refine (okWhere_grid s.start s.stop interval).last ?_
    rintro _ rfl
    exact .ok rfl
  | hits text aligned =>
    refine (okWhere_grid s.start s.stop interval).bind _ ?_
    rintro _ rfl
    cases aligned with
    | true => exact OkWhere.congr (.ok rfl) (by simp)
    | false =>
      have hstart : s.stop + (s.start - (s.start + bucketCount (s.stop - s.start) interval * interval)) =
          hitsStart false interval s := by
        rw [hitsStart, if_neg (by simp)]
        omega
      refine ((okWhere_moved _ _).last ?_).congr ?_
      · rintro _ rfl
        exact .ok (by rw [hstart]; rfl)
      · rw [hstart]
        simp

/-- the grid is refused, or all numbers on the way to it fit -/
theorem place64_eq (k : Rebucketing) {interval : Int} (hpos : 0 < interval) (hgreatest : interval ≤ Time.greatest)
    (s : Series) : k.place64 interval s = whole (k.place interval s) := by
  cases k with
  | summary text reducerName r alignToFrom =>
    have hgrid : ∀ start, (do
        let (count, _) ← grid64 start s.stop interval
        pure (start, count)) = whole (do
        let (count, _) ← grid start s.stop interval
        .ok (start, count)) := by
      intro start
      rw [grid64_eq hpos]
      exact whole_bind fun g _ => rfl
    cases alignToFrom with
    | true => exact hgrid s.start
    | false =>
      have hnonneg := Int.emod_nonneg s.start hpos.ne'
      have hlt := Int.emod_lt_of_pos s.start hpos
      simp only [place64, place, Bool.false_eq_true, reduceIte]
      rw [some_bind (Time.checked_of_le hgreatest (by omega) (by omega)),
        some_bind (Time.checked_of_le hgreatest (by omega) (by omega))]
      exact whole_bind fun start _ => hgrid start
  | smartSummary text reducerName r alignment =>
    rw [place64, grid64_eq hpos]
    exact whole_bind fun g _ => rfl
  | hits text aligned =>
    rw [place64, grid64_eq hpos]
    refine whole_bind fun g hg => ?_
    cases aligned with
    | true => rfl
    | false =>
      rcases okWhere_grid s.start s.stop interval with ⟨hgrid, g', hg', rfl⟩ | ⟨-, text, hrefused⟩
      · obtain rfl := Except.ok.inj (hg.symm.trans hg')
        have hwidth := (Series.inRange_iff.1 hgrid.width).2
        have hnonneg : 0 ≤ (bucketCount (s.stop - s.start) interval : Int) * interval :=
          Int.mul_nonneg (Int.natCast_nonneg _) hpos.le
        simp only [Bool.false_eq_true, reduceIte]
        rw [some_bind (Time.checked_of_le hwidth (by omega) (by omega))]
        exact whole_bind fun start _ => rfl
      · cases hg.symm.trans hrefused

theorem length_values (k : Rebucketing) {s : Series} {start interval : Int} {count : Nat} (hs : s.Consistent)
    (hcovers : Covers s start interval count) : (k.values s start interval count).length = count := by
  cases k with
  | summary text reducerName r alignToFrom => simp [values, bucketize_eq hcovers.positive]
  | smartSummary text reducerName r alignment => simp [values, bucketize_eq hcovers.positive]
  | hits text aligned => simp [values, hits_eq_map hcovers.positive hs hcovers.start_le hcovers.stop_le]

/-- `o` is on buckets of one width, and all its times fit in 64 bits -/
structure Returned (start interval : Int) (count : Nat) (o : Series) : Prop where
  start_eq : o.start = start
  step_eq : o.step = interval
  length_eq : o.values.length = count
  stop_eq : o.stop = start + count * interval
  fits : o.Fits64
  time : ∀ i < count, o.timestamp i = start + i * interval ∧ Time.inRange (o.timestamp i)

theorem returned_of_covers {s o : Series} {start interval : Int} {count : Nat} (hgreatest : interval ≤ Time.greatest)
    (hcovers : Covers s start interval count) (hstart : o.start = start) (hstep : o.step = interval)
    (hlength : o.values.length = count) (hstop : o.stop = start + o.values.length * interval) :
    Returned start interval count o := by
  have hpos := hcovers.positive
  have hwidth := hcovers.width_fits
  have hstop_le := hcovers.stop_fits
  have hnonneg : 0 ≤ (count : Int) * interval := Int.mul_nonneg (Int.natCast_nonneg count) hpos.le
  have hleast := (Series.inRange_iff.1 hcovers.start_fits).1
  rw [hlength] at hstop
  refine ⟨hstart, hstep, hlength, hstop, ⟨hstart ▸ hcovers.start_fits, ?_, ?_, ?_⟩, fun i hi => ?_⟩
  · exact Series.inRange_iff.2 (by omega)
  · exact hstep ▸ Series.inRange_iff.2 ⟨Series.least_le_of_nonneg hpos.le, hgreatest⟩
  · rw [hstop, hstart, add_sub_cancel_left]
    exact Series.inRange_iff.2 ⟨Series.least_le_of_nonneg hnonneg, hwidth⟩
  · have hbefore : (i : Int) * interval ≤ count * interval := Int.mul_le_mul_of_nonneg_right (by omega) hpos.le
    have hbehind : 0 ≤ (i : Int) * interval := Int.mul_nonneg (Int.natCast_nonneg i) hpos.le
    rw [Series.timestamp, hstart, hstep]
    exact ⟨rfl, Series.inRange_iff.2 (by omega)⟩

section Range

variable {interval : Int} (hpos : 0 < interval) {s : Series} (hfits : s.Fits64)
include hpos hfits

/-- a grid that was not refused covers the series -/
theorem covers (k : Rebucketing) (hk : k.Fits interval s) :
    Covers s (k.start interval s) interval (k.count interval s) := by
  have hcovers : ∀ width, width ≤ bucketCount width interval * interval := fun width =>
    (bucketCount_le_iff hpos width (bucketCount width interval)).1 le_rfl
  cases k with
  | summary text reducerName r alignToFrom =>
    obtain ⟨hstart, hgrid⟩ := hk
    have hcovers := hcovers (s.stop - summaryStart alignToFrom interval s)
    refine ⟨hpos, summaryStart_le hpos alignToFrom s, ?_, ?_, (Series.inRange_iff.1 hgrid.width).2,
      (Series.inRange_iff.1 hgrid.stop).2⟩
    · simp only [start, count]
      omega
    · cases alignToFrom with
      | true => exact hfits.start
      | false => exact hstart rfl
  | smartSummary text reducerName r alignment =>
    have hcovers := hcovers (s.stop - s.start)
    refine ⟨hpos, le_rfl, ?_, hfits.start, (Series.inRange_iff.1 hk.width).2, (Series.inRange_iff.1 hk.stop).2⟩
    simp only [start, count]
    omega
  | hits text aligned =>
    obtain ⟨hgrid, hstart⟩ := hk
    have hcovers := hcovers (s.stop - s.start)
    cases aligned with
    | true =>
      refine ⟨hpos, le_rfl, ?_, hfits.start, (Series.inRange_iff.1 hgrid.width).2, (Series.inRange_iff.1 hgrid.stop).2⟩
      simp only [start, count, hitsStart, if_true]
      omega
    | false =>
      have hends : hitsStart false interval s + bucketCount (s.stop - s.start) interval * interval = s.stop := by
        rw [hitsStart, if_neg (by simp), Int.sub_add_cancel]
      refine ⟨hpos, ?_, hends.ge, hstart rfl, (Series.inRange_iff.1 hgrid.width).2, ?_⟩
      · simp only [start, hitsStart, Bool.false_eq_true, if_false]
        omega
      · exact hends.le.trans (Series.inRange_iff.1 hfits.stop).2

variable (hgreatest : interval ≤ Time.greatest) (hs : s.Consistent)
include hgreatest hs

theorem values64_eq (k : Rebucketing) (hk : k.Fits interval s) :
    k.values64 s (k.start interval s) interval (k.count interval s) =
      some (k.values s (k.start interval s) interval (k.count interval s)) := by
  have hcovers := covers hpos hfits k hk
  cases k with
  | summary text reducerName r alignToFrom => exact bucketize64_eq hs hcovers hfits r
  | smartSummary text reducerName r alignment => exact bucketize64_eq hs hcovers hfits r
  | hits text aligned => exact hits64_eq hs hcovers hgreatest hfits

/-- **Every number on the way fits in 64 bits** but where the grid is refused. -/
theorem rebucket64_eq (k : Rebucketing) : k.rebucket64 interval s = whole (k.rebucket interval s) := by
  unfold rebucket64 rebucket
  rw [place64_eq k hpos hgreatest]
  refine whole_bind fun g hg => ?_
  rcases okWhere_place k interval s with ⟨hk, g', hg', rfl⟩ | ⟨-, text, hrefused⟩
  · obtain rfl := Except.ok.inj (hg.symm.trans hg')
    have hcovers := covers hpos hfits k hk
    have hlength := k.length_values hs hcovers
    dsimp only
    rw [some_bind (values64_eq hpos hfits hgreatest hs k hk),
      some_bind (Series.onGrid64_eq ?_ hpos hcovers.start_fits ?_ ?_)]
    · rfl
    · exact (k.step_shell s).symm ▸ hs.1
    · rw [hlength]
      exact hcovers.width_fits
    · rw [hlength]
      exact hcovers.stop_fits
  · cases hg.symm.trans hrefused

theorem okWhere_rebucket (k : Rebucketing) :
    OkWhere (k.Fits interval s) (Returned (k.start interval s) interval (k.count interval s)) (k.rebucket interval s) := by
  rcases k.okWhere_place interval s with ⟨hk, g, hg, rfl⟩ | ⟨hk, text, hrefused⟩
  · have hcovers := covers hpos hfits k hk
    have hlength := k.length_values hs hcovers
    obtain ⟨hstart, hstop, hstep, hvalues⟩ := k.tagged_grid interval
      ((k.shell s).onGrid (k.start interval s) interval
        (k.values s (k.start interval s) interval (k.count interval s)))
    refine Or.inl ⟨hk, _, by rw [rebucket, read_bind hg], ?_⟩
    refine returned_of_covers hgreatest hcovers hstart hstep (hvalues ▸ hlength) ?_
    rw [hstop, hvalues]
    rfl
  · refine Or.inr ⟨hk, text, ?_⟩
    rw [rebucket, hrefused]
    rfl

end Range

/-- **Rebucketing is exact in 64 bits.** Over a series that lies on its grid and fits in 64 bits with the time that it
covers, and for every positive interval that fits and every option, no number on the way to a summary or to hit counts is
out of range, other than those that are checked and for which the interval is refused; and where none is refused, the
series returned begins and ends with its buckets, at times that fit like those of all its samples. A function makes of
its series what becomes of each. -/
theorem rebucketing_in64 (k : Rebucketing) {interval : Int} (hpos : 0 < interval) (hgreatest : interval ≤ Time.greatest) :
    (∀ s : Series, s.Consistent → s.Fits64 →
      k.rebucket64 interval s = whole (k.rebucket interval s) ∧
        OkWhere (k.Fits interval s) (Returned (k.start interval s) interval (k.count interval s))
          (k.rebucket interval s)) ∧
    ∀ (c : Call) (ops : Operands) (w inner : Window) (p q : Progress) (series : List Series),
      intervalOf c = .ok interval → k.ReadFrom c → k.function.window c w = .ok inner →
        (seriesAt ops c 0 inner).runFrom p = (.ok series, q) →
          (k.function.evaluate ops c w).runFrom p = (series.mapM (k.rebucket interval), q) :=
  ⟨fun _ hs hfits => ⟨rebucket64_eq hpos hfits hgreatest hs k, okWhere_rebucket hpos hfits hgreatest hs k⟩,
    fun _ _ _ _ _ _ _ hinterval hread hwindow hseries => k.runFrom_evaluate hinterval hread hwindow hseries⟩

/-- hits in buckets of twenty-five seconds: those of a series near the least time of all begin before it, and those of one
near the greatest would end behind it -/
theorem rebucketing_in64_hits :
    let k : Rebucketing := .hits "25s" false
    let c : Call := ⟨"hitcount", [.name "m", .string "25s" .single], [], "m,'25s'"⟩
    let s := Series.ofSamples "m" [1, 2, 3] 10 (Time.least + 20)
    let s' := Series.ofSamples "m" [1, 2, 3] 10 (Time.greatest - 35)
    let ops (s : Series) : Operands := { args := [fun _ => pure [s]], named := [], fetch := fun _ _ => pure () }
    s.Consistent ∧ s.Fits64 ∧ s'.Consistent ∧ s'.Fits64 ∧ intervalOf c = .ok 25 ∧ k.ReadFrom c ∧
      (∃ o, k.rebucket64 25 s = whole (.ok o) ∧ ((hitcount.evaluate (ops s) c ⟨0, 100⟩).runFrom {}).1 = .ok [o] ∧
        o.start = Time.least ∧ o.stop = Time.least + 50 ∧ o.Fits64) ∧
      ∃ text, k.rebucket64 25 s' = whole (.error (.invalidInterval text)) ∧
        ((hitcount.evaluate (ops s') c ⟨0, 100⟩).runFrom {}).1 = .error (.invalidInterval text) := by
  intro k c s s' ops
  have hs : s.Consistent := by decide
  have hs' : s'.Consistent := by decide
  have hfits : s.Fits64 := ⟨by decide, by decide, by decide, by decide⟩
  have hfits' : s'.Fits64 := ⟨by decide, by decide, by decide, by decide⟩
  have hinterval : intervalOf c = .ok 25 := by cbv
  have hread : k.ReadFrom c := ⟨by cbv, by cbv⟩
  have hwindow : k.function.window c ⟨0, 100⟩ = .ok ⟨0, 100⟩ := by cbv
  obtain ⟨hexact, hevaluate⟩ := rebucketing_in64 k (show 0 < (25 : Int) by decide) (by decide)
  have hrun : ∀ s, ((hitcount.evaluate (ops s) c ⟨0, 100⟩).runFrom {}).1 = [s].mapM (k.rebucket 25) := fun s =>
    congrArg Prod.fst (hevaluate c (ops s) ⟨0, 100⟩ ⟨0, 100⟩ {} {} [s] hinterval hread hwindow rfl)
  obtain ⟨hchecked, hokWhere⟩ := hexact s hs hfits
  obtain ⟨hchecked', hokWhere'⟩ := hexact s' hs' hfits'
  obtain ⟨o, ho, hreturned⟩ := hokWhere.value ⟨⟨by decide, by decide, by decide⟩, fun _ => by decide⟩
  have hunfit : ¬ k.Fits 25 s' := fun h => absurd h.1.stop (by decide)
  obtain ⟨text, hrefused⟩ := (hokWhere'.resolve_left fun h => hunfit h.1).2
  refine ⟨hs, hfits, hs', hfits', hinterval, hread, ⟨o, ?_, ?_, ?_, ?_, hreturned.fits⟩, text, ?_, ?_⟩
  · rw [hchecked, ho]
  · rw [hrun, List.mapM_cons, ho]
    rfl
  · rw [hreturned.start_eq]
    decide
  · rw [hreturned.stop_eq]
    decide
  · rw [hchecked', hrefused]
  · rw [hrun, List.mapM_cons, hrefused]
    rfl

end Rebucketing

end Builtin

end MetricQuery
