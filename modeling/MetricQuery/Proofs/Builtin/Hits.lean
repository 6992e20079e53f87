/-
Hits spread over buckets of time.

`hitcount` takes a sample for a rate that holds from its time to the next one, and gives each bucket the value times the
seconds that it has in common with that stretch of time (`shared`). Which buckets a sample reaches, and with how many
seconds, comes from where its ends lie on the grid; a first, a last and the buckets between are added one after the
other, and the last one may have been moved back. `mem_shares_iff` says that these are the buckets with a second in
common and no others. No second is lost or counted twice, since what adjacent windows share adds up (`shared_add`).

The sums are sums of floats, in which order matters: those of a bucket come in the order of the samples. One sample
changes the total of each bucket it reaches once (`getElem?_addSample`), and all samples one after the other leave what
`hitsIn` tells of each bucket by itself (`hits_eq_map`).
-/
import MetricQuery.Proofs.Builtin.Rebucketing

namespace MetricQuery

open Time (Window)

/-! ## Seconds in common -/

/-- whole seconds that two windows have in common -/
def shared (a b : Window) : Int :=
  max 0 (min a.stop b.stop - max a.start b.start)

theorem shared_add (w : Window) {a b c : Int} (hab : a ≤ b) (hbc : b ≤ c) :
    shared w ⟨a, b⟩ + shared w ⟨b, c⟩ = shared w ⟨a, c⟩ := by
  unfold shared
  dsimp only
  omega

theorem shared_of_within {w w' : Window} (hvoid : w.start ≤ w.stop) (hstart : w'.start ≤ w.start)
    (hstop : w.stop ≤ w'.stop) : shared w w' = w.stop - w.start := by
  unfold shared
  omega

/-- what a window has in common with each bucket is together what it has in common with all of them -/
theorem sum_shared {interval : Int} (hpos : 0 < interval) (w : Window) (start : Int) (n : Nat) :
    ((List.range n).map fun k => shared w (Series.span interval start k)).sum =
      shared w ⟨start, start + n * interval⟩ := by
  induction n with
  | zero =>
    have hvoid : shared w ⟨start, start + (0 : Nat) * interval⟩ = 0 := by
      unfold shared
      dsimp only
      omega
    rw [hvoid]
    rfl
  | succ n ih =>
    have hbehind : 0 ≤ (n : Int) * interval := Int.mul_nonneg (Int.natCast_nonneg n) hpos.le
    have hnext : ((n : Int) + 1) * interval = n * interval + interval := by ring
    rw [List.range_succ, List.map_append, List.sum_append, ih, List.map_singleton, List.sum_singleton, Series.span,
      shared_add w (by omega) (by omega), Nat.cast_succ]

namespace Series

/-- what one sample adds to a window: its value for each second that they have in common -/
def contribution (s : Series) (w : Window) (p : Int × Float) : Option Float :=
  let seconds := shared ⟨p.1, p.1 + s.step⟩ w
  if p.2.isNaN ∨ seconds ≤ 0 then none else some (p.2 * Float.ofInt seconds)

/-- the hits in a window, added up from zero in the order of the samples; missing where no sample reaches it -/
def hitsIn (s : Series) (w : Window) : Float :=
  match s.samples.filterMap (s.contribution w) with
  | [] => Decimal.nan
  | hits => hits.foldl (· + ·) 0.0

end Series

namespace Builtin

open Target (Call)
open Series (span)

/-! ## Shares of one sample -/

/-- seconds of a window in the bucket at an index, which may lie before the first -/
def secondsIn (w : Window) (start interval k : Int) : Int :=
  shared w ⟨start + k * interval, start + (k + 1) * interval⟩

theorem mul_add_le_mul {interval j k : Int} (hpos : 0 < interval) (h : j < k) :
    j * interval + interval ≤ k * interval := by
  have hmul := Int.mul_le_mul_of_nonneg_right (Int.add_one_le_of_lt h) hpos.le
  rwa [Int.add_mul, Int.one_mul] at hmul

theorem nonneg_of_secondsIn {w : Window} {start interval k : Int} (hpos : 0 < interval) (hstart : start ≤ w.start)
    (hseconds : 0 < secondsIn w start interval k) : 0 ≤ k := by
  by_contra hneg
  have hbefore := mul_add_le_mul hpos (not_le.1 hneg)
  rw [Int.zero_mul] at hbefore
  unfold secondsIn shared at hseconds
  rw [Int.add_mul, Int.one_mul] at hseconds
  dsimp only at hseconds
  omega

theorem mem_between_iff {first final interval k seconds : Int} :
    (k, seconds) ∈ ((List.range (final - first - 1).toNat).map fun (j : Nat) => (first + 1 + (j : Int), interval)) ↔
      first < k ∧ k < final ∧ seconds = interval := by
  simp only [List.mem_map, List.mem_range, Prod.mk.injEq]
  constructor
  · rintro ⟨j, hj, rfl, rfl⟩
    omega
  · rintro ⟨hk, hk', rfl⟩
    exact ⟨(k - first - 1).toNat, by omega, by omega, rfl⟩

theorem mem_final_iff {final within k seconds : Int} :
    (k, seconds) ∈ (if 0 < within then [(final, within)] else []) ↔ 0 < within ∧ k = final ∧ seconds = within := by
  split
  · simp [*]
  · simp [*]

section Shares

variable {start interval last t stop : Int} (hpos : 0 < interval) (hsome : t < stop)
  (hlast : stop ≤ start + (last + 1) * interval)
include hpos hsome hlast

/-- a sample ends in its last bucket or with it, also where that bucket was moved back -/
theorem shares_ends :
    ∃ final within, stop = start + final * interval + within ∧ 0 ≤ within ∧ within ≤ interval ∧
      (t - start) / interval ≤ final ∧
      (if last < (stop - start) / interval then (last, interval)
        else ((stop - start) / interval, (stop - start) % interval)) = (final, within) := by
  have hdiv := Int.mul_ediv_add_emod (stop - start) interval
  rw [Int.mul_comm] at hdiv
  have hmod := Int.emod_nonneg (stop - start) hpos.ne'
  have hmod' := Int.emod_lt_of_pos (stop - start) hpos
  have hle : (t - start) / interval ≤ (stop - start) / interval := Int.ediv_le_ediv hpos (by omega)
  by_cases hbeyond : last < (stop - start) / interval
  · have hfull : (last + 1) * interval ≤ stop - start := (Int.le_ediv_iff_mul_le hpos).1 hbeyond
    have hbelow : (t - start) / interval < last + 1 := (Int.ediv_lt_iff_lt_mul hpos).2 (by omega)
    have hnext : (last + 1) * interval = last * interval + interval := by ring
    exact ⟨last, interval, by omega, hpos.le, le_rfl, by omega, if_pos hbeyond⟩
  · exact ⟨_, _, by omega, hmod, hmod'.le, hle, if_neg hbeyond⟩

/-- **The shares of a sample** are the buckets that it has seconds in common with, each with their number. -/
theorem mem_shares_iff (k seconds : Int) :
    (k, seconds) ∈ shares start interval last t stop ↔
      0 < seconds ∧ seconds = secondsIn ⟨t, stop⟩ start interval k := by
  obtain ⟨final, within, hstop, hwithin, hwithin', hle, hends⟩ := shares_ends hpos hsome hlast
  have hdiv := Int.mul_ediv_add_emod (t - start) interval
  rw [Int.mul_comm] at hdiv
  have hmod := Int.emod_nonneg (t - start) hpos.ne'
  have hmod' := Int.emod_lt_of_pos (t - start) hpos
  unfold shares secondsIn shared
  rw [hends, Int.add_mul k, Int.one_mul]
  dsimp only
  generalize (t - start) / interval = first at *
  generalize (t - start) % interval = before at *
  -- a bucket lies before the first, after the last, or it is one of them or between them
  rcases eq_or_ne first final with rfl | hne
  · rw [if_pos rfl, List.mem_singleton, Prod.mk.injEq]
    rcases lt_trichotomy k first with hk | rfl | hk
    · have := mul_add_le_mul hpos hk
      omega
    · omega
    · have := mul_add_le_mul hpos hk
      omega
  · rw [if_neg hne, List.cons_append, List.mem_cons, List.mem_append, mem_between_iff, mem_final_iff, Prod.mk.injEq]
    have hfirst := mul_add_le_mul hpos (lt_of_le_of_ne hle hne)
    rcases lt_trichotomy k first with hk | rfl | hk
    · have := mul_add_le_mul hpos hk
      omega
    · omega
    · have hbehind := mul_add_le_mul hpos hk
      rcases lt_trichotomy k final with hk' | rfl | hk'
      · have := mul_add_le_mul hpos hk'
        omega
      · omega
      · have := mul_add_le_mul hpos hk'
        omega

theorem mem_keys_shares_iff (k : Int) :
    k ∈ (shares start interval last t stop).map Prod.fst ↔ 0 < secondsIn ⟨t, stop⟩ start interval k := by
  rw [List.mem_map]
  constructor
  · rintro ⟨⟨_, seconds⟩, hmem, rfl⟩
    obtain ⟨hseconds, heq⟩ := (mem_shares_iff hpos hsome hlast _ _).1 hmem
    exact heq ▸ hseconds
  · intro hseconds
    exact ⟨(k, _), (mem_shares_iff hpos hsome hlast k _).2 ⟨hseconds, rfl⟩, rfl⟩

/-- the shares of a sample come bucket after bucket -/
theorem pairwise_shares : (shares start interval last t stop).Pairwise fun p q => p.1 < q.1 := by
  obtain ⟨final, within, -, -, -, hle, hends⟩ := shares_ends hpos hsome hlast
  unfold shares
  rw [hends]
  dsimp only
  generalize (t - start) / interval = first at *
  rcases eq_or_ne first final with rfl | hne
  · rw [if_pos rfl]
    exact List.pairwise_singleton _ _
  · rw [if_neg hne, List.cons_append, List.pairwise_cons, List.pairwise_append, List.pairwise_map]
    refine ⟨fun q hq => ?_, List.pairwise_lt_range.imp fun hab => by dsimp only; omega, ?_, ?_⟩
    · rcases List.mem_append.1 hq with hq | hq
      · exact (mem_between_iff.1 hq).1
      · exact (mem_final_iff.1 hq).2.1 ▸ lt_of_le_of_ne hle hne
    · split
      · exact List.pairwise_singleton _ _
      · exact List.Pairwise.nil
    · intro p hp q hq
      exact (mem_final_iff.1 hq).2.1 ▸ (mem_between_iff.1 hp).2.1

end Shares

/-! ## Totals of buckets -/

/-- some hits more, from zero on -/
def more (total : Option Float) (hits : Float) : Option Float :=
  some (total.getD 0.0 + hits)

theorem getElem?_addHits (totals : List (Option Float)) {index : Int} (hindex : 0 ≤ index) (hits : Float) (k : Nat) :
    (addHits totals index hits)[k]? =
      totals[k]?.map fun total => if (k : Int) = index then more total hits else total := by
  obtain ⟨i, rfl⟩ := Int.eq_ofNat_of_zero_le hindex
  unfold addHits
  rw [if_neg (by omega), Int.toNat_natCast, List.getElem?_modify]
  by_cases hk : i = k
  · subst hk
    simp [more]
  · have hk' : (k : Int) ≠ i := by omega
    simp [hk, hk']

/-- hits added in buckets that are all different go once into each of them -/
theorem getElem?_foldl_addHits (v : Float) (weight : Int → Int) (k : Nat) {weights : List (Int × Int)}
    (hweight : ∀ p ∈ weights, 0 ≤ p.1 ∧ p.2 = weight p.1) (hkeys : (weights.map Prod.fst).Nodup)
    (totals : List (Option Float)) :
    (weights.foldl (fun totals (index, w) => addHits totals index (v * Float.ofInt w)) totals)[k]? =
      totals[k]?.map fun total =>
        if (k : Int) ∈ weights.map Prod.fst then more total (v * Float.ofInt (weight k)) else total := by
  induction weights generalizing totals with
  | nil => simp
  | cons p weights ih =>
    obtain ⟨hindex, hp⟩ := hweight p List.mem_cons_self
    obtain ⟨hnot, hkeys⟩ := List.nodup_cons.1 hkeys
    rw [List.foldl_cons, ih (fun q hq => hweight q (List.mem_cons_of_mem _ hq)) hkeys, getElem?_addHits _ hindex,
      Option.map_map, hp]
    congr 1
    funext total
    rw [Function.comp_apply, List.map_cons]
    by_cases hk : (k : Int) = p.1
    · rw [← hk] at hnot ⊢
      simp [hnot]
    · rw [if_neg hk]
      exact (if_congr (List.mem_cons.trans (or_iff_right hk)) rfl rfl).symm

/-! ## All samples -/

/-- the totals after one more sample -/
def addSample (s : Series) (start interval : Int) (count : Nat) (totals : List (Option Float)) (p : Int × Float) :
    List (Option Float) :=
  if p.2.isNaN then totals
  else (shares start interval ((count : Int) - 1) p.1 (p.1 + s.step)).foldl
    (fun totals (index, weight) => addHits totals index (p.2 * Float.ofInt weight)) totals

theorem hits_eq (s : Series) (start interval : Int) (count : Nat) :
    hits s start interval count = (s.samples.foldl (addSample s start interval count) (List.replicate count none)).map
      fun total => total.getD Decimal.nan := rfl

section Totals

variable {s : Series} {start interval : Int} {count : Nat} (hpos : 0 < interval) (hstep : 0 < s.step)
include hpos hstep

/-- **One sample** adds its contribution to each bucket once, and to none twice. -/
theorem getElem?_addSample {p : Int × Float} (hstart : start ≤ p.1) (hstop : p.1 + s.step ≤ start + count * interval)
    (totals : List (Option Float)) (k : Nat) :
    (addSample s start interval count totals p)[k]? = totals[k]?.map fun total =>
      match s.contribution (span interval start k) p with
      | none => total
      | some hits => more total hits := by
  unfold addSample Series.contribution
  by_cases hnan : p.2.isNaN
  · rw [if_pos hnan, if_pos (Or.inl hnan)]
    simp
  · have hsome : p.1 < p.1 + s.step := Int.lt_add_of_pos_right p.1 hstep
    have hlast : p.1 + s.step ≤ start + (((count : Int) - 1) + 1) * interval := by rwa [Int.sub_add_cancel]
    have hreached := mem_keys_shares_iff hpos hsome hlast k
    have hkeys := List.pairwise_map.2 ((pairwise_shares hpos hsome hlast).imp fun h => h.ne)
    have hweight : ∀ q ∈ shares start interval ((count : Int) - 1) p.1 (p.1 + s.step),
        0 ≤ q.1 ∧ q.2 = secondsIn ⟨p.1, p.1 + s.step⟩ start interval q.1 := by
      intro q hq
      obtain ⟨hseconds, heq⟩ := (mem_shares_iff hpos hsome hlast q.1 q.2).1 hq
      exact ⟨nonneg_of_secondsIn hpos hstart (heq ▸ hseconds), heq⟩
    rw [if_neg hnan, getElem?_foldl_addHits p.2 _ k hweight hkeys]
    congr 1
    funext total
    show _ = match if p.2.isNaN ∨ secondsIn ⟨p.1, p.1 + s.step⟩ start interval k ≤ 0 then none else some _ with
      | none => total
      | some hits => more total hits
    by_cases hseconds : 0 < secondsIn ⟨p.1, p.1 + s.step⟩ start interval k
    · rw [if_pos (hreached.2 hseconds), if_neg (not_or.2 ⟨hnan, not_le.2 hseconds⟩)]
      rfl
    · rw [if_neg (mt hreached.1 hseconds), if_pos (Or.inr (not_lt.1 hseconds))]

/-- **All samples**, one after the other, add to each bucket what they contribute to it, in their order. -/
theorem getElem?_addSamples {samples : List (Int × Float)}
    (hwithin : ∀ p ∈ samples, start ≤ p.1 ∧ p.1 + s.step ≤ start + count * interval) (totals : List (Option Float))
    (k : Nat) :
    (samples.foldl (addSample s start interval count) totals)[k]? = totals[k]?.map fun total =>
      (samples.filterMap (s.contribution (span interval start k))).foldl more total := by
  induction samples generalizing totals with
  | nil => simp
  | cons p samples ih =>
    obtain ⟨hstart, hstop⟩ := hwithin p List.mem_cons_self
    rw [List.foldl_cons, ih fun q hq => hwithin q (List.mem_cons_of_mem _ hq),
      getElem?_addSample hpos hstep hstart hstop, Option.map_map]
    congr 1
    funext total
    rw [Function.comp_apply, List.filterMap_cons]
    cases s.contribution (span interval start k) p with
    | none => rfl
    | some hits => rfl

end Totals

theorem foldl_more (a : Float) (hits : List Float) : hits.foldl more (some a) = some (hits.foldl (· + ·) a) := by
  induction hits generalizing a with
  | nil => rfl
  | cons x hits ih => exact ih (a + x)

theorem getD_foldl_more (hits : List Float) :
    (hits.foldl more none).getD Decimal.nan = match hits with
      | [] => Decimal.nan
      | hits => hits.foldl (· + ·) 0.0 := by
  cases hits with
  | nil => rfl
  | cons x hits =>
    rw [List.foldl_cons, more, foldl_more]
    rfl

/-- **The hits of a bucket** are told by the samples that reach into it. -/
theorem hits_eq_map {s : Series} {start interval : Int} {count : Nat} (hpos : 0 < interval) (hs : s.Consistent)
    (hstart : start ≤ s.start) (hstop : s.stop ≤ start + count * interval) :
    hits s start interval count = (List.range count).map fun k => s.hitsIn (span interval start k) := by
  have hwithin : ∀ p ∈ s.samples, start ≤ p.1 ∧ p.1 + s.step ≤ start + count * interval := by
    intro p hp
    obtain ⟨hfirst, hlast⟩ := hs.sample_within hp
    omega
  refine List.ext_getElem? fun k => ?_
  rw [hits_eq, List.getElem?_map, getElem?_addSamples hpos hs.1 hwithin, List.getElem?_map, List.getElem?_replicate]
  by_cases hk : k < count
  · rw [if_pos hk, List.getElem?_range hk, Option.map_some, Option.map_some, Option.map_some, getD_foldl_more]
    rfl
  · rw [if_neg hk, List.getElem?_eq_none (by rw [List.length_range]; omega)]
    rfl

/-! ## Hit counts -/

/-- `o` holds the hits of `s` in the least number of buckets of one width that covers it, aligned to its start or end -/
structure Spread (interval : Int) (aligned : Bool) (s o : Series) : Prop where
  step_eq : o.step = interval
  stop_eq : o.stop = o.start + o.values.length * interval
  least : ∀ n : Nat, o.values.length ≤ n ↔ s.stop - s.start ≤ n * interval
  start_le : o.start ≤ s.start
  stop_le : s.stop ≤ o.stop
  start_eq : aligned = true → o.start = s.start
  end_eq : aligned = false → o.stop = s.stop
  value : ∀ k < o.values.length, o.values[k]? = some (s.hitsIn (span interval o.start k))
  whole : ∀ p ∈ s.samples,
    ((List.range o.values.length).map fun k => shared ⟨p.1, p.1 + s.step⟩ (span interval o.start k)).sum = s.step

/-- where the buckets of hits begin: with the series, or so that the last one ends with it -/
def hitsStart (aligned : Bool) (interval : Int) (s : Series) : Int :=
  if aligned then s.start else s.stop - bucketCount (s.stop - s.start) interval * interval

/-- the numbers of the hit counts of a series fit in 64 bits -/
def HitsFit (aligned : Bool) (interval : Int) (s : Series) : Prop :=
  GridFits s.start s.stop interval ∧ (aligned = false → Time.inRange (hitsStart aligned interval s))

/-- **Hits are spread by overlap** over buckets that cover the series, and no second of a sample is lost. -/
theorem spread_hits {s o : Series} {interval : Int} {aligned : Bool} (hs : s.Consistent) (hpos : 0 < interval)
    (ho : o.values = hits s (hitsStart aligned interval s) interval (bucketCount (s.stop - s.start) interval))
    (hostep : o.step = interval) (hostart : o.start = hitsStart aligned interval s)
    (hostop : o.stop = o.start + o.values.length * interval) : Spread interval aligned s o := by
  have hcovers := (bucketCount_le_iff hpos (s.stop - s.start) (bucketCount (s.stop - s.start) interval)).1 le_rfl
  have hends : hitsStart aligned interval s ≤ s.start ∧
      s.stop ≤ hitsStart aligned interval s + bucketCount (s.stop - s.start) interval * interval := by
    unfold hitsStart
    split
    · omega
    · omega
  obtain ⟨hstart, hstop⟩ := hends
  rw [hits_eq_map hpos hs hstart hstop, ← hostart] at ho
  have hlength : o.values.length = bucketCount (s.stop - s.start) interval := by
    rw [ho, List.length_map, List.length_range]
  rw [← hostart] at hstart hstop
  rw [← hlength] at hstop
  refine ⟨hostep, hostop, fun n => ?_, hstart, hostop ▸ hstop, fun h => ?_, fun h => ?_, fun k hk => ?_, fun p hp => ?_⟩
  · rw [hlength, bucketCount_le_iff hpos]
  · rw [hostart, hitsStart, if_pos h]
  · rw [hostop, hlength, hostart, hitsStart, if_neg (by simp [h]), Int.sub_add_cancel]
  · rw [hlength] at hk
    rw [ho, List.getElem?_map, List.getElem?_range hk, Option.map_some]
  · obtain ⟨hfirst, hlast⟩ := hs.sample_within hp
    have hstep := hs.1
    rw [sum_shared hpos, shared_of_within (by dsimp only; omega) (by dsimp only; omega) (by dsimp only; omega)]
    dsimp only
    omega

/-- **Hit counts spread samples by exact overlap.** Over series that lie on their grids, `hitcount` returns each series
on the interval, in the least number of buckets that covers it; when aligned they begin with the series, and otherwise
end with it. Unless a number does not fit in 64 bits, a bucket has the sum, in the order of the samples, of the values
that are present times the seconds that sample and bucket have in common, or is missing where there are none; and the
seconds of a sample are its whole step. -/
theorem hitcount_overlaps {c : Call} {interval : Int} {aligned : Bool} (hinterval : intervalOf c = .ok interval)
    (haligned : hitcountAligned c = .ok aligned) {series : List Series} (hs : ∀ s ∈ series, s.Consistent)
    (ops : Operands) {w inner : Window} (hwindow : hitcount.window c w = .ok inner) {p q : Progress}
    (hseries : (seriesAt ops c 0 inner).runFrom p = (.ok series, q)) :
    OkWhere (∀ s ∈ series, HitsFit aligned interval s) (List.Forall₂ (Spread interval aligned) series)
      ((hitcount.evaluate ops c w).runFrom p).1 := by
  have hpos : 0 < interval := intervalOf_pos c interval hinterval
  rw [hitcount, Mapping.runFrom_evaluate _ _ rfl hwindow hseries]
  refine .read hinterval (.read haligned (.mapM fun s hmem => ?_))
  refine (okWhere_grid s.start s.stop interval).bind _ ?_
  rintro _ rfl
  cases aligned with
  | true => exact OkWhere.congr (.ok (spread_hits (hs s hmem) hpos rfl rfl rfl rfl)) (by simp)
  | false =>
    have hstart : s.stop + (s.start - (s.start + bucketCount (s.stop - s.start) interval * interval)) =
        hitsStart false interval s := by
      rw [hitsStart, if_neg (by simp)]
      omega
    refine ((okWhere_moved _ _).last ?_).congr ?_
    · rintro _ rfl
      rw [hstart]
      exact .ok (spread_hits (hs s hmem) hpos rfl rfl rfl rfl)
    · rw [hstart]
      simp

/-- three samples of ten seconds each, the second one missing, in buckets of twenty-five that end with the last -/
theorem hitcount_overlaps_fifty :
    let c : Call := ⟨"hitcount", [.name "m", .string "25s" .single], [], "m,'25s'"⟩
    let s := Series.ofSamples "m" [1, Decimal.nan, 2] 10 5
    let ops : Operands := { args := [fun _ => pure [s]], named := [], fetch := fun _ _ => pure () }
    s.Consistent ∧ intervalOf c = .ok 25 ∧ hitcountAligned c = .ok false ∧
      ∃ o, ((hitcount.evaluate ops c ⟨0, 100⟩).runFrom {}).1 = .ok [o] ∧ o.start = -15 ∧ o.values.length = 2 ∧
        o.values[0]? = some (0.0 + 1 * Float.ofInt 5) ∧
        o.values[1]? = some (0.0 + 1 * Float.ofInt 5 + 2 * Float.ofInt 10) := by
  intro c s ops
  have hs : ∀ s' ∈ [s], s'.Consistent := by decide
  have hinterval : intervalOf c = .ok 25 := by cbv
  have haligned : hitcountAligned c = .ok false := by cbv
  have hseries : (seriesAt ops c 0 ⟨0, 100⟩).runFrom {} = (.ok [s], {}) := rfl
  have hfit : ∀ s' ∈ [s], HitsFit false 25 s' :=
    List.forall_mem_singleton.2 ⟨⟨by decide, by decide, by decide⟩, fun _ => by decide⟩
  obtain ⟨outs, hrun, hall⟩ := (hitcount_overlaps hinterval haligned hs ops (w := ⟨0, 100⟩) (by cbv) hseries).value hfit
  obtain ⟨o, rest, ho, hrest, rfl⟩ := List.forall₂_cons_left_iff.1 hall
  rw [List.forall₂_nil_left_iff.1 hrest] at hrun
  have hfirst : s.samples.filterMap (s.contribution ⟨-15, 10⟩) = [1 * Float.ofInt 5] := by decide +kernel
  have hsecond : s.samples.filterMap (s.contribution ⟨10, 35⟩) = [1 * Float.ofInt 5, 2 * Float.ofInt 10] := by
    decide +kernel
  have hlength : o.values.length = 2 :=
    le_antisymm ((ho.least 2).2 (by decide)) (not_lt.1 fun h => absurd ((ho.least 1).1 (by omega)) (by decide))
  have hstart : o.start = -15 := by
    have hstop : o.stop = 35 := ho.end_eq rfl
    have hgrid := ho.stop_eq
    rw [hlength] at hgrid
    omega
  have hvalue := ho.value 0 (by omega)
  have hvalue' := ho.value 1 (by omega)
  rw [hstart, show span 25 (-15) 0 = ⟨-15, 10⟩ from rfl, Series.hitsIn, hfirst] at hvalue
  rw [hstart, show span 25 (-15) 1 = ⟨10, 35⟩ from rfl, Series.hitsIn, hsecond] at hvalue'
  exact ⟨hs s (by simp), hinterval, haligned, o, hrun, hstart, hlength, hvalue, hvalue'⟩

end Builtin

end MetricQuery
