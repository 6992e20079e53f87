/-
Series that lie on their grid.

The start, step, samples and stop of a series are four fields, and functions rewrite them one at a time. `Sound` says
that they agree, that the step is positive and that the series has a metric path. A copy with other samples, another
start or another grid is sound again, and so are series brought onto one grid, combined, or drawn with fewer points.
-/
import Mathlib
import MetricQuery.Series.Consolidate

namespace MetricQuery

/-! ## Tags -/

namespace Tags

/-- whether there is a tag for the metric path -/
def HasName (tags : Tags) : Prop :=
  (tags.get? nameKey).isSome = true

theorem hasName_insert {tags : Tags} (h : tags.HasName) (key value : String) : HasName (tags.insert key value) := by
  unfold HasName
  by_cases hk : nameKey = key
  · rw [hk, Keyed.get?_insert_self]
    rfl
  · rw [Keyed.get?_insert_of_ne value tags hk]
    exact h

theorem hasName_insert_name (tags : Tags) (value : String) : HasName (tags.insert nameKey value) := by
  unfold HasName
  rw [Keyed.get?_insert_self]
  rfl

theorem hasName_insertAll {tags : Tags} (h : tags.HasName) (pairs : List (String × String)) :
    HasName (tags.insertAll pairs) := by
  induction pairs generalizing tags with
  | nil => exact h
  | cons p pairs ih => exact ih (hasName_insert h p.1 p.2)

theorem hasName_ofName (name : String) : (ofName name).HasName := by
  have hpath (path : String) : HasName [(nameKey, path)] := by rfl
  exact hasName_insertAll (hpath _) _

end Tags

namespace Series

/-! ## Whole steps -/

/-- the whole steps in a time, as a count, take it up to what is left below one step -/
theorem toNat_tdiv_mul {time step : Int} (htime : 0 ≤ time) (hstep : 0 < step) :
    ((time.tdiv step).toNat : Int) * step = time - time % step := by
  have hsplit := Int.ediv_mul_add_emod time step
  rw [Int.tdiv_eq_ediv_of_nonneg htime, Int.toNat_of_nonneg (Int.ediv_nonneg htime hstep.le)]
  omega

/-! ## Sound series -/

/-- a series whose window is as long as its samples, on a grid that moves forward, with a metric path -/
structure Sound (s : Series) : Prop where
  consistent : s.Consistent
  hasName : s.tags.HasName

theorem Sound.step_pos {s : Series} (h : s.Sound) : 0 < s.step := h.consistent.1

section Copies

variable {s : Series} (h : s.Sound)
include h

theorem Sound.withValues (values : List Float) : (s.withValues values).Sound :=
  ⟨consistent_withValues s values h.step_pos, h.hasName⟩

theorem Sound.withStart (start : Int) : (s.withStart start).Sound :=
  ⟨consistent_withStart s start h.step_pos, h.hasName⟩

theorem Sound.onGrid {step : Int} (hstep : 0 < step) (start : Int) (values : List Float) :
    (s.onGrid start step values).Sound :=
  ⟨consistent_onGrid s start values hstep, h.hasName⟩

/-- a shell has no samples, and its window is empty -/
theorem Sound.shell (name : String) : (s.shell name).Sound := by
  refine ⟨⟨h.step_pos, ?_⟩, h.hasName⟩
  simp [Series.shell]

theorem Sound.withTag (key value : String) : (s.withTag key value).Sound :=
  ⟨h.consistent, Tags.hasName_insert h.hasName key value⟩

theorem Sound.renamed (name : String) : (s.renamed name).Sound :=
  (h.shell name).withValues s.values

theorem Sound.withPath (path : String) : ({ s with path := path } : Series).Sound :=
  ⟨h.consistent, h.hasName⟩

theorem Sound.withReducer (reducerName : String) : ({ s with reducerName := reducerName } : Series).Sound :=
  ⟨h.consistent, h.hasName⟩

theorem Sound.withTags {tags : Tags} (htags : tags.HasName) : ({ s with tags := tags } : Series).Sound :=
  ⟨h.consistent, htags⟩

theorem Sound.slice {w : Time.Window} {cut : Series} (hcut : s.slice w = some cut) : cut.Sound := by
  unfold Series.slice at hcut
  dsimp only at hcut
  split at hcut
  · cases hcut
  · cases hcut
    exact ((h.shell s.name).withStart _).withValues _

/-! ## One grid -/

theorem Sound.scaleOne {step : Int} (hstep : 0 < step) (start : Int) : (scaleOne step start s).Sound := by
  unfold Series.scaleOne
  split
  · exact h
  · split
    · dsimp only
      split
      · exact h
      · exact h.onGrid hstep _ _
    · exact h.onGrid hstep _ _

theorem Sound.padTo (length : Nat) : (padTo length s).Sound := by
  unfold Series.padTo
  split
  · exact h.withValues _
  · exact h

theorem Sound.padToWindow (start stop : Int) : (padToWindow start stop s).Sound := by
  unfold Series.padToWindow
  dsimp only
  split
  · exact h
  · exact h.onGrid h.step_pos _ _

/-! ## Fewer points -/

theorem Sound.consolidateBy (n : Nat) (nudge : Bool) : (s.consolidateBy n nudge).Sound := by
  unfold Series.consolidateBy
  split
  · exact h
  · rename_i hn
    have hwidth : 0 < s.step * (n : Int) := by
      have : 0 < (n : Int) := by omega
      exact Int.mul_pos h.step_pos this
    exact h.onGrid hwidth _ _

end Copies

/-! ## Many series -/

/-- series that are all sound -/
def AllSound (series : List Series) : Prop := ∀ s ∈ series, s.Sound

theorem allSound_nil : AllSound [] := by
  intro s hs
  cases hs

theorem AllSound.map {series : List Series} (h : AllSound series) {f : Series → Series}
    (hf : ∀ s, s.Sound → (f s).Sound) : AllSound (series.map f) := by
  intro s hs
  obtain ⟨r, hr, rfl⟩ := List.mem_map.1 hs
  exact hf r (h r hr)

theorem AllSound.flatMap {α : Type} {l : List α} {f : α → List Series} (h : ∀ a ∈ l, AllSound (f a)) :
    AllSound (l.flatMap f) := by
  intro s hs
  obtain ⟨a, ha, hs⟩ := List.mem_flatMap.1 hs
  exact h a ha s hs

theorem AllSound.subset {series fewer : List Series} (h : AllSound series) (hsub : fewer ⊆ series) : AllSound fewer :=
  fun s hs => h s (hsub hs)

theorem AllSound.scale {series : List Series} (h : AllSound series) (asked : Int) : AllSound (scale series asked) := by
  unfold Series.scale
  dsimp only
  split
  · exact h
  · rename_i hn
    have hstep : 0 < targetStep asked series := by
      by_contra hle
      exact hn (Or.inr (by omega))
    exact (h.map fun s hs => hs.scaleOne hstep _).map fun s hs => hs.padTo _

theorem AllSound.align {series : List Series} (h : AllSound series) : AllSound (align series) := by
  unfold Series.align
  dsimp only
  split
  · exact (h.scale 0).map fun s hs => hs.padToWindow _ _
  · exact h.map fun s hs => hs.padToWindow _ _

/-- a combined series has the grid of the series it is combined from, and a metric path if only its own name -/
theorem AllSound.aggregate {series : List Series} (h : AllSound series) (name : String) (reducer : List Float → Float)
    (factor : Float32) : AllSound (aggregate name series reducer factor) := by
  have haligned := h.align
  unfold Series.aggregate
  split
  · exact allSound_nil
  · rename_i first rest hrest
    rw [hrest] at haligned
    intro s hs
    dsimp only at hs
    rw [List.mem_singleton.1 hs]
    refine (((haligned first List.mem_cons_self).shell name).withValues _).withTags ?_
    split
    · assumption
    · exact Tags.hasName_insert_name _ _

theorem AllSound.consolidateAll {series : List Series} (h : AllSound series) (maxPoints : Nat) (nudge : Bool) :
    AllSound (consolidateAll series maxPoints nudge) :=
  h.map fun _ hs => hs.consolidateBy _ nudge

end Series

end MetricQuery
