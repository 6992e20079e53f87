/-
The grid of what a target comes to.

A store that was read holds sound series only: a record whose step is not positive is refused. What is held of such a
store is sound, and every builtin function gives sound series for sound ones, so by induction on the expression does
every evaluation (`yields_eval`). `execute_sound` states it of whole targets, also after drawing with fewer points.
-/
import MetricQuery.Proofs.Builtin.Grid
import MetricQuery.Proofs.Engine.PhaseAgreement

namespace MetricQuery

open Target (Expr Call)
open Time (Window)
open Series (Sound AllSound)

/-! ## Stores -/

namespace Store

theorem sound_toSeries (f : Fixture) (defaults : Defaults) (h : 0 < f.step) : (f.toSeries defaults).Sound where
  consistent := ⟨h, by simp only [Fixture.toSeries, Series.ofSamples]; omega⟩
  hasName := Tags.hasName_insertAll (Tags.hasName_ofName f.name) f.tags

/-- a store that was read is sound -/
theorem sound_ofJson {j : Json} {defaults : Defaults} {store : Store} (h : ofJson j defaults = .ok store) :
    AllSound store := by
  unfold ofJson at h
  split at h
  · cases h
  · split at h
    · cases h
    · rename_i fixtures _ hsteps
      cases h
      intro s hs
      obtain ⟨f, hf, rfl⟩ := List.mem_map.1 hs
      refine sound_toSeries f defaults ?_
      have := List.find?_eq_none.1 hsteps f hf
      simpa using this

theorem sound_parse {text : String} {defaults : Defaults} {store : Store} (h : parse text defaults = .ok store) :
    AllSound store := by
  unfold parse at h
  split at h
  · exact sound_ofJson h
  · cases h

theorem sound_answer {store : Store} (h : AllSound store) (request : Request) :
    Ensures (store.answer request) AllSound := by
  unfold answer
  split
  · exact Ensures.error _ _
  · refine Ensures.ok fun s hs => ?_
    obtain ⟨r, hr, hcut⟩ := List.mem_filterMap.1 hs
    obtain ⟨cut, hslice, rfl⟩ := Option.map_eq_some_iff.1 hcut
    exact ((h r (List.mem_filter.1 hr).1).slice hslice).withPath _

end Store

/-! ## Evaluation -/

namespace Engine

section OverStore

variable {g : Engine} {store : Store} (hreg : g.registry = Registry.builtins) (hg : g.source = store.source)

/-- what is held of a sound store is sound -/
theorem yields_lookUp (hstore : AllSound store) (request : Request) (asks : Request → Prop) :
    Yields (g.regime store asks) AllSound (lookUp request) := by
  intro p hp
  rw [lookUp_run]
  refine ⟨Grows.refl g store p, ?_⟩
  split
  · rename_i series hheld
    exact Ensures.ok (Store.sound_answer hstore request series (hp.1.agrees request series hheld))
  · exact Ensures.error _ _

include hg

theorem yields_fetch (es : List Expr) (w : Window) (asks : Request → Prop) :
    Yields (g.regime store asks) (fun _ => True) (g.fetch es w) :=
  fun p _ => ⟨fetch_grows hg es w p, fun _ _ => trivial⟩

include hreg

/-- **Evaluation over a sound store gives sound series**, whatever is held. -/
theorem yields_eval (hstore : AllSound store) (e : Expr) (w : Window) (asks : Request → Prop) :
    Yields (g.regime store asks) AllSound (g.eval e w) := by
  induction e using Expr.induct generalizing w with
  | name path => exact yields_lookUp hstore _ asks
  | call f args named argText hargs hnamed =>
    have hresolve : Ensures (g.registry.resolve f) fun entry => entry.function ∈ Builtin.all := by
      rw [hreg]
      exact fun entry h => (Registry.builtins_get? (Registry.resolve_eq_ok.1 h)).1
    rw [eval]
    unfold apply
    refine Yields.guarded ((Yields.lift hresolve).bind fun entry hall => Yields.skip fun _ => ?_)
    refine Builtin.all_keepSound entry.function hall ⟨fun arg harg => ?_, fun p hp => ?_, fun e inner => ?_⟩ _ w
    · rw [evalAll_eq] at harg
      obtain ⟨e, he, rfl⟩ := List.mem_map.1 harg
      exact hargs e he
    · rw [evalNamed_eq] at hp
      obtain ⟨q, hq, rfl⟩ := List.mem_map.1 hp
      exact hnamed q hq
    · exact yields_fetch hg [e] inner asks
  | number value literal => exact Yields.throw _ _
  | string value quote => exact Yields.throw _ _
  | flag value => exact Yields.throw _ _

theorem ensures_execute (hstore : AllSound store) (target : String) (w : Window) (p : Progress) :
    Ensures ((g.execute target w).runFrom p).1 AllSound := by
  cases hparse : Target.parse target with
  | error error =>
    rw [execute_run_error hparse]
    exact Ensures.error _ _
  | ok e =>
    rw [execute_run_ok hparse, executeExpr_run]
    have hrun : Yields (g.regime store fun _ => False) AllSound (do g.fetch [e] w; g.eval e w) :=
      (yields_fetch hg [e] w _).bind fun _ _ => yields_eval hreg hg hstore e w _
    exact (hrun _ ⟨kept_nil g store p.asked, fun r hr => hr.elim⟩).2

end OverStore

/-- **Results lie on their grid.** Over any store that was read, the series a target comes to have a positive step, a
window as long as their samples and a metric path; so have they after drawing with any number of points. -/
theorem execute_sound {text : String} {defaults : Store.Defaults} {store : Store}
    (hstore : Store.parse text defaults = .ok store) {cancelled : Bool} {target : String} {w : Window} {p : Progress}
    {series : List Series} (h : (((store.engine cancelled).execute target w).runFrom p).1 = .ok series) :
    (∀ s ∈ series, s.Sound) ∧
      ∀ maxPoints nudge, ∀ s ∈ Series.consolidateAll series maxPoints nudge, s.Sound := by
  have hsound : AllSound series :=
    ensures_execute (store.engine_registry cancelled) (store.engine_source cancelled) (Store.sound_parse hstore)
      target w p series h
  exact ⟨hsound, fun maxPoints nudge => hsound.consolidateAll maxPoints nudge⟩

/-- a series and the hits of it shifted, which have steps twice as long, summed up and drawn with two points -/
theorem execute_sound_sum :
    let text := "[\x7b\"name\":\"a\",\"start\":0,\"step\":10,\"values\":[1,2,null,4,5,6]\x7d]"
    let target := "sum(a,hitcount(timeShift(a,'10s'),'20s'))"
    ∃ store series, Store.parse text {} = .ok store ∧
      (((Store.engine store false).execute target ⟨0, 60⟩).runFrom {}).1 = .ok series ∧
      series.map (·.values) = [[11.5, 24, 95.5]] ∧ (∀ s ∈ series, s.Sound) ∧
      (Series.consolidateAll series 2 false).map (·.values) = [[17.75, 95.5]] ∧
      ∀ s ∈ Series.consolidateAll series 2 false, s.Sound := by
  intro text target
  let store : Store := [Store.Fixture.toSeries ⟨"a", 0, 10, [1, 2, Decimal.nan, 4, 5, 6], [], none, none⟩ {}]
  have hjson : Json.parse text = some (.array
      [.object [("name", .string "a"), ("start", .number "0"), ("step", .number "10"),
        ("values", .array [.number "1", .number "2", .null, .number "4", .number "5", .number "6"])]]) := by cbv
  have hstore : Store.parse text {} = .ok store := by
    rw [Store.parse, hjson]
    rfl
  have hvalues : (((store.engine false).execute target ⟨0, 60⟩).runFrom {}).1.toOption.map (fun series =>
      (series.map (·.values), (Series.consolidateAll series 2 false).map (·.values))) =
        some ([[11.5, 24, 95.5]], [[17.75, 95.5]]) := by decide +kernel
  cases hrun : (((store.engine false).execute target ⟨0, 60⟩).runFrom {}).1 with
  | error e =>
    rw [hrun] at hvalues
    cases hvalues
  | ok series =>
    rw [hrun] at hvalues
    obtain ⟨hshown, hdrawn⟩ := Prod.mk.inj (Option.some.inj hvalues)
    obtain ⟨hsound, hdrawn_sound⟩ := execute_sound hstore hrun
    exact ⟨store, series, hstore, hrun, hshown, hsound, hdrawn, hdrawn_sound 2 false⟩

end Engine

end MetricQuery
