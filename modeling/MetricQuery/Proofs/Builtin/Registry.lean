/-
What the builtin registry holds.

Every name in the registry of builtin functions stands for one of them, with a description under that name
(`Registry.builtins_get?`). So what holds of every builtin function holds of every call that resolves. And since no two
of them share a name, each answers to all of its own (`Registry.get?_builtins`).
-/
import MetricQuery.Proofs.Keyed
import MetricQuery.Builtin.All

namespace MetricQuery

/-- what holds of every family of builtin functions holds of all -/
theorem Builtin.forall_all {P : Function → Prop} (hcombining : ∀ f ∈ combining, P f) (haliasing : ∀ f ∈ aliasing, P f)
    (hfiltering : ∀ f ∈ filtering, P f) (hforecasting : ∀ f ∈ forecasting, P f) (hmoving : ∀ f ∈ moving, P f)
    (hshifting : ∀ f ∈ shifting, P f) (hrebucketing : ∀ f ∈ rebucketing, P f)
    (htransforming : ∀ f ∈ transforming, P f) : ∀ f ∈ all, P f := by
  intro f hf
  simp only [all, List.mem_append] at hf
  rcases hf with ((((((hf | hf) | hf) | hf) | hf) | hf) | hf) | hf
  · exact hcombining f hf
  · exact haliasing f hf
  · exact hfiltering f hf
  · exact hforecasting f hf
  · exact hmoving f hf
  · exact hshifting f hf
  · exact hrebucketing f hf
  · exact htransforming f hf

namespace Registry

/-- each entry stands under the name its description gives -/
def Named (fs : List Function) (registry : Registry) : Prop :=
  ∀ p ∈ registry, p.2.function ∈ fs ∧ p.2.description ∈ p.2.function.descriptions ∧ p.2.description.name = p.1

theorem named_registerAll {fs gs : List Function} {registry : Registry} (h : Named fs registry) (hsub : gs ⊆ fs) :
    Named fs (registry.registerAll gs) := by
  induction gs generalizing registry with
  | nil => exact h
  | cons f gs ih =>
    refine ih ?_ fun f' hf' => hsub (List.mem_cons_of_mem _ hf')
    intro p hp
    rcases Keyed.mem_insertAll hp with hp | hp
    · exact h p hp
    · obtain ⟨d, hd, rfl⟩ := List.mem_map.1 hp
      exact ⟨hsub List.mem_cons_self, hd, rfl⟩

theorem builtins_get? {name : String} {entry : Entry} (h : builtins.get? name = some entry) :
    entry.function ∈ Builtin.all ∧ entry.description ∈ entry.function.descriptions ∧ entry.description.name = name :=
  named_registerAll (by intro p hp; cases hp) (List.Subset.refl _) (name, entry) (Keyed.mem_of_get? h)

/-- the names of some functions, each with what it stands for -/
def entries (fs : List Function) : List (String × Entry) :=
  fs.flatMap fun f => f.descriptions.map fun d => (d.name, ⟨f, d⟩)

theorem registerAll_eq (registry : Registry) (fs : List Function) :
    registry.registerAll fs = Keyed.insertAll registry (entries fs) := by
  induction fs generalizing registry with
  | nil => rfl
  | cons f fs ih =>
    rw [entries, List.flatMap_cons, Keyed.insertAll, List.foldl_append]
    exact ih (registry.register f)

theorem nodup_builtin_names : ((entries Builtin.all).map Prod.fst).Nodup := by decide +kernel

/-- **A builtin function answers to each of its names.** -/
theorem get?_builtins {f : Function} {d : Description} (hf : f ∈ Builtin.all) (hd : d ∈ f.descriptions) :
    builtins.get? d.name = some ⟨f, d⟩ := by
  have hmem : (d.name, ⟨f, d⟩) ∈ entries Builtin.all := List.mem_flatMap.2 ⟨f, hf, List.mem_map.2 ⟨d, hd, rfl⟩⟩
  rw [builtins, registerAll_eq]
  exact Keyed.get?_insertAll_of_mem nodup_builtin_names hmem []

/-- a builtin function all of whose descriptions are under one name answers to it -/
theorem exists_get?_builtins {f : Function} {name : String} (hf : f ∈ Builtin.all) (hne : f.descriptions ≠ [])
    (hname : ∀ d ∈ f.descriptions, d.name = name) :
    ∃ d ∈ f.descriptions, builtins.get? name = some ⟨f, d⟩ := by
  obtain ⟨d, hd⟩ := List.exists_mem_of_ne_nil f.descriptions hne
  exact ⟨d, hd, hname d hd ▸ get?_builtins hf hd⟩

theorem resolve_eq_ok {registry : Registry} {name : String} {entry : Entry} :
    registry.resolve name = .ok entry ↔ registry.get? name = some entry := by
  unfold resolve
  cases registry.get? name <;> simp

end Registry

end MetricQuery
