/-
Series in groups.

`groupByNode`, `groupByNodes` and `aggregateWithWildcards` give each series a key, put series of one key into one group
and combine each group. The place of a group is looked up by its key. As long as the places are in step with the groups
(`Groups.InStep`), one more series goes to the end of the group of its key or makes a new group behind the others, so
after all of them the groups are in order of first appearance, and each series is in one group, once (`grouped_groupBy`).
A group is never empty, so it comes to one series; `groups_partition` says so of the three functions.
-/
import MetricQuery.Proofs.Builtin.Rebucketing

namespace MetricQuery.Builtin

open Target (Call)
open Time (Window)

/-! ## Groups -/

/-- `groups` are the elements of `xs` by their keys -/
structure Grouped {α : Type} (key : α → String) (xs : List α) (groups : List (String × List α)) : Prop where
  /-- keys stand in order of first appearance -/
  keys : groups.map Prod.fst = (xs.map key).eraseDups
  distinct : (groups.map Prod.fst).Nodup
  /-- elements stand in order of the input -/
  members : ∀ g ∈ groups, g.2 = xs.filter fun x => key x = g.1
  nonempty : ∀ g ∈ groups, g.2 ≠ []
  /-- each element is in one group, as often as in the input -/
  covers : (groups.flatMap Prod.snd).Perm xs

/-- the places of the groups are those of their keys -/
structure Groups.InStep {α : Type} (g : Groups α) : Prop where
  place : ∀ key i, g.places.get? key = some i ↔ (g.listed.map Prod.fst)[i]? = some key

section InStep

variable {α : Type} {g : Groups α} (h : g.InStep)
include h

/-- **One more member goes to the end of the group of its key, or makes a new group behind the others.** -/
theorem Groups.InStep.add_cases (key : String) (x : α) :
    (∃ before members after, g.listed = before ++ (key, members) :: after ∧
      g.add key x = ⟨before ++ (key, members ++ [x]) :: after, g.places⟩) ∨
    (key ∉ g.listed.map Prod.fst ∧
      g.add key x = ⟨g.listed ++ [(key, [x])], g.places.insert key g.listed.length⟩) := by
  unfold Groups.add
  split
  · rename_i i hi
    have hkey := (h.place key i).1 hi
    rw [List.getElem?_map] at hkey
    obtain ⟨⟨k, members⟩, hget, rfl⟩ := Option.map_eq_some_iff.1 hkey
    obtain ⟨hlt, hget⟩ := List.getElem?_eq_some_iff.1 hget
    refine Or.inl ⟨g.listed.take i, members, g.listed.drop (i + 1), ?_, ?_⟩
    · rw [← hget, List.getElem_cons_drop, List.take_append_drop]
    · rw [List.modify_eq_take_cons_drop hlt, hget]
  · rename_i hnone
    refine Or.inr ⟨fun hmem => ?_, rfl⟩
    obtain ⟨i, hi⟩ := List.mem_iff_getElem?.1 hmem
    rw [(h.place key i).2 hi] at hnone
    cases hnone

/-- **The places stay those of the keys.** -/
theorem Groups.InStep.add (key : String) (x : α) : (g.add key x).InStep where
  place k i := by
    rcases h.add_cases key x with ⟨before, members, after, hlisted, hadd⟩ | ⟨hnew, hadd⟩
    · rw [hadd, h.place, hlisted]
      simp
    · rw [hadd, List.map_append, List.map_singleton]
      dsimp only
      -- a key is at a place of the old ones, or the new one behind them
      rw [List.getElem?_append, List.length_map]
      by_cases hk : k = key
      · subst hk
        rw [Keyed.get?_insert_self, Option.some.injEq]
        split
        · rename_i hi
          refine iff_of_false (Nat.ne_of_gt hi) fun hget => hnew (List.mem_of_getElem? hget)
        · rename_i hi
          rw [List.getElem?_singleton]
          split
          · exact iff_of_true (by omega) rfl
          · exact iff_of_false (by omega) nofun
      · rw [Keyed.get?_insert_of_ne _ _ hk, h.place]
        split
        · rfl
        · rename_i hi
          rw [List.getElem?_eq_none (by rw [List.length_map]; omega), List.getElem?_singleton]
          split
          · exact iff_of_false nofun fun heq => hk (Option.some.inj heq).symm
          · rfl

end InStep

theorem eraseDups_append_singleton (ks : List String) (k : String) :
    (ks ++ [k]).eraseDups = if k ∈ ks then ks.eraseDups else ks.eraseDups ++ [k] := by
  rw [List.eraseDups_append, List.removeAll]
  split
  · rename_i h
    rw [List.filter_cons_of_neg (by simpa using h), List.filter_nil, List.eraseDups_nil, List.append_nil]
  · rename_i h
    rw [List.filter_cons_of_pos (by simpa using h), List.filter_nil]
    rfl

section Grouped

variable {α : Type} {key : α → String} {xs : List α} {x : α} {groups : List (String × List α)}

theorem Grouped.nil : Grouped key [] [] :=
  ⟨rfl, List.nodup_nil, by simp, by simp, List.Perm.refl _⟩

theorem Grouped.key_mem_iff (h : Grouped key xs groups) : key x ∈ groups.map Prod.fst ↔ key x ∈ xs.map key := by
  rw [h.keys, List.mem_eraseDups]

/-- a group of another key has the members it had -/
theorem Grouped.members_of_ne (h : Grouped key xs groups) {group : String × List α} (hgroup : group ∈ groups)
    (hne : group.1 ≠ key x) : group.2 = (xs ++ [x]).filter fun y => key y = group.1 := by
  simp [h.members group hgroup, hne.symm]

/-- one more element of a key that is there -/
theorem Grouped.extend {before after : List (String × List α)} {members : List α}
    (h : Grouped key xs (before ++ (key x, members) :: after)) :
    Grouped key (xs ++ [x]) (before ++ (key x, members ++ [x]) :: after) := by
  have hgroup : (key x, members) ∈ before ++ (key x, members) :: after := by simp
  have hkeys : (before ++ (key x, members ++ [x]) :: after).map Prod.fst =
      (before ++ (key x, members) :: after).map Prod.fst := by simp
  have hothers : ∀ group ∈ before ++ after, group ∈ before ++ (key x, members) :: after ∧ group.1 ≠ key x := by
    have hdistinct := h.distinct
    rw [List.map_append, List.map_cons, List.nodup_middle, List.nodup_cons, ← List.map_append] at hdistinct
    intro group hg
    refine ⟨by simpa using Or.imp_right Or.inr (List.mem_append.1 hg), fun heq => hdistinct.1 ?_⟩
    exact List.mem_map.2 ⟨group, hg, heq⟩
  have hcases : ∀ group ∈ before ++ (key x, members ++ [x]) :: after,
      group = (key x, members ++ [x]) ∨ group ∈ before ++ after := by
    intro group hg
    rw [List.mem_append, List.mem_cons] at hg
    rw [List.mem_append]
    tauto
  refine ⟨?_, hkeys ▸ h.distinct, fun group hg => ?_, fun group hg => ?_, ?_⟩
  · rw [hkeys, h.keys, List.map_append, List.map_singleton, eraseDups_append_singleton,
      if_pos (h.key_mem_iff.1 (List.mem_map.2 ⟨_, hgroup, rfl⟩))]
  · rcases hcases group hg with rfl | hg
    · simp [← h.members _ hgroup]
    · exact h.members_of_ne (hothers group hg).1 (hothers group hg).2
  · rcases hcases group hg with rfl | hg
    · simp
    · exact h.nonempty group (hothers group hg).1
  · refine List.Perm.trans ?_ (h.covers.append_right [x])
    simp only [List.flatMap_append, List.flatMap_cons, List.append_assoc]
    exact List.Perm.append_left _ (List.Perm.append_left _ List.perm_append_comm)

/-- one more element of a new key -/
theorem Grouped.start (h : Grouped key xs groups) (hnew : key x ∉ groups.map Prod.fst) :
    Grouped key (xs ++ [x]) (groups ++ [(key x, [x])]) := by
  have hnone : xs.filter (fun y => key y = key x) = [] := by
    rw [List.filter_eq_nil_iff]
    intro y hy hyx
    exact hnew (h.key_mem_iff.2 (of_decide_eq_true hyx ▸ List.mem_map_of_mem hy))
  refine ⟨?_, ?_, fun group hg => ?_, fun group hg => ?_, ?_⟩
  · rw [List.map_append, h.keys, List.map_append, List.map_singleton, List.map_singleton, eraseDups_append_singleton,
      if_neg fun hold => hnew (h.key_mem_iff.2 hold)]
  · rw [List.map_append, List.map_singleton]
    exact h.distinct.append (List.nodup_singleton _) (List.disjoint_singleton.2 hnew)
  · rcases List.mem_append.1 hg with hg | hg
    · exact h.members_of_ne hg fun heq => hnew (List.mem_map.2 ⟨group, hg, heq⟩)
    · rw [List.mem_singleton.1 hg]
      simp [hnone]
  · rcases List.mem_append.1 hg with hg | hg
    · exact h.nonempty group hg
    · simp [List.mem_singleton.1 hg]
  · rw [List.flatMap_append, List.flatMap_singleton]
    exact h.covers.append_right [x]

/-- **One more element keeps the rest in their groups.** -/
theorem Grouped.add {g : Groups α} (hstep : g.InStep) (h : Grouped key xs g.listed) (x : α) :
    Grouped key (xs ++ [x]) (g.add (key x) x).listed := by
  rcases hstep.add_cases (key x) x with ⟨before, members, after, hlisted, hadd⟩ | ⟨hnew, hadd⟩
  · rw [hlisted] at h
    rw [hadd]
    exact h.extend
  · rw [hadd]
    exact h.start hnew

/-- **Groups partition what was grouped.** -/
theorem grouped_groupBy (key : α → String) (xs : List α) : Grouped key xs (groupBy key xs) := by
  let grouped (xs : List α) : Groups α := xs.foldl (fun g x => g.add (key x) x) ⟨[], []⟩
  have hrun : (grouped xs).InStep ∧ Grouped key xs (grouped xs).listed := by
    induction xs using List.reverseRecOn with
    | nil => exact ⟨⟨fun key i => by simp [grouped, Keyed.get?]⟩, Grouped.nil⟩
    | append_singleton xs x ih =>
      obtain ⟨hstep, hgrouped⟩ := ih
      have hlast : grouped (xs ++ [x]) = (grouped xs).add (key x) x := List.foldl_append ..
      rw [hlast]
      exact ⟨hstep.add (key x) x, hgrouped.add hstep x⟩
  exact hrun.2

end Grouped

/-! ## Combined groups -/

theorem align_ne_nil {series : List Series} (h : series ≠ []) : Series.align series ≠ [] := by
  unfold Series.align
  rw [Ne, List.map_eq_nil_iff]
  split
  · unfold Series.scale
    dsimp only
    split
    · exact h
    · simpa using h
  · exact h

/-- series, if there are any, are combined into one -/
theorem exists_aggregate_named {series : List Series} (h : series ≠ []) (name : String)
    (reducer : List Float → Float) (factor : Float32) :
    ∃ o, Series.aggregate name series reducer factor = [o] ∧ o.name = name := by
  unfold Series.aggregate
  split
  · rename_i hnil
    exact absurd hnil (align_ne_nil h)
  · exact ⟨_, rfl, rfl⟩

/-- `o` is a group combined into one series under its key, with the factor of its first member -/
structure Combined (r : Reducer) (group : String × List Series) (o : Series) : Prop where
  name_eq : o.name = group.1
  combined : ∃ first rest, group.2 = first :: rest ∧
    Series.aggregate group.1 group.2 r.apply first.xFilesFactor = [o]

/-- **Each group comes to one series**, in turn. -/
theorem forall₂_aggregateGroups (r : Reducer) {groups : List (String × List Series)} (h : ∀ g ∈ groups, g.2 ≠ []) :
    List.Forall₂ (Combined r) groups (aggregateGroups r groups) := by
  induction groups with
  | nil => exact List.Forall₂.nil
  | cons g groups ih =>
    obtain ⟨hg, hgroups⟩ := List.forall_mem_cons.1 h
    obtain ⟨key, members⟩ := g
    obtain ⟨first, rest, rfl⟩ := List.exists_cons_of_ne_nil hg
    obtain ⟨o, ho, hname⟩ := exists_aggregate_named hg key r.apply first.xFilesFactor
    have hrest := ih hgroups
    rw [aggregateGroups, List.flatMap_cons]
    show List.Forall₂ _ _ (Series.aggregate key (first :: rest) r.apply first.xFilesFactor ++ aggregateGroups r groups)
    rw [ho]
    exact List.Forall₂.cons ⟨hname, first, rest, rfl, ho⟩ hrest

/-! ## Functions that group -/

/-- the functions that group series, each with how it reads the reducer and the key of a series off a call -/
def groupings : List (Function × (Call → Except EvalError (Reducer × (Series → String)))) :=
  [(aggregateWithWildcards, fun c => do
      let r ← reducerNamed (← c.stringAt 1)
      let positions ← c.intsFrom 2
      .ok (r, fun s => withoutNodes positions s.name)),
    (groupByNode, fun c => do
      let selector ← nodeSelector c
      let r ← reducerNamed (← c.stringOr "callback" 2 "average")
      .ok (r, fun s => s.groupKey [selector])),
    (groupByNodes, fun c => do
      let r ← reducerNamed (← c.stringAt 1)
      let selectors ← c.selectorsFrom 2
      .ok (r, fun s => s.groupKey selectors))]

section Groupings

variable {f : Function} {read : Call → Except EvalError (Reducer × (Series → String))} (hf : (f, read) ∈ groupings)
  {ops : Operands} {c : Call} {w : Window} {p q : Progress} {series : List Series}
  (hseries : (seriesAt ops c 0 w).runFrom p = (.ok series, q))
include hf hseries

/-- a function that groups combines the groups of its series -/
theorem runFrom_grouping :
    (f.evaluate ops c w).runFrom p =
      ((fun (r, key) => aggregateGroups r (groupBy key series)) <$> read c, q) := by
  simp only [groupings, List.mem_cons, Prod.mk.injEq, List.not_mem_nil, or_false] at hf
  rcases hf with ⟨rfl, rfl⟩ | ⟨rfl, rfl⟩ | ⟨rfl, rfl⟩
  · rw [aggregateWithWildcards, Mapping.runFrom_evaluate _ _ rfl rfl hseries]
    simp only [map_bind]
    rfl
  · rw [groupByNode, Mapping.runFrom_evaluate _ _ rfl rfl hseries]
    simp only [map_bind]
    rfl
  · rw [groupByNodes, Mapping.runFrom_evaluate _ _ rfl rfl hseries]
    simp only [map_bind]
    rfl

/-- **Grouping partitions the series.** Where the reducer and the key can be read off the call, a function that groups
gives one series for each key that some series has, in order of first appearance: under that key, the aggregate of all
series that have it, in order of the input and with the factor of the first of them. Each series is in one group, once.
Where they cannot be read, the call fails for that reason. -/
theorem groups_partition :
    (∀ r key, read c = .ok (r, key) → ∃ groups outs, (f.evaluate ops c w).runFrom p = (.ok outs, q) ∧
      Grouped key series groups ∧ List.Forall₂ (Combined r) groups outs) ∧
    ∀ e, read c = .error e → (f.evaluate ops c w).runFrom p = (.error e, q) := by
  rw [runFrom_grouping hf hseries]
  constructor
  · intro r key hread
    have hgrouped := grouped_groupBy key series
    rw [hread]
    exact ⟨groupBy key series, _, rfl, hgrouped, forall₂_aggregateGroups r hgrouped.nonempty⟩
  · intro e hread
    rw [hread]
    rfl

end Groupings

/-- the first and the last of three series share their first node -/
theorem groups_partition_two :
    let c : Call := ⟨"groupByNode", [.name "*.*", .number 0 "0", .string "sum" .single], [], "*.*,0,'sum'"⟩
    let s1 := Series.ofSamples "a.x" [1, 2] 60 0
    let s2 := Series.ofSamples "b.x" [3, 4] 60 0
    let s3 := Series.ofSamples "a.y" [5, 6] 60 0
    let ops : Operands := { args := [fun _ => pure [s1, s2, s3]], named := [], fetch := fun _ _ => pure () }
    ∃ o1 o2, ((groupByNode.evaluate ops c ⟨0, 120⟩).runFrom {}).1 = .ok [o1, o2] ∧ o1.name = "a" ∧ o2.name = "b" ∧
      Series.aggregate "a" [s1, s3] Reducer.sum.apply s1.xFilesFactor = [o1] ∧
      Series.aggregate "b" [s2] Reducer.sum.apply s2.xFilesFactor = [o2] := by
  intro c s1 s2 s3 ops
  have hselector : nodeSelector c = .ok (.node 0) := rfl
  have hname : c.stringOr "callback" 2 "average" = .ok "sum" := by cbv
  have hreducer : reducerNamed "sum" = .ok .sum := by cbv
  have hread : (do
      let selector ← nodeSelector c
      let r ← reducerNamed (← c.stringOr "callback" 2 "average")
      .ok (r, fun s : Series => s.groupKey [selector]) : Except EvalError _) =
      .ok (.sum, fun s => s.groupKey [.node 0]) := by
    rw [hselector, hname]
    show (reducerNamed "sum" >>= fun r => Except.ok (r, fun s : Series => s.groupKey [.node 0]) : Except EvalError _) = _
    rw [hreducer]
    rfl
  have hseries : (seriesAt ops c 0 ⟨0, 120⟩).runFrom {} = (.ok [s1, s2, s3], {}) := rfl
  obtain ⟨groups, outs, hrun, hgrouped, hall⟩ :=
    (groups_partition (List.mem_cons_of_mem _ List.mem_cons_self) hseries).1 _ _ hread
  have hkeys : groups.map Prod.fst = ["a", "b"] := hgrouped.keys.trans (by decide +kernel)
  obtain ⟨g1, rest, rfl, hg1, hrest⟩ := List.map_eq_cons_iff.1 hkeys
  obtain ⟨g2, rest, rfl, hg2, hrest⟩ := List.map_eq_cons_iff.1 hrest
  rw [List.map_eq_nil_iff.1 hrest] at hall hgrouped
  obtain ⟨o1, outs, ho1, hall2, rfl⟩ := List.forall₂_cons_left_iff.1 hall
  obtain ⟨o2, outs, ho2, hall0, rfl⟩ := List.forall₂_cons_left_iff.1 hall2
  rw [List.forall₂_nil_left_iff.1 hall0] at hrun
  have hkey1 : s1.groupKey [.node 0] = "a" := by decide +kernel
  have hkey2 : s2.groupKey [.node 0] = "b" := by decide +kernel
  have hkey3 : s3.groupKey [.node 0] = "a" := by decide +kernel
  have hmembers1 : g1.2 = [s1, s3] := by
    rw [hgrouped.members g1 List.mem_cons_self, hg1]
    simp [hkey1, hkey2, hkey3]
  have hmembers2 : g2.2 = [s2] := by
    rw [hgrouped.members g2 (List.mem_cons_of_mem _ List.mem_cons_self), hg2]
    simp [hkey1, hkey2, hkey3]
  obtain ⟨first1, rest1, hfirst1, hcombined1⟩ := ho1.combined
  obtain ⟨first2, rest2, hfirst2, hcombined2⟩ := ho2.combined
  rw [hmembers1] at hfirst1 hcombined1
  rw [hmembers2] at hfirst2 hcombined2
  cases hfirst1
  cases hfirst2
  rw [hg1] at hcombined1
  rw [hg2] at hcombined2
  exact ⟨o1, o2, by rw [hrun], ho1.name_eq.trans hg1, ho2.name_eq.trans hg2, hcombined1, hcombined2⟩

end MetricQuery.Builtin
