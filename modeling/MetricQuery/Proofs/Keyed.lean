/-
What insertion does to tables with text keys.

Inserting under a new key adds one pair (`perm_insert`) and keeps the keys ascending (`Ascending.insert`), and an
ascending table is known by its pairs (`Ascending.eq_of_perm`). So in what order pairs with different keys were put in
does not show.
-/
import Mathlib
import MetricQuery.Keyed

namespace MetricQuery.Keyed

variable {α : Type}

/-! ## What a table holds -/

theorem mem_insert {key : String} {value : α} {table : Keyed α} {p : String × α}
    (h : p ∈ insert key value table) : p = (key, value) ∨ p ∈ table := by
  induction table with
  | nil => exact Or.inl (List.mem_singleton.1 h)
  | cons q rest ih =>
    obtain ⟨k, v⟩ := q
    unfold insert at h
    split_ifs at h
    · exact List.mem_cons.1 h
    · rcases List.mem_cons.1 h with h | h
      · exact Or.inl h
      · exact Or.inr (List.mem_cons_of_mem _ h)
    · rcases List.mem_cons.1 h with h | h
      · exact Or.inr (h ▸ List.mem_cons_self)
      · exact (ih h).imp_right (List.mem_cons_of_mem _)

theorem mem_insertAll {table : Keyed α} {pairs : List (String × α)} {p : String × α}
    (h : p ∈ insertAll table pairs) : p ∈ table ∨ p ∈ pairs := by
  induction pairs generalizing table with
  | nil => exact Or.inl h
  | cons q pairs ih =>
    rcases ih h with h | h
    · rcases mem_insert h with h | h
      · exact Or.inr (h ▸ List.mem_cons_self)
      · exact Or.inl h
    · exact Or.inr (List.mem_cons_of_mem _ h)

theorem mem_of_get? {table : Keyed α} {key : String} {value : α} (h : table.get? key = some value) :
    (key, value) ∈ table := by
  obtain ⟨l₁, l₂, rfl, -⟩ := List.lookup_eq_some_iff.1 h
  simp

theorem get?_eq_none_iff {table : Keyed α} {key : String} : table.get? key = none ↔ key ∉ table.keys := by
  rw [get?, List.lookup_eq_none_iff, keys, List.mem_map]
  constructor
  · rintro h ⟨p, hp, rfl⟩
    simpa using h p hp
  · intro h p hp
    exact bne_iff_ne.2 fun hkey => h ⟨p, hp, hkey.symm⟩

theorem get?_map {β : Type} (f : α → β) (table : Keyed α) (key : String) :
    get? (table.map fun p => (p.1, f p.2)) key = (table.get? key).map f := by
  induction table with
  | nil => rfl
  | cons p rest ih =>
    obtain ⟨k, v⟩ := p
    rw [List.map_cons, get?_cons, get?_cons, ih]
    split_ifs <;> rfl

theorem mem_keys_insert {key : String} {value : α} {table : Keyed α} {k : String} :
    k ∈ (insert key value table).keys ↔ k = key ∨ k ∈ table.keys := by
  induction table with
  | nil => simp [insert, keys]
  | cons p rest ih =>
    obtain ⟨k', v⟩ := p
    simp only [keys] at ih
    unfold insert
    split_ifs with hlt heq
    · simp [keys]
    · simp [keys, heq]
    · simp [keys, ih, or_left_comm]

theorem mem_keys_insertAll {table : Keyed α} {pairs : List (String × α)} {k : String} :
    k ∈ (insertAll table pairs).keys ↔ k ∈ pairs.map Prod.fst ∨ k ∈ table.keys := by
  induction pairs generalizing table with
  | nil => simp [insertAll]
  | cons p pairs ih =>
    show k ∈ (insertAll (insert p.1 p.2 table) pairs).keys ↔ _
    rw [ih, mem_keys_insert, List.map_cons, List.mem_cons, or_left_comm, or_assoc]

theorem get?_insertAll_of_not_mem {key : String} {pairs : List (String × α)} (hkey : key ∉ pairs.map Prod.fst)
    (table : Keyed α) : (insertAll table pairs).get? key = table.get? key := by
  induction pairs generalizing table with
  | nil => rfl
  | cons p pairs ih =>
    obtain ⟨hne, hkey⟩ := List.ne_and_not_mem_of_not_mem_cons hkey
    exact (ih hkey (insert p.1 p.2 table)).trans (get?_insert_of_ne p.2 table hne)

/-- of pairs with keys of their own each is found -/
theorem get?_insertAll_of_mem {pairs : List (String × α)} (hnodup : (pairs.map Prod.fst).Nodup) {p : String × α}
    (hp : p ∈ pairs) (table : Keyed α) : (insertAll table pairs).get? p.1 = some p.2 := by
  induction pairs generalizing table with
  | nil => cases hp
  | cons q pairs ih =>
    obtain ⟨hq, hnodup⟩ := List.nodup_cons.1 hnodup
    rcases List.mem_cons.1 hp with rfl | hp
    · exact (get?_insertAll_of_not_mem hq (insert p.1 p.2 table)).trans (get?_insert_self p.1 p.2 table)
    · exact ih hnodup hp (insert q.1 q.2 table)

/-! ## New keys -/

/-- under a new key one pair is added -/
theorem perm_insert {key : String} {table : Keyed α} (value : α) (hkey : key ∉ table.keys) :
    (insert key value table).Perm ((key, value) :: table) := by
  induction table with
  | nil => exact .refl _
  | cons p rest ih =>
    obtain ⟨k, v⟩ := p
    rw [keys, List.map_cons, List.mem_cons, not_or] at hkey
    unfold insert
    split_ifs with hlt heq
    · exact .refl _
    · exact absurd heq hkey.1
    · exact ((ih hkey.2).cons (k, v)).trans (.swap _ _ _)

/-- pairs with new keys of their own are all added -/
theorem perm_insertAll {table : Keyed α} {pairs : List (String × α)} (hnodup : (pairs.map Prod.fst).Nodup)
    (hnew : ∀ p ∈ pairs, p.1 ∉ table.keys) : (insertAll table pairs).Perm (pairs ++ table) := by
  induction pairs generalizing table with
  | nil => exact .refl _
  | cons p pairs ih =>
    rw [List.map_cons, List.nodup_cons] at hnodup
    have hinsert := perm_insert p.2 (hnew p List.mem_cons_self)
    have hrest : ∀ q ∈ pairs, q.1 ∉ (insert p.1 p.2 table).keys := by
      intro q hq hmem
      rcases mem_keys_insert.1 hmem with heq | hold
      · exact hnodup.1 (heq ▸ List.mem_map_of_mem hq)
      · exact hnew q (List.mem_cons_of_mem p hq) hold
    exact ((ih hnodup.2 hrest).trans (hinsert.append_left pairs)).trans List.perm_middle

/-! ## Order -/

/-- the keys ascend, so each is listed once -/
def Ascending (table : Keyed α) : Prop :=
  table.Pairwise fun p q => p.1 < q.1

theorem Ascending.insert {key : String} {table : Keyed α} (h : table.Ascending) (value : α) :
    (insert key value table).Ascending := by
  induction table with
  | nil => exact List.pairwise_singleton _ _
  | cons p rest ih =>
    obtain ⟨k, v⟩ := p
    obtain ⟨hhead, hrest⟩ := List.pairwise_cons.1 h
    unfold Keyed.insert
    split_ifs with hlt heq
    · refine List.pairwise_cons.2 ⟨fun q hq => ?_, h⟩
      rcases List.mem_cons.1 hq with rfl | hq
      · exact hlt
      · exact lt_trans hlt (hhead q hq)
    · subst heq
      exact List.pairwise_cons.2 ⟨hhead, hrest⟩
    · refine List.pairwise_cons.2 ⟨fun q hq => ?_, ih hrest⟩
      rcases mem_insert hq with rfl | hq
      · exact lt_of_le_of_ne (not_lt.1 hlt) (Ne.symm heq)
      · exact hhead q hq

theorem Ascending.insertAll {table : Keyed α} (h : table.Ascending) (pairs : List (String × α)) :
    (insertAll table pairs).Ascending := by
  induction pairs generalizing table with
  | nil => exact h
  | cons p pairs ih => exact ih (h.insert p.2)

/-- an ascending table is known by its pairs -/
theorem Ascending.eq_of_perm {s t : Keyed α} (hs : s.Ascending) (ht : t.Ascending) (h : List.Perm s t) : s = t :=
  h.eq_of_pairwise (fun _ _ _ _ hlt hgt => absurd hgt (lt_asymm hlt)) hs ht

end MetricQuery.Keyed
