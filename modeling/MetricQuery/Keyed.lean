/-
Tables with text keys, kept in ascending order of key.

Named arguments, tags and the members of written objects are such tables: what was put in first does not show, and a
key is listed once. Keys are compared character by character.
-/
namespace MetricQuery

/-- pairs in ascending order of key -/
abbrev Keyed (α : Type) := List (String × α)

namespace Keyed

/-- the table with `value` under `key`, whatever was there before -/
def insert {α : Type} (key : String) (value : α) : Keyed α → Keyed α
  | [] => [(key, value)]
  | (k, v) :: rest =>
    if key < k then (key, value) :: (k, v) :: rest
    else if key = k then (key, value) :: rest
    else (k, v) :: insert key value rest

/-- all pairs inserted in turn, so of two with one key the later counts -/
def insertAll {α : Type} (table : Keyed α) (pairs : List (String × α)) : Keyed α :=
  pairs.foldl (fun t (k, v) => insert k v t) table

def get? {α : Type} (table : Keyed α) (key : String) : Option α :=
  List.lookup key table

def erase {α : Type} (table : Keyed α) (key : String) : Keyed α :=
  table.filter fun (k, _) => k != key

def keys {α : Type} (table : Keyed α) : List String :=
  table.map Prod.fst

/-- the pair in front answers for its key, the others for the rest -/
theorem get?_cons {α : Type} (k : String) (v : α) (rest : Keyed α) (key : String) :
    get? ((k, v) :: rest) key = if key = k then some v else get? rest key := by
  rw [get?, List.lookup_cons]
  by_cases h : key = k
  · simp [h]
  · rw [beq_false_of_ne h, if_neg h, get?]

theorem get?_insert_self {α : Type} (key : String) (value : α) (table : Keyed α) :
    get? (insert key value table) key = some value := by
  induction table with
  | nil => simp [insert, get?_cons]
  | cons p rest ih =>
    obtain ⟨k, v⟩ := p
    unfold insert
    split
    · simp [get?_cons]
    · split
      · simp [get?_cons]
      · rename_i h
        simp [get?_cons, h, ih]

theorem get?_insert_of_ne {α : Type} {key other : String} (value : α) (table : Keyed α) (h : other ≠ key) :
    get? (insert key value table) other = get? table other := by
  induction table with
  | nil => simp [insert, get?_cons, h]
  | cons p rest ih =>
    obtain ⟨k, v⟩ := p
    unfold insert
    split
    · simp [get?_cons, h]
    · split
      · rename_i hk
        subst hk
        simp [get?_cons, h]
      · simp [get?_cons, ih]

end Keyed

end MetricQuery
