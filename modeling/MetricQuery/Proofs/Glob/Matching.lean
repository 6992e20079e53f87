/-
The texts that a glob takes.

`Takes` says part by part which texts the parts of a glob take in a row. The matcher never splits a name: it marks the
places that can be reached, for all ways of splitting at once. `Leads` says of marks before and after some parts that a
place is marked after them if they take a text that leads there from a marked place. Every part leads so
(`Part.leads`), by induction over the tree, so the end of a name is reached exactly if the glob takes the name
(`accepts_iff_takes`).
-/
import Mathlib
import MetricQuery.Glob

namespace MetricQuery.Glob

/-- parts take a text between them, each its own piece of it -/
inductive Takes : List Part → List Char → Prop
  | nil : Takes [] []
  | char (c : Char) {ps : List Part} {u : List Char} : Takes ps u → Takes (.char c :: ps) (c :: u)
  | anyChar {x : Char} {ps : List Part} {u : List Char} : x ≠ '.' → Takes ps u → Takes (.anyChar :: ps) (x :: u)
  | anyRun {run : List Char} {ps : List Part} {u : List Char} :
      (∀ x ∈ run, x ≠ '.') → Takes ps u → Takes (.anyRun :: ps) (run ++ u)
  | oneOf {set : Unicode.CodeSet} {depth : Nat} {x : Char} {ps : List Part} {u : List Char} :
      set.holds x = true → Takes ps u → Takes (.oneOf set depth :: ps) (x :: u)
  | group {alternatives : List (List Part)} {alternative ps : List Part} {v u : List Char} :
      alternative ∈ alternatives → Takes alternative v → Takes ps u → Takes (.group alternatives :: ps) (v ++ u)

theorem takes_nil_iff {u : List Char} : Takes [] u ↔ u = [] := by
  constructor
  · rintro ⟨⟩
    rfl
  · rintro rfl
    exact Takes.nil

theorem takes_cons_iff {p : Part} {ps : List Part} {u : List Char} :
    Takes (p :: ps) u ↔ ∃ v w, u = v ++ w ∧ Takes [p] v ∧ Takes ps w := by
  constructor
  · intro h
    cases h with
    | char c h => exact ⟨[c], _, rfl, .char c .nil, h⟩
    | anyChar hx h => exact ⟨[_], _, rfl, .anyChar hx .nil, h⟩
    | @anyRun run _ u hrun h => exact ⟨run, u, rfl, List.append_nil run ▸ .anyRun hrun .nil, h⟩
    | oneOf hx h => exact ⟨[_], _, rfl, .oneOf hx .nil, h⟩
    | @group _ _ _ v u hmem hv h => exact ⟨v, u, rfl, List.append_nil v ▸ .group hmem hv .nil, h⟩
  · rintro ⟨v, w, rfl, hv, hw⟩
    cases hv with
    | char c h => exact takes_nil_iff.1 h ▸ .char c hw
    | anyChar hx h => exact takes_nil_iff.1 h ▸ .anyChar hx hw
    | anyRun hrun h =>
      rw [takes_nil_iff.1 h, List.append_nil]
      exact .anyRun hrun hw
    | oneOf hx h => exact takes_nil_iff.1 h ▸ .oneOf hx hw
    | group hmem hv h =>
      rw [takes_nil_iff.1 h, List.append_nil]
      exact .group hmem hv hw

/-! ## Single parts -/

theorem takes_char_iff {c : Char} {u : List Char} : Takes [.char c] u ↔ ∃ x, u = [x] ∧ (x == c) = true := by
  constructor
  · intro h
    cases h with
    | char _ h => exact ⟨c, by rw [takes_nil_iff.1 h], by simp⟩
  · rintro ⟨x, rfl, hx⟩
    rw [beq_iff_eq] at hx
    exact hx ▸ .char c .nil

theorem takes_anyChar_iff {u : List Char} : Takes [.anyChar] u ↔ ∃ x, u = [x] ∧ (x != '.') = true := by
  constructor
  · intro h
    cases h with
    | anyChar hx h => exact ⟨_, by rw [takes_nil_iff.1 h], by simpa using hx⟩
  · rintro ⟨x, rfl, hx⟩
    exact .anyChar (by simpa using hx) .nil

theorem takes_oneOf_iff {set : Unicode.CodeSet} {depth : Nat} {u : List Char} :
    Takes [.oneOf set depth] u ↔ ∃ x, u = [x] ∧ set.holds x = true := by
  constructor
  · intro h
    cases h with
    | oneOf hx h => exact ⟨_, by rw [takes_nil_iff.1 h], hx⟩
  · rintro ⟨x, rfl, hx⟩
    exact .oneOf hx .nil

theorem takes_anyRun_iff {u : List Char} : Takes [.anyRun] u ↔ ∀ x ∈ u, x ≠ '.' := by
  constructor
  · intro h
    cases h with
    | anyRun hrun h =>
      rw [takes_nil_iff.1 h, List.append_nil]
      exact hrun
  · intro h
    rw [← List.append_nil u]
    exact .anyRun h .nil

theorem takes_group_iff {alternatives : List (List Part)} {u : List Char} :
    Takes [.group alternatives] u ↔ ∃ ps ∈ alternatives, Takes ps u := by
  constructor
  · intro h
    cases h with
    | group hmem hv h =>
      rw [takes_nil_iff.1 h, List.append_nil]
      exact ⟨_, hmem, hv⟩
  · rintro ⟨ps, hmem, h⟩
    rw [← List.append_nil u]
    exact .group hmem h .nil

/-! ## Marks -/

/-- a place is marked in front of what is left of a text -/
def Marked (marks : Marks) (i : Nat) : Prop :=
  marks[i]? = some true

/-- texts of a language lead from the places marked in `marks` to those marked in `marks'` -/
structure Leads (s : List Char) (marks : Marks) (language : List Char → Prop) (marks' : Marks) : Prop where
  length_eq : marks'.length = s.length + 1
  marked_iff : ∀ j, Marked marks' j ↔ ∃ i v, Marked marks i ∧ language v ∧ v <+: s.drop i ∧ j = i + v.length

section Leads

variable {s : List Char} {marks marks' marks'' : Marks} {language language' : List Char → Prop}

theorem Leads.congr (h : Leads s marks language marks') (hiff : ∀ v, language v ↔ language' v) :
    Leads s marks language' marks' := by
  have heq : language = language' := funext fun v => propext (hiff v)
  exact heq ▸ h

theorem leads_refl (hlength : marks.length = s.length + 1) : Leads s marks (fun v => v = []) marks where
  length_eq := hlength
  marked_iff j := by
    constructor
    · intro hj
      exact ⟨j, [], hj, rfl, List.nil_prefix, rfl⟩
    · rintro ⟨i, v, hi, rfl, -, rfl⟩
      exact hi

theorem append_prefix_iff {v w t : List Char} : v ++ w <+: t ↔ v <+: t ∧ w <+: t.drop v.length := by
  constructor
  · rintro ⟨r, rfl⟩
    rw [List.append_assoc, List.drop_left]
    exact ⟨⟨w ++ r, rfl⟩, ⟨r, rfl⟩⟩
  · rintro ⟨⟨r, rfl⟩, hw⟩
    rw [List.drop_left] at hw
    exact (List.prefix_append_right_inj v).2 hw

/-- one language behind the other -/
theorem Leads.trans (h : Leads s marks language marks') (h' : Leads s marks' language' marks'') :
    Leads s marks (fun u => ∃ v w, u = v ++ w ∧ language v ∧ language' w) marks'' where
  length_eq := h'.length_eq
  marked_iff k := by
    rw [h'.marked_iff]
    constructor
    · rintro ⟨j, w, hj, hw, htail, rfl⟩
      obtain ⟨i, v, hi, hv, hhead, rfl⟩ := (h.marked_iff j).1 hj
      rw [← List.drop_drop] at htail
      exact ⟨i, v ++ w, hi, ⟨v, w, rfl, hv, hw⟩, append_prefix_iff.2 ⟨hhead, htail⟩, by
        rw [List.length_append, Nat.add_assoc]⟩
    · rintro ⟨i, _, hi, ⟨v, w, rfl, hv, hw⟩, hhead, rfl⟩
      obtain ⟨hhead, htail⟩ := append_prefix_iff.1 hhead
      rw [List.drop_drop] at htail
      exact ⟨i + v.length, w, (h.marked_iff _).2 ⟨i, v, hi, hv, hhead, rfl⟩, hw, htail, by
        rw [List.length_append, Nat.add_assoc]⟩

/-- either of two languages -/
theorem Leads.or (h : Leads s marks language marks') (h' : Leads s marks language' marks'') :
    Leads s marks (fun u => language u ∨ language' u) (List.zipWith (· || ·) marks' marks'') where
  length_eq := by rw [List.length_zipWith, h.length_eq, h'.length_eq, Nat.min_self]
  marked_iff j := by
    have hboth : Marked (List.zipWith (· || ·) marks' marks'') j ↔ Marked marks' j ∨ Marked marks'' j := by
      have hlength := h.length_eq.trans h'.length_eq.symm
      unfold Marked
      rw [List.getElem?_zipWith]
      by_cases hj : j < marks'.length
      · rw [List.getElem?_eq_getElem hj, List.getElem?_eq_getElem (hlength ▸ hj)]
        simp
      · rw [List.getElem?_eq_none (Nat.le_of_not_lt hj), List.getElem?_eq_none (hlength ▸ Nat.le_of_not_lt hj)]
        simp
    rw [hboth, h.marked_iff, h'.marked_iff]
    constructor
    · rintro (⟨i, v, hi, hv, hrest⟩ | ⟨i, v, hi, hv, hrest⟩)
      · exact ⟨i, v, hi, Or.inl hv, hrest⟩
      · exact ⟨i, v, hi, Or.inr hv, hrest⟩
    · rintro ⟨i, v, hi, hv | hv, hrest⟩
      · exact Or.inl ⟨i, v, hi, hv, hrest⟩
      · exact Or.inr ⟨i, v, hi, hv, hrest⟩

theorem leads_none (hlength : marks.length = s.length + 1) :
    Leads s marks (fun _ => False) (marks.map fun _ => false) where
  length_eq := by rw [List.length_map, hlength]
  marked_iff j := by
    unfold Marked
    rw [List.getElem?_map]
    cases marks[j]? <;> simp

theorem singleton_prefix_drop_iff {x : Char} {i : Nat} : [x] <+: s.drop i ↔ s[i]? = some x := by
  rw [← List.head?_drop]
  cases s.drop i with
  | nil => simp
  | cons c r => simp [List.cons_prefix_cons, eq_comm]

/-- one character of a kind -/
theorem leads_stepOver (takes : Char → Bool) (hlength : marks.length = s.length + 1) :
    Leads s marks (fun u => ∃ x, u = [x] ∧ takes x = true) (stepOver takes s marks) where
  length_eq := by
    rw [stepOver, List.length_cons, List.length_zipWith, hlength, Nat.min_eq_left (Nat.le_succ _)]
  marked_iff j := by
    have hsucc : ∀ i, Marked (stepOver takes s marks) (i + 1) ↔
        ∃ x m, s[i]? = some x ∧ marks[i]? = some m ∧ (m && takes x) = true := by
      intro i
      exact List.getElem?_zipWith_eq_some
    constructor
    · intro hj
      cases j with
      | zero => cases hj
      | succ i =>
        obtain ⟨x, m, hx, hm, htakes⟩ := (hsucc i).1 hj
        rw [Bool.and_eq_true] at htakes
        obtain ⟨rfl, htakes⟩ := htakes
        exact ⟨i, [x], hm, ⟨x, rfl, htakes⟩, singleton_prefix_drop_iff.2 hx, rfl⟩
    · rintro ⟨i, _, hi, ⟨x, rfl, htakes⟩, hhead, rfl⟩
      exact (hsucc i).2 ⟨x, true, singleton_prefix_drop_iff.1 hhead, hi, by rw [htakes, Bool.and_self]⟩

/-- what is carried to a text counts as a mark in front of it -/
theorem runOver_carried (carried m : Bool) (s : List Char) (ms : Marks) :
    runOver carried s (m :: ms) = runOver false s ((carried || m) :: ms) := by
  cases s <;> simp [runOver]

/-- a run of characters other than points -/
theorem leads_runOver (hlength : marks.length = s.length + 1) :
    Leads s marks (fun u => ∀ x ∈ u, x ≠ '.') (runOver false s marks) := by
  induction s generalizing marks with
  | nil =>
    obtain ⟨m, rfl⟩ := List.length_eq_one_iff.1 hlength
    refine ⟨by simp [runOver], fun j => ?_⟩
    rw [show runOver false [] [m] = [m] by simp [runOver]]
    constructor
    · intro hj
      exact ⟨j, [], hj, nofun, List.nil_prefix, rfl⟩
    · rintro ⟨i, v, hi, -, hhead, rfl⟩
      rw [List.drop_nil, List.prefix_nil] at hhead
      rw [hhead]
      exact hi
  | cons c r ih =>
    obtain ⟨m, ms, rfl⟩ := List.exists_cons_of_length_eq_add_one hlength
    obtain ⟨m', ms, rfl⟩ := List.exists_cons_of_length_eq_add_one (Nat.succ.inj hlength)
    have hstep : runOver false (c :: r) (m :: m' :: ms) =
        m :: runOver false r (((m && c != '.') || m') :: ms) := by
      rw [runOver, runOver_carried, Bool.false_or]
    rw [hstep]
    have hlength' : List.length (((m && c != '.') || m') :: ms) = r.length + 1 := Nat.succ.inj hlength
    obtain ⟨hrest_length, hrest⟩ := ih hlength'
    refine ⟨by rw [List.length_cons, hrest_length, List.length_cons], fun j => ?_⟩
    -- a run from in front of the first character has to cross it
    have hmarked : ∀ i, Marked (((m && c != '.') || m') :: ms) i ↔
        Marked (m' :: ms) i ∨ i = 0 ∧ m = true ∧ c ≠ '.' := by
      rintro (_ | i)
      · simp [Marked, or_comm]
      · simp [Marked]
    cases j with
    | zero =>
      constructor
      · intro hm
        exact ⟨0, [], hm, nofun, List.nil_prefix, rfl⟩
      · rintro ⟨i, v, hi, -, -, hj⟩
        rw [(Nat.add_eq_zero_iff.1 hj.symm).1] at hi
        exact hi
    | succ j =>
      show Marked (runOver false r _) j ↔ _
      rw [hrest]
      constructor
      · rintro ⟨i, v, hi, hv, hhead, rfl⟩
        rcases (hmarked i).1 hi with hi | ⟨rfl, hm, hc⟩
        · exact ⟨i + 1, v, hi, hv, hhead, by omega⟩
        · refine ⟨0, c :: v, hm ▸ rfl, List.forall_mem_cons.2 ⟨hc, hv⟩, ?_, by simp⟩
          exact List.cons_prefix_cons.2 ⟨rfl, hhead⟩
      · rintro ⟨i, v, hi, hv, hhead, hj⟩
        cases i with
        | zero =>
          obtain ⟨x, v, rfl⟩ := List.exists_cons_of_length_eq_add_one (hj.trans (Nat.zero_add _)).symm
          rw [List.drop_zero] at hhead
          obtain ⟨rfl, htail⟩ := List.cons_prefix_cons.1 hhead
          obtain ⟨hx, hv⟩ := List.forall_mem_cons.1 hv
          exact ⟨0, v, (hmarked 0).2 (Or.inr ⟨rfl, Option.some.inj hi, hx⟩), hv, htail, by simpa using hj⟩
        | succ i =>
          exact ⟨i, v, (hmarked i).2 (Or.inl hi), hv, hhead, by omega⟩

end Leads

mutual

/-- **A part leads where the texts lead that it takes.** -/
theorem Part.leads : ∀ (p : Part) {s : List Char} {marks : Marks}, marks.length = s.length + 1 →
    Leads s marks (Takes [p]) (p.advance s marks)
  | .char c, _, _, hlength => (leads_stepOver (· == c) hlength).congr fun _ => takes_char_iff.symm
  | .anyChar, _, _, hlength => (leads_stepOver (· != '.') hlength).congr fun _ => takes_anyChar_iff.symm
  | .anyRun, _, _, hlength => (leads_runOver hlength).congr fun _ => takes_anyRun_iff.symm
  | .oneOf set _, _, _, hlength => (leads_stepOver set.holds hlength).congr fun _ => takes_oneOf_iff.symm
  | .group alternatives, _, _, hlength =>
    (leads_advanceAny alternatives hlength).congr fun _ => takes_group_iff.symm

theorem leads_advanceAll : ∀ (ps : List Part) {s : List Char} {marks : Marks}, marks.length = s.length + 1 →
    Leads s marks (Takes ps) (advanceAll ps s marks)
  | [], _, _, hlength => (leads_refl hlength).congr fun _ => takes_nil_iff.symm
  | p :: ps, _, _, hlength =>
    have hp := Part.leads p hlength
    (hp.trans (leads_advanceAll ps hp.length_eq)).congr fun _ => takes_cons_iff.symm

theorem leads_advanceAny : ∀ (alternatives : List (List Part)) {s : List Char} {marks : Marks},
    marks.length = s.length + 1 →
    Leads s marks (fun u => ∃ ps ∈ alternatives, Takes ps u) (advanceAny alternatives s marks)
  | [], _, _, hlength => (leads_none hlength).congr fun _ => by simp
  | ps :: rest, _, _, hlength =>
    ((leads_advanceAll ps hlength).or (leads_advanceAny rest hlength)).congr fun _ => by simp

end

/-- **A glob accepts the names that it takes.** -/
theorem accepts_iff_takes {g : Glob} {name : String} : g.accepts name = true ↔ Takes g name.toList := by
  let marks : Marks := true :: List.replicate name.toList.length false
  obtain ⟨hlength, hmarked⟩ := leads_advanceAll g (show marks.length = name.toList.length + 1 by simp [marks])
  have hlast : g.accepts name = true ↔ Marked (advanceAll g name.toList marks) name.toList.length := by
    have hget : (advanceAll g name.toList marks).getLast? =
        (advanceAll g name.toList marks)[name.toList.length]? := by
      rw [List.getLast?_eq_getElem?, hlength, Nat.add_sub_cancel]
    unfold Marked
    rw [← hget]
    show (advanceAll g name.toList marks).getLastD false = true ↔ _
    rw [List.getLastD_eq_getLast?]
    cases (advanceAll g name.toList marks).getLast? <;> simp
  have hfirst : ∀ i, Marked marks i ↔ i = 0 := by
    rintro (_ | i) <;> simp [Marked, marks, List.getElem?_replicate]
  rw [hlast, hmarked]
  constructor
  · rintro ⟨i, v, hi, hv, hhead, heq⟩
    rw [(hfirst i).1 hi, List.drop_zero] at hhead
    rw [(hfirst i).1 hi, Nat.zero_add] at heq
    rw [← hhead.eq_of_length heq.symm]
    exact hv
  · intro h
    exact ⟨0, name.toList, (hfirst 0).2 rfl, h, List.prefix_rfl, (Nat.zero_add _).symm⟩

end MetricQuery.Glob
