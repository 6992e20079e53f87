/-
Which characters a set of ranges holds.

A set that is made of ranges holds what any of them holds. Membership is looked up in ascending ranges and stops at the
first that begins too late, so it is told range by range only where the ranges ascend; `CodeSet.Proper` says that they do
and that each begins at a scalar value, and every set that `CodeSet.ofRanges` makes is so.
-/
import Mathlib
import MetricQuery.Unicode.CodeSet

namespace MetricQuery.Unicode.CodeSet

/-- a range begins no later than another -/
def Before (r r' : Nat × Nat) : Prop :=
  r.1 ≤ r'.1

instance : DecidableRel Before :=
  fun r r' => inferInstanceAs (Decidable (r.1 ≤ r'.1))

/-- a code lies within a range -/
def Within (n : Nat) (r : Nat × Nat) : Prop :=
  r.1 ≤ n ∧ n ≤ r.2

/-- ranges that ascend, each from a scalar value on -/
structure Proper (s : CodeSet) : Prop where
  ascending : s.ranges.Pairwise Before
  scalar : ∀ r ∈ s.ranges, r.1.isValidChar

theorem inRanges_iff {n : Nat} {ranges : List (Nat × Nat)} (h : ranges.Pairwise Before) :
    inRanges n ranges = true ↔ ∃ r ∈ ranges, Within n r := by
  induction ranges with
  | nil => simp [inRanges]
  | cons r rest ih =>
    obtain ⟨lo, hi⟩ := r
    rw [List.pairwise_cons] at h
    rw [inRanges, List.exists_mem_cons_iff]
    split
    · -- whatever comes later begins too late as well
      rename_i hlo
      constructor
      · exact nofun
      · rintro (⟨hle, -⟩ | ⟨r, hr, hle, -⟩)
        · exact absurd hlo (Nat.not_lt.2 hle)
        · exact absurd hlo (Nat.not_lt.2 (Nat.le_trans (h.1 r hr) hle))
    · rename_i hlo
      rw [Bool.or_eq_true, decide_eq_true_iff, ih h.2]
      simp [Within, Nat.le_of_not_lt hlo]

theorem holds_iff {s : CodeSet} (h : s.Proper) {c : Char} : s.holds c = true ↔ ∃ r ∈ s.ranges, Within c.toNat r :=
  inRanges_iff h.ascending

theorem proper_empty : empty.Proper where
  ascending := List.Pairwise.nil
  scalar := nofun

/-! ## Joining -/

/-- joined ranges begin where ranges began that are joined -/
theorem fst_of_mem_joinFrom {lo hi : Nat} {ranges : List (Nat × Nat)} {r : Nat × Nat}
    (hr : r ∈ joinFrom lo hi ranges) : r.1 = lo ∨ ∃ r' ∈ ranges, r.1 = r'.1 := by
  induction ranges generalizing lo hi with
  | nil =>
    rw [joinFrom, List.mem_singleton] at hr
    exact Or.inl (congrArg Prod.fst hr)
  | cons r' rest ih =>
    rw [joinFrom] at hr
    split at hr
    · exact (ih hr).imp_right fun ⟨r'', hmem, heq⟩ => ⟨r'', List.mem_cons_of_mem _ hmem, heq⟩
    · rcases List.mem_cons.1 hr with rfl | hr
      · exact Or.inl rfl
      · rcases ih hr with heq | ⟨r'', hmem, heq⟩
        · exact Or.inr ⟨r', List.mem_cons_self, heq⟩
        · exact Or.inr ⟨r'', List.mem_cons_of_mem _ hmem, heq⟩

theorem pairwise_joinFrom {lo hi : Nat} {ranges : List (Nat × Nat)} (h : ((lo, hi) :: ranges).Pairwise Before) :
    (joinFrom lo hi ranges).Pairwise Before := by
  induction ranges generalizing lo hi with
  | nil => exact List.pairwise_singleton _ _
  | cons r rest ih =>
    obtain ⟨hlo, hrest⟩ := List.pairwise_cons.1 h
    obtain ⟨hhead, htail⟩ := List.forall_mem_cons.1 hlo
    rw [joinFrom]
    split
    · exact ih (List.pairwise_cons.2 ⟨htail, (List.pairwise_cons.1 hrest).2⟩)
    · refine List.pairwise_cons.2 ⟨fun r' hr' => ?_, ih hrest⟩
      rcases fst_of_mem_joinFrom hr' with heq | ⟨r'', hmem, heq⟩
      · exact hhead.trans_eq heq.symm
      · exact (htail r'' hmem).trans_eq heq.symm

theorem toNat_isValidChar (c : Char) : c.toNat.isValidChar :=
  c.valid

/-- a character behind the end of a range is no earlier than the scalar value behind that end -/
theorem codeAfter_le {hi : Nat} {c : Char} (h : hi < c.toNat) : codeAfter hi ≤ c.toNat := by
  rcases toNat_isValidChar c with hlow | ⟨hhigh, -⟩
  · unfold codeAfter
    split <;> omega
  · unfold codeAfter
    split <;> omega

/-- ranges that touch hold together what they hold when they are joined -/
theorem exists_within_joinFrom {lo hi : Nat} {ranges : List (Nat × Nat)} (h : ((lo, hi) :: ranges).Pairwise Before)
    {c : Char} :
    (∃ r ∈ joinFrom lo hi ranges, Within c.toNat r) ↔ ∃ r ∈ (lo, hi) :: ranges, Within c.toNat r := by
  induction ranges generalizing lo hi with
  | nil => exact Iff.rfl
  | cons r rest ih =>
    obtain ⟨lo', hi'⟩ := r
    obtain ⟨hlo, hrest⟩ := List.pairwise_cons.1 h
    obtain ⟨hhead, htail⟩ := List.forall_mem_cons.1 hlo
    rw [joinFrom]
    split
    · rename_i htouch
      have hwide : ((lo, max hi hi') :: rest).Pairwise Before :=
        List.pairwise_cons.2 ⟨htail, (List.pairwise_cons.1 hrest).2⟩
      have hboth : Within c.toNat (lo, max hi hi') ↔ Within c.toNat (lo, hi) ∨ Within c.toNat (lo', hi') := by
        have hle : lo ≤ lo' := hhead
        have hafter := @codeAfter_le hi c
        simp only [Within]
        omega
      rw [ih hwide]
      simp only [List.exists_mem_cons_iff, hboth, or_assoc]
    · rw [List.exists_mem_cons_iff, ih hrest, ← List.exists_mem_cons_iff]

/-! ## Sets of ranges -/

theorem pairwise_mergeSort_startsFirst (ranges : List (Nat × Nat)) : (ranges.mergeSort startsFirst).Pairwise Before := by
  have htrans : ∀ a b c : Nat × Nat, startsFirst a b = true → startsFirst b c = true → startsFirst a c = true := by
    simp only [startsFirst, decide_eq_true_iff]
    exact fun a b c hab hbc => Nat.le_trans hab hbc
  have htotal : ∀ a b : Nat × Nat, (startsFirst a b || startsFirst b a) = true := by
    simp only [startsFirst, Bool.or_eq_true, decide_eq_true_iff]
    exact fun a b => Nat.le_total a.1 b.1
  exact (List.pairwise_mergeSort htrans htotal ranges).imp fun h => of_decide_eq_true h

theorem proper_ofAscending {ranges : List (Nat × Nat)} (h : ranges.Pairwise Before)
    (hscalar : ∀ r ∈ ranges, r.1.isValidChar) : (ofAscending ranges).Proper := by
  cases ranges with
  | nil => exact proper_empty
  | cons r rest =>
    obtain ⟨lo, hi⟩ := r
    refine ⟨pairwise_joinFrom h, fun r hr => ?_⟩
    obtain ⟨hhead, htail⟩ := List.forall_mem_cons.1 hscalar
    rcases fst_of_mem_joinFrom hr with heq | ⟨r', hmem, heq⟩
    · exact heq ▸ hhead
    · exact heq ▸ htail r' hmem

theorem proper_ofRanges {ranges : List (Nat × Nat)} (h : ∀ r ∈ ranges, r.1.isValidChar) : (ofRanges ranges).Proper :=
  proper_ofAscending (pairwise_mergeSort_startsFirst ranges) fun r hr => h r (List.mem_mergeSort.1 hr)

/-- **A set made of ranges holds what lies within any of them.** -/
theorem holds_ofRanges {ranges : List (Nat × Nat)} {c : Char} :
    (ofRanges ranges).holds c = true ↔ ∃ r ∈ ranges, Within c.toNat r := by
  have hsorted := pairwise_mergeSort_startsFirst ranges
  have hmem : (∃ r ∈ ranges.mergeSort startsFirst, Within c.toNat r) ↔ ∃ r ∈ ranges, Within c.toNat r := by
    simp only [List.mem_mergeSort]
  rw [← hmem, ofRanges]
  revert hsorted
  cases ranges.mergeSort startsFirst with
  | nil => simp [ofAscending, empty, holds, holdsCode, inRanges]
  | cons r rest =>
    intro hsorted
    exact (inRanges_iff (pairwise_joinFrom hsorted)).trans (exists_within_joinFrom hsorted)

theorem proper_ofCodes {cs : List Char} : (ofCodes (cs.map Char.toNat)).Proper := by
  refine proper_ofRanges fun r hr => ?_
  simp only [List.mem_map] at hr
  obtain ⟨_, ⟨c, -, rfl⟩, rfl⟩ := hr
  exact toNat_isValidChar c

theorem holds_ofCodes {cs : List Char} {c : Char} : (ofCodes (cs.map Char.toNat)).holds c = true ↔ c ∈ cs := by
  have hwithin : ∀ d : Char, Within c.toNat (d.toNat, d.toNat) ↔ d = c := by
    intro d
    rw [← Char.toNat_inj]
    simp only [Within]
    omega
  rw [ofCodes, holds_ofRanges]
  simp [hwithin]

theorem proper_ofSets {sets : List CodeSet} (h : ∀ s ∈ sets, s.Proper) : (ofRanges (sets.flatMap ranges)).Proper := by
  refine proper_ofRanges fun r hr => ?_
  obtain ⟨s, hs, hr⟩ := List.mem_flatMap.1 hr
  exact (h s hs).scalar r hr

theorem holds_ofSets {sets : List CodeSet} (h : ∀ s ∈ sets, s.Proper) {c : Char} :
    (ofRanges (sets.flatMap ranges)).holds c = true ↔ ∃ s ∈ sets, s.holds c = true := by
  rw [holds_ofRanges]
  constructor
  · rintro ⟨r, hr, hc⟩
    obtain ⟨s, hs, hr⟩ := List.mem_flatMap.1 hr
    exact ⟨s, hs, (holds_iff (h s hs)).2 ⟨r, hr, hc⟩⟩
  · rintro ⟨s, hs, hc⟩
    obtain ⟨r, hr, hc⟩ := (holds_iff (h s hs)).1 hc
    exact ⟨r, List.mem_flatMap.2 ⟨s, hs, hr⟩, hc⟩

end MetricQuery.Unicode.CodeSet
