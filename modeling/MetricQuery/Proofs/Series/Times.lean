/-
Samples told by their times.

Functions on many series work on lists and indices; what they mean is told by times. `sampleAt?` is the sample of a
series at a time and `samplesIn` are its samples in a window, both read off its `samples`. A series that is padded with
missing samples in whole steps has every sample at the time it had (`Padded`), and nothing present at any other.
-/
import MetricQuery.Proofs.Series.Runs

namespace MetricQuery.Series

/-! ## Times of samples -/

theorem timestamp_injective {s : Series} (hstep : 0 < s.step) {i j : Nat} (h : s.timestamp i = s.timestamp j) :
    i = j := by
  have hmul : (i : Int) * s.step = j * s.step := Int.add_left_cancel h
  exact_mod_cast Int.eq_of_mul_eq_mul_right hstep.ne' hmul

theorem mem_samples_iff {s : Series} {p : Int × Float} :
    p ∈ s.samples ↔ ∃ i, s.values[i]? = some p.2 ∧ p.1 = s.timestamp i := by
  constructor
  · intro hp
    obtain ⟨⟨v, i⟩, hv, rfl⟩ := List.mem_map.1 hp
    exact ⟨i, List.mk_mem_zipIdx_iff_getElem?.1 hv, rfl⟩
  · rintro ⟨i, hv, ht⟩
    exact List.mem_map.2 ⟨(p.2, i), List.mk_mem_zipIdx_iff_getElem?.2 hv, Prod.ext ht.symm rfl⟩

/-- the sample at a time, if there is one -/
def sampleAt? (s : Series) (t : Int) : Option Float :=
  s.samples.lookup t

theorem lookup_zipIdx {f : Nat → Int} (hf : Function.Injective f) (xs : List Float) (n i : Nat) :
    ((xs.zipIdx n).map fun (v, j) => (f j, v)).lookup (f (n + i)) = xs[i]? := by
  induction xs generalizing n i with
  | nil => rfl
  | cons x xs ih =>
    rw [List.zipIdx_cons, List.map_cons, List.lookup_cons]
    cases i with
    | zero => simp
    | succ i =>
      have hne : f (n + (i + 1)) ≠ f n := by
        intro heq
        have := hf heq
        omega
      rw [beq_false_of_ne hne, List.getElem?_cons_succ, ← ih (n + 1) i, Nat.add_right_comm n 1 i, Nat.add_assoc]

theorem sampleAt?_timestamp {s : Series} (hstep : 0 < s.step) (i : Nat) :
    s.sampleAt? (s.timestamp i) = s.values[i]? := by
  have hlookup := lookup_zipIdx (fun _ _ => timestamp_injective hstep) s.values 0 i
  rwa [Nat.zero_add] at hlookup

theorem sampleAt?_eq_none {s : Series} {t : Int} (h : ∀ i, t ≠ s.timestamp i) : s.sampleAt? t = none := by
  rw [sampleAt?, List.lookup_eq_none_iff]
  intro p hp
  obtain ⟨i, -, hi⟩ := mem_samples_iff.1 hp
  rw [hi, bne_iff_ne]
  exact h i

theorem sampleAt?_eq_none_of_lt {s : Series} (hstep : 0 < s.step) {t : Int} (h : t < s.start) :
    s.sampleAt? t = none := by
  refine sampleAt?_eq_none fun i heq => ?_
  have hnonneg := Int.mul_nonneg (Int.natCast_nonneg i) hstep.le
  rw [heq, timestamp] at h
  omega

/-- the samples with times in a window, in order -/
def samplesIn (s : Series) (w : Time.Window) : List Float :=
  (s.samples.filter fun p => w.start ≤ p.1 ∧ p.1 < w.stop).map Prod.snd

/-- `o` is `s` with missing samples in front and behind, every sample at its time -/
def Padded (s o : Series) : Prop :=
  ∃ lead trail : Nat,
    o = s.onGrid (s.start - lead * s.step) s.step (missing lead ++ s.values ++ missing trail)

theorem missing_append (n m : Nat) : missing n ++ missing m = missing (n + m) := List.replicate_append_replicate

theorem length_missing (n : Nat) : (missing n).length = n := List.length_replicate

theorem Consistent.onGrid_self {s : Series} (hs : s.Consistent) : s.onGrid s.start s.step s.values = s := by
  have hstop : s.start + s.values.length * s.step = s.stop := by
    rw [← hs.2]
    omega
  rw [onGrid, hstop]

theorem Padded.refl {s : Series} (hs : s.Consistent) : Padded s s := by
  refine ⟨0, 0, ?_⟩
  simp [missing, hs.onGrid_self]

theorem Padded.trans {s o u : Series} (h : Padded s o) (h' : Padded o u) : Padded s u := by
  obtain ⟨lead, trail, rfl⟩ := h
  obtain ⟨lead', trail', rfl⟩ := h'
  refine ⟨lead' + lead, trail + trail', ?_⟩
  have hstart : s.start - lead * s.step - lead' * s.step = s.start - (lead' + lead : Nat) * s.step := by
    push_cast
    ring
  rw [← missing_append lead' lead, ← missing_append trail trail']
  simp only [onGrid, List.append_assoc, hstart]

theorem present_missing_getElem? (n i : Nat) : ((missing n)[i]?).filter (fun x => !x.isNaN) = none := by
  rw [missing, List.getElem?_replicate]
  split
  · rw [Option.filter_some, if_neg (by decide)]
  · rfl

theorem present_append_missing (xs : List Float) (n i : Nat) :
    ((xs ++ missing n)[i]?).filter (fun x => !x.isNaN) = (xs[i]?).filter fun x => !x.isNaN := by
  by_cases hi : i < xs.length
  · rw [List.getElem?_append_left hi]
  · have hbehind : xs.length ≤ i := by omega
    rw [List.getElem?_append_right hbehind, List.getElem?_eq_none hbehind, present_missing_getElem?]
    rfl

section Padded

variable {s o : Series} (h : Padded s o)
include h

/-- **Padding adds nothing that is present**: what is at an index of the padded series is what was at that time. -/
theorem Padded.present_getElem? (hstep : 0 < s.step) (i : Nat) :
    (o.values[i]?).filter (fun x => !x.isNaN) = (s.sampleAt? (o.timestamp i)).filter fun x => !x.isNaN := by
  obtain ⟨lead, trail, rfl⟩ := h
  simp only [onGrid, List.append_assoc]
  by_cases hlead : i < lead
  · have hbefore : s.start - lead * s.step + i * s.step < s.start := by
      have hlt : (i : Int) * s.step < lead * s.step := Int.mul_lt_mul_of_pos_right (by omega) hstep
      omega
    rw [timestamp, sampleAt?_eq_none_of_lt hstep hbefore, List.getElem?_append_left (by rwa [length_missing]),
      present_missing_getElem?]
    rfl
  · obtain ⟨j, rfl⟩ := Nat.exists_eq_add_of_le (Nat.le_of_not_lt hlead)
    have htime : s.start - lead * s.step + (lead + j : Nat) * s.step = s.timestamp j := by
      rw [timestamp]
      push_cast
      ring
    rw [timestamp, htime, sampleAt?_timestamp hstep, List.getElem?_append_right (by rw [length_missing]; omega),
      length_missing, Nat.add_sub_cancel_left, present_append_missing]

end Padded

end MetricQuery.Series
