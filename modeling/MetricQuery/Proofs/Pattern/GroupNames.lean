/-
The names of groups in a pattern.

A name is read at one place, where its first character must be `_` or a letter (`ensures_readGroupName`). All else that
is read of a pattern keeps the names met so far (`readersKeepNames`), so every name in a pattern begins like that
(`named_of_parse`), and none consists of digits (`lookup_names_digits`).
-/
import MetricQuery.Proofs.Pattern.Reading
import MetricQuery.Proofs.Result
import MetricQuery.Proofs.Time.Interval

namespace MetricQuery.Pattern

/-! ## Reading a name -/

/-- each of the names begins as a name may -/
def Named (names : List (String × Nat)) : Prop :=
  ∀ p ∈ names, ∃ c ∈ p.1.toList.head?, isNameStart c = true

theorem Named.nil : Named [] := by
  intro p hp
  cases hp

theorem Named.append {names : List (String × Nat)} (h : Named names) {name : String}
    (hname : ∃ c ∈ name.toList.head?, isNameStart c = true) (index : Nat) : Named (names ++ [(name, index)]) := by
  intro p hp
  rcases List.mem_append.1 hp with hp | hp
  · exact h p hp
  · rw [List.mem_singleton.1 hp]
    exact hname

theorem ensures_readGroupName (names : List (String × Nat)) (s : List Char) :
    Ensures (readGroupName names s) fun x => ∃ c ∈ x.1.toList.head?, isNameStart c = true := by
  unfold readGroupName
  dsimp only
  split
  · rename_i c cs _ r _ _
    split
    · rename_i hname
      simp only [Bool.and_eq_true] at hname
      refine .ok ⟨c, ?_, hname.1.1⟩
      rw [String.toList_ofList]
      rfl
    · exact .error _ _
  · exact .error _ _

/-- what a group begins with keeps names well formed -/
theorem ensures_readOpening (i : Cursor) (h : Named i.names) :
    Ensures (readOpening i) fun x => Named (i.enter x.1 x.2).names := by
  unfold readOpening
  split
  · exact .error _ _
  · exact .error _ _
  · exact .error _ _
  · exact .error _ _
  · exact (ensures_readGroupName _ _).bind fun x hx => .ok (h.append hx _)
  · exact (ensures_readGroupName _ _).bind fun x hx => .ok (h.append hx _)
  · exact .error _ _
  · split
    · exact .ok h
    · exact .ok h
    · exact .error _ _
  · exact .ok h

/-! ## Reading a pattern -/

/-- what a reader of part of a pattern leaves, if it succeeds, has well-formed names -/
abbrev KeepsNames {α : Type} (x : Except Fault (α × Cursor)) : Prop :=
  Ensures x fun a => Named a.2.names

theorem keepsNames_closeGroup {j : Cursor} (h : Named j.names) (i : Cursor) (wrap : Node → Node) (p : Part) :
    KeepsNames (closeGroup i wrap p j) := by
  unfold closeGroup
  split
  · exact .ok h
  · exact .error _ _

/-- the four readers keep names well formed when they have so much fuel -/
structure ReadersKeepNames (fuel : Nat) : Prop where
  branches : ∀ levels i, Named i.names → KeepsNames (readBranches fuel levels i)
  sequence : ∀ levels before i, Named i.names → KeepsNames (readSequence fuel levels before i)
  part : ∀ levels c i, Named i.names → KeepsNames (readPart fuel levels c i)
  group : ∀ levels i, Named i.names → KeepsNames (readGroup fuel levels i)

namespace ReadersKeepNames

theorem zero : ReadersKeepNames 0 where
  branches levels i _ := by
    rw [readBranches]
    exact .error _ _
  sequence levels before i _ := by
    rw [readSequence]
    exact .error _ _
  part levels c i _ := by
    rw [readPart]
    exact .error _ _
  group levels i _ := by
    rw [readGroup]
    exact .error _ _

variable {fuel : Nat} (h : ReadersKeepNames fuel) {i : Cursor} (hi : Named i.names) (levels : Nat)
include h hi

theorem readBranches_succ : KeepsNames (readBranches (fuel + 1) levels i) := by
  rw [readBranches]
  refine (h.sequence levels [] i hi).bind fun x hx => ?_
  dsimp only
  split
  · rename_i r _
    refine (h.branches levels (x.2.at r) hx).bind fun y hy => ?_
    exact .ok hy
  · exact .ok hx

theorem readSequence_succ (before : List Part) : KeepsNames (readSequence (fuel + 1) levels before i) := by
  rw [readSequence]
  dsimp only
  split
  · exact .ok hi
  · rename_i c r _
    split
    · exact .ok hi
    · refine (h.part levels c (i.skip.at r) hi).bind fun x hx => ?_
      refine Ensures.skip fun y => ?_
      exact h.sequence levels (y.1 :: before) (x.2.at y.2) hx

theorem readPart_succ (c : Char) : KeepsNames (readPart (fuel + 1) levels c i) := by
  rw [readPart]
  split_ifs
  · exact h.group levels i hi
  · exact Ensures.skip fun x => .ok hi
  · refine Ensures.skip fun x => ?_
    split
    · exact Ensures.skip fun y => .ok hi
    · exact .ok hi
    · exact .ok hi
  · exact Ensures.skip fun x => .ok hi
  · exact .ok hi
  · exact .ok hi
  · exact .error _ _
  · exact Ensures.skip fun x => .ok hi

/-- only here a name may come to those met before -/
theorem readGroup_succ : KeepsNames (readGroup (fuel + 1) levels i) := by
  rw [readGroup]
  refine (ensures_readOpening i.skip hi).bind fun x hx => ?_
  dsimp only
  split
  · exact .ok hi
  · exact .error _ _
  · exact (h.branches _ _ hx).bind fun y hy => keepsNames_closeGroup hy i _ _

end ReadersKeepNames

/-- **What is read of a pattern keeps its names well formed**, by induction on the fuel that the readers share. -/
theorem readersKeepNames (fuel : Nat) : ReadersKeepNames fuel := by
  induction fuel with
  | zero => exact .zero
  | succ fuel ih =>
    constructor
    · exact fun levels i hi => ih.readBranches_succ hi levels
    · exact fun levels before i hi => ih.readSequence_succ hi levels before
    · exact fun levels c i hi => ih.readPart_succ hi levels c
    · exact fun levels i hi => ih.readGroup_succ hi levels

/-! ## Whole patterns -/

theorem named_of_parse {text : String} {tree : Tree} (h : parse text = .ok tree) : Named tree.names := by
  revert h
  suffices hread : Ensures (parse text) fun tree => Named tree.names from fun h => hread tree h
  unfold parse
  refine ((readersKeepNames _).branches nestingLimit _ Named.nil).bind fun x hx => ?_
  dsimp only
  split_ifs
  · exact .error _ _
  · exact .error _ _
  · exact .error _ _
  · exact .ok hx

/-- a name does not begin with a digit -/
theorem isDigit_eq_false_of_isNameStart {c : Char} (h : isNameStart c = true) : c.isDigit = false := by
  rw [Bool.eq_false_iff]
  intro hdigit
  rcases Bool.or_eq_true_iff.1 h with hline | hletter
  · rw [beq_iff_eq] at hline
    rw [hline] at hdigit
    cases hdigit
  · have hsmall : c.val < 128 := by
      simp only [Char.isDigit, Bool.and_eq_true, decide_eq_true_eq] at hdigit
      exact UInt32.lt_of_le_of_lt hdigit.2 (by decide)
    rw [Text.isAlphabetic, if_pos hsmall, Time.isAlpha_eq_false_of_isDigit hdigit] at hletter
    cases hletter

/-- **No group of a pattern has digits for its name.** -/
theorem lookup_names_digits {search : String} {regex : Regex} (h : compile search = .ok regex) {digits : List Char}
    (hdigits : ∀ d ∈ digits, d.isDigit = true) : regex.names.lookup (String.ofList digits) = none := by
  obtain ⟨tree, hparse, -, rfl⟩ := compile_eq_ok_iff.1 h
  rw [Tree.regex, List.lookup_eq_none_iff]
  intro p hp
  obtain ⟨c, hc, hstart⟩ := named_of_parse hparse p hp
  rw [bne_iff_ne]
  intro heq
  rw [← heq, String.toList_ofList] at hc
  have hdigit := hdigits c (List.mem_of_head? hc)
  rw [isDigit_eq_false_of_isNameStart hstart] at hdigit
  cases hdigit

end MetricQuery.Pattern
