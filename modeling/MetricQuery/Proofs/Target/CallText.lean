/-
Calls as they stand in a text: a name, an opening parenthesis, arguments and the closing one.

In front of a parenthesis a name of name characters is read as just that name, unless it is a number
(`operand_of_callText`); a name that is read so in front of some arguments is read so in front of any (`Heads`).
`Reads.pipes_cases` tells an expression with applications behind it from one without, and `piped_of_callText` takes the
text of a call apart into the call and what is applied to it.
-/
import MetricQuery.Proofs.Target.WholeText

namespace MetricQuery.Target

open Text

/-! ## Applications -/

/-- what applications come to is a call, or there were none -/
theorem Reads.pipes_cases {lhs e : Expr} {p q : Bool} {s a : List Char} (h : Reads (.pipes lhs p e q) s a) :
    (e = lhs ∧ q = p ∧ a = skipSpaces s) ∨ (q = true ∧ ∃ c : Call, e = c.toExpr) := by
  generalize hi : Item.pipes lhs p e q = i at h
  induction h generalizing lhs p with
  | stop h =>
    cases hi
    exact Or.inl ⟨rfl, rfl, rfl⟩
  | bar hs hc h _ ih =>
    cases hi
    right
    rcases ih rfl with ⟨he, hq, -⟩ | hcall
    · exact ⟨hq, _, he⟩
    · exact hcall
  | _ => cases hi

theorem Reads.piped_cases {e : Expr} {p : Bool} {s a : List Char} (h : Reads (.piped e p) s a) :
    (p = false ∧ ∃ mid, Reads (.operand e) s mid ∧ a = skipSpaces mid) ∨ (p = true ∧ ∃ c : Call, e = c.toExpr) := by
  cases h with
  | @piped _ e' mid _ _ _ he h =>
    rcases h.pipes_cases with ⟨rfl, hp, ha⟩ | hcall
    · exact Or.inl ⟨hp, mid, he, ha⟩
    · exact Or.inr hcall

/-! ## Names in front of arguments -/

/-- the text of a call -/
def callText (n args : String) : String :=
  n ++ "(" ++ args ++ ")"

theorem toList_callText (n args : String) :
    (callText n args).toList = n.toList ++ '(' :: (args.toList ++ [')']) := by
  simp [callText]

/-- a name that is read as such in front of any arguments -/
def Heads (n : List Char) : Prop :=
  ∀ t, ∃ c r, Bare (n ++ '(' :: t) c r n ('(' :: t)

namespace Heads

variable {n : List Char} (h : Heads n)
include h

theorem reads_empty {t rest : List Char} (ht : skipSpaces t = ')' :: rest) :
    Reads (.operand (Call.mk (String.ofList n) [] [] "").toExpr) (n ++ '(' :: t) rest := by
  obtain ⟨c, r, hbare⟩ := h t
  exact .emptyCall hbare ht

theorem reads_call {acc : ArgList} {t rest : List Char} (hargs : Reads (.args {} acc) t rest) :
    Reads (.operand (acc.toCall (String.ofList n)).toExpr) (n ++ '(' :: t) rest := by
  obtain ⟨c, r, hbare⟩ := h t
  obtain ⟨d, u, hd, -, hclose⟩ := hargs.starts
  refine .call hbare (fun after hafter => ?_) hargs
  rw [hd] at hafter
  exact hclose (List.cons.inj hafter).1

end Heads

section NameChars

variable {n : List Char} (hn : ∀ c ∈ n, isNameChar c = true)
include hn

/-- a name of name characters ends in front of a parenthesis -/
theorem Scans.eq_of_nameChars {t name rest : List Char} (h : Scans 0 (n ++ '(' :: t) name rest) :
    name = n ∧ rest = '(' :: t := by
  induction n generalizing name with
  | nil =>
    cases h with
    | stop _ _ => exact ⟨rfl, rfl⟩
    | char hc _ => cases hc
  | cons c n ih =>
    have hc : isNameChar c = true := hn c List.mem_cons_self
    have ih' : ∀ name, Scans 0 (n ++ '(' :: t) name rest → name = n ∧ rest = '(' :: t :=
      fun _ => ih fun d hd => hn d (List.mem_cons_of_mem c hd)
    rw [List.cons_append] at h
    generalize n ++ '(' :: t = s at h ih'
    cases h with
    | stop hs _ => simp [Target.goesOn, hc] at hs
    | lastEscape => cases hc
    | escape _ _ => cases hc
    | char _ h =>
      obtain ⟨rfl, hrest⟩ := ih' _ h
      exact ⟨rfl, hrest⟩
    | openBrace _ => cases hc
    | equals _ _ => cases hc

theorem skipSpaces_callText (t : List Char) : skipSpaces (n ++ '(' :: t) = n ++ '(' :: t := by
  cases n with
  | nil => exact skipSpaces_cons rfl t
  | cons c n =>
    refine skipSpaces_cons (Bool.eq_false_iff.2 fun hspace => ?_) _
    have hc := hn c List.mem_cons_self
    simp only [isSpace, Bool.or_eq_true, beq_iff_eq] at hspace
    rcases hspace with ((rfl | rfl) | rfl) | rfl <;> cases hc

theorem Bare.eq_of_nameChars {t name rest r : List Char} {c : Char} (h : Bare (n ++ '(' :: t) c r name rest) :
    name = n ∧ rest = '(' :: t ∧ Heads n := by
  have hscan := h.scans
  rw [← h.starts, skipSpaces_callText hn] at hscan
  obtain ⟨rfl, rfl⟩ := hscan.eq_of_nameChars hn
  refine ⟨rfl, rfl, fun t' => ?_⟩
  obtain ⟨v, hv, hread⟩ := h.replace
  cases List.append_cancel_right hv
  obtain ⟨r', hbare⟩ := hread ('(' :: t') (Follows.cons (by decide) t t').ends (by simp)
  exact ⟨c, r', hbare⟩

/-- a number in front of a parenthesis takes the whole of a name -/
theorem eq_of_readNumber_callText {t rest : List Char} {e : Expr} (h : readNumber (n ++ '(' :: t) = some (e, rest)) :
    rest = '(' :: t := by
  obtain ⟨x, v, -, hsplit, hrun, hgo, -⟩ := readNumber_append h
  rcases List.append_eq_append_iff.1 hsplit with ⟨w, rfl, hw⟩ | ⟨w, rfl, rfl⟩
  · cases w with
    | nil => exact hw.symm
    | cons d w =>
      obtain ⟨rfl, -⟩ := List.cons.inj hw
      have hparen := hrun '(' (by simp)
      cases hparen
  · cases w with
    | nil => rfl
    | cons d w =>
      have hd := hn d (by simp)
      simp [goesOn, hd] at hgo

/-- **What is read from the text of a call**: the call without arguments or with some, or a number in front of it. -/
theorem operand_of_callText {t rest : List Char} {e : Expr} (h : Reads (.operand e) (n ++ '(' :: t) rest) :
    rest = '(' :: t ∨ Heads n ∧
      ((skipSpaces t = ')' :: rest ∧ e = (Call.mk (String.ofList n) [] [] "").toExpr) ∨
        ∃ acc, Reads (.args {} acc) t rest ∧ e = (acc.toCall (String.ofList n)).toExpr) := by
  cases h with
  | string q hs h =>
    rw [skipSpaces_callText hn] at hs
    cases n with
    | nil => cases q <;> cases hs
    | cons c n =>
      have hc := hn c List.mem_cons_self
      obtain ⟨rfl, -⟩ := List.cons.inj hs
      cases q <;> cases hc
  | number hs hc h =>
    rw [← hs, skipSpaces_callText hn] at h
    exact Or.inl (eq_of_readNumber_callText hn h)
  | name h hparen =>
    obtain ⟨-, hrest, -⟩ := h.eq_of_nameChars hn
    exact absurd hrest (hparen t)
  | emptyCall h hclose =>
    obtain ⟨rfl, hinner, hheads⟩ := h.eq_of_nameChars hn
    cases hinner
    exact Or.inr ⟨hheads, Or.inl ⟨hclose, rfl⟩⟩
  | call h hopen hargs =>
    obtain ⟨rfl, hinner, hheads⟩ := h.eq_of_nameChars hn
    cases hinner
    exact Or.inr ⟨hheads, Or.inr ⟨_, hargs, rfl⟩⟩

/-- **What is read from the text of a call to its end**: the call, and what is applied to it. -/
theorem piped_of_callText {t : List Char} {e : Expr} {p : Bool} (h : Reads (.piped e p) (n ++ '(' :: t) []) :
    Heads n ∧ ∃ (c : Call) (mid : List Char), Reads (.pipes c.toExpr false e p) mid [] ∧
      ((skipSpaces t = ')' :: mid ∧ c = Call.mk (String.ofList n) [] [] "") ∨
        ∃ acc, Reads (.args {} acc) t mid ∧ c = acc.toCall (String.ofList n)) := by
  cases h with
  | @piped _ _ mid _ _ _ he h =>
    rcases operand_of_callText hn he with rfl | ⟨hheads, ⟨hclose, rfl⟩ | ⟨acc, hargs, rfl⟩⟩
    · -- no application starts with a parenthesis
      cases (h.pipes_of_cons rfl (by decide)).1
    · exact ⟨hheads, _, mid, h, Or.inl ⟨hclose, rfl⟩⟩
    · exact ⟨hheads, _, mid, h, Or.inr ⟨acc, hargs, rfl⟩⟩

end NameChars

/-- the text of a call ends in its parenthesis, so nothing is left behind what is read from it -/
theorem reads_callText {n args : String} {e : Expr} (h : parse (callText n args) = .ok e) :
    ∃ p, Reads (.piped e p) (n.toList ++ '(' :: (args.toList ++ [')'])) [] := by
  obtain ⟨p, rest, hread, htrim⟩ := parse_eq_ok.1 h
  obtain ⟨v, hv, -⟩ := hread.replace
  rw [toList_callText] at hread hv
  have hnil : rest = [] := eq_nil_of_trimStart (s := n.toList ++ '(' :: args.toList) (by simpa using hv) rfl htrim
  exact ⟨p, hnil ▸ hread⟩

end MetricQuery.Target
