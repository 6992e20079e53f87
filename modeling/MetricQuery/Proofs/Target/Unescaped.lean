/-
Targets without escapes in their names.

A backslash in a name stands for the character behind it and is not kept, so a name can be written again only if it
has none. `unescapedFrom` says that a text has no backslash outside its quoted literals; the text behind whatever is
read from it has none either (`Reads.unescaped`), and a name is the very text it is read from (`Scans.plain`).
-/
import MetricQuery.Proofs.Target.Context

namespace MetricQuery.Target

open Text

/-- whether no backslash stands outside quoted literals, for a text that starts inside a literal with the given quote,
or outside of any -/
def unescapedFrom : Option Char → List Char → Bool
  | _, [] => true
  | none, c :: r => c != '\\' && unescapedFrom (if c = '\'' ∨ c = '"' then some c else none) r
  | some _, [_] => true
  | some q, c :: d :: r =>
    if c = q then unescapedFrom none (d :: r)
    else if c = '\\' ∧ d = q then unescapedFrom (some q) r
    else unescapedFrom (some q) (d :: r)

/-- no backslash stands outside quoted literals -/
def Unescaped (text : String) : Prop := unescapedFrom none text.toList = true

instance (text : String) : Decidable (Unescaped text) := by unfold Unescaped; infer_instance

example : Unescaped "alias(a|f('b\\'c'), d)" := by decide

theorem unescapedFrom_cons {c : Char} {r : List Char} (h : unescapedFrom none (c :: r) = true)
    (hc : c ≠ '\'' ∧ c ≠ '"') : c ≠ '\\' ∧ unescapedFrom none r = true := by
  rw [unescapedFrom, if_neg (by simp [hc]), Bool.and_eq_true, bne_iff_ne] at h
  exact h

theorem unescapedFrom_quote {q : Quote} {r : List Char} (h : unescapedFrom none (q.char :: r) = true) :
    unescapedFrom (some q.char) r = true := by
  rw [unescapedFrom, if_pos (by cases q <;> simp [Quote.char]), Bool.and_eq_true] at h
  exact h.2

/-- a text that has no quotes in it stays outside of literals -/
theorem unescapedFrom_append {u t : List Char} (hu : ∀ c ∈ u, c ≠ '\'' ∧ c ≠ '"')
    (h : unescapedFrom none (u ++ t) = true) : unescapedFrom none t = true := by
  induction u with
  | nil => exact h
  | cons c u ih =>
    refine ih (fun d hd => hu d (List.mem_cons_of_mem _ hd)) ?_
    exact (unescapedFrom_cons h (hu c List.mem_cons_self)).2

theorem ne_quote_of_isSpace {c : Char} (h : isSpace c = true) : c ≠ '\'' ∧ c ≠ '"' := by
  constructor
  · rintro rfl
    cases h
  · rintro rfl
    cases h

theorem ne_quote_of_isNameChar {c : Char} (h : isNameChar c = true) : c ≠ '\'' ∧ c ≠ '"' := by
  constructor
  · rintro rfl
    cases h
  · rintro rfl
    cases h

theorem unescapedFrom_skipSpaces {s t : List Char} (hs : skipSpaces s = t) (h : unescapedFrom none s = true) :
    unescapedFrom none t = true := by
  obtain ⟨u, hu, rfl⟩ := split_of_skipSpaces hs
  exact unescapedFrom_append (fun c hc => ne_quote_of_isSpace (hu c hc)) h

/-- behind a literal the text is outside of literals again -/
theorem unescapedFrom_scanString {q : Char} {s value a : List Char} (h : scanString q s = some (value, a))
    (hs : unescapedFrom (some q) s = true) : unescapedFrom none a = true := by
  fun_induction scanString q s generalizing value with
  | case1 => cases h
  | case2 => cases h; rfl
  | case3 => cases h
  | case4 d r =>
    cases h
    simpa [unescapedFrom] using hs
  | case5 c d r hc hd ih =>
    obtain ⟨⟨value', a'⟩, hscan, hpair⟩ := Option.map_eq_some_iff.1 h
    cases hpair
    rw [unescapedFrom, if_neg hc, if_pos hd] at hs
    exact ih hscan hs
  | case6 c d r hc hd ih =>
    obtain ⟨⟨value', a'⟩, hscan, hpair⟩ := Option.map_eq_some_iff.1 h
    cases hpair
    rw [unescapedFrom, if_neg hc, if_neg hd] at hs
    exact ih hscan hs

/-- **A name is the text it is read from** where that has no backslash. -/
theorem Scans.plain {n : Nat} {s name a : List Char} (h : Scans n s name a) (hs : unescapedFrom none s = true) :
    s = name ++ a ∧ '\\' ∉ name ∧ unescapedFrom none a = true := by
  have hcons : ∀ {c : Char} {r name a : List Char}, unescapedFrom none (c :: r) = true → c ≠ '\'' ∧ c ≠ '"' →
      (unescapedFrom none r = true → r = name ++ a ∧ '\\' ∉ name ∧ unescapedFrom none a = true) →
        c :: r = c :: name ++ a ∧ '\\' ∉ c :: name ∧ unescapedFrom none a = true := by
    intro c r name a hs hc ih
    obtain ⟨hslash, hr⟩ := unescapedFrom_cons hs hc
    obtain ⟨h1, h2, h3⟩ := ih hr
    exact ⟨by rw [h1]; rfl, by simp [h2, Ne.symm hslash], h3⟩
  induction h with
  | stop _ _ => exact ⟨rfl, by simp, hs⟩
  | lastEscape => cases hs
  | escape _ _ _ => cases hs
  | char hc _ ih => exact hcons hs (ne_quote_of_isNameChar hc) ih
  | openBrace _ ih => exact hcons hs ⟨by decide, by decide⟩ ih
  | closeBrace _ ih => exact hcons hs ⟨by decide, by decide⟩ ih
  | comma _ ih => exact hcons hs ⟨by decide, by decide⟩ ih
  | equals _ _ ih => exact hcons hs ⟨by decide, by decide⟩ ih

theorem Bare.unescaped {s r name a : List Char} {c : Char} (h : Bare s c r name a) (hs : unescapedFrom none s = true) :
    unescapedFrom none a = true :=
  (h.scans.plain (unescapedFrom_skipSpaces h.starts hs)).2.2

/-- behind an item the text has no escape either -/
theorem Reads.unescaped {i : Item} {s a : List Char} (h : Reads i s a) (hs : unescapedFrom none s = true) :
    unescapedFrom none a = true := by
  induction h with
  | string q hstart h => exact unescapedFrom_scanString h (unescapedFrom_quote (unescapedFrom_skipSpaces hstart hs))
  | number hstart hc h =>
    obtain ⟨x, v, -, rfl, hrun, -⟩ := readNumber_start hc h
    have hr := unescapedFrom_skipSpaces hstart hs
    rw [← List.cons_append] at hr
    exact unescapedFrom_append (fun d hd => ne_quote_of_isNameChar (isNameChar_of_isNumberChar (hrun d hd))) hr
  | name h _ => exact h.unescaped hs
  | emptyCall h hclose =>
    have hinner := (unescapedFrom_cons (h.unescaped hs) ⟨by decide, by decide⟩).2
    exact (unescapedFrom_cons (unescapedFrom_skipSpaces hclose hinner) ⟨by decide, by decide⟩).2
  | call h _ _ ih => exact ih (unescapedFrom_cons (h.unescaped hs) ⟨by decide, by decide⟩).2
  | stop _ => exact unescapedFrom_skipSpaces rfl hs
  | bar hbar _ _ ihc ih =>
    exact ih (ihc (unescapedFrom_cons (unescapedFrom_skipSpaces hbar hs) ⟨by decide, by decide⟩).2)
  | piped _ _ ihe ih => exact ih (ihe hs)
  | named _ _ _ _ ihkey ihvalue => exact ihvalue (unescapedFrom_cons (ihkey hs) ⟨by decide, by decide⟩).2
  | positional _ _ ih => exact ih hs
  | last _ hclose ih => exact (unescapedFrom_cons (unescapedFrom_skipSpaces hclose (ih hs)) ⟨by decide, by decide⟩).2
  | more _ hcomma _ ih ihmore =>
    exact ihmore (unescapedFrom_cons (unescapedFrom_skipSpaces hcomma (ih hs)) ⟨by decide, by decide⟩).2

end MetricQuery.Target
