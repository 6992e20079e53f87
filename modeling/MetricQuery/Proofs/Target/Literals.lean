/-
Truth values and truth words in the tree of a target.

A bare `true` or `false` is a truth value where it has a key and a string where it has a place, and a call has no key.
`Call.Normal` says so of one call. Arguments become so when they are read one by one (`positionalValue`, `namedValue`);
an application puts its left side in front of arguments without looking at it, so the first argument may still be a
bare truth word, but only where that word stands in front of a bar (`Applied`).

- `Reads.normal`: what is read from a text is normal. The induction is on the grammar, along the places that reading
  the text comes to.
- `parse_normal`: hence so is every call of a target.
- `truth_word_applied`: a first argument that an application put there can be a bare truth word.
-/
import MetricQuery.Proofs.Keyed
import MetricQuery.Proofs.Target.Faults
import MetricQuery.Proofs.Target.Tree
import MetricQuery.Proofs.Target.WholeText

namespace MetricQuery.Target

open Text

/-! ## Normal calls -/

/-- not a bare name that reads as a truth value -/
def Expr.NoTruthWord (e : Expr) : Prop :=
  ∀ path, e = .name path → isTruthWord path = false

/-- reading the text comes to an operand that is just this name, in front of a bar -/
def Applied (text : List Char) (path : String) : Prop :=
  ∃ s mid r, Relation.ReflTransGen Step (.expr text) (.operand s) ∧ Reads (.operand (.name path)) s mid ∧
    skipSpaces mid = '|' :: r

/-- what can be given under a key -/
def Expr.CanBeNamed (e : Expr) : Prop :=
  e.call? = none ∧ e.NoTruthWord

/-- a call whose arguments are what they should be read as, but for a truth word in front of a bar -/
structure Call.Normal (text : List Char) (c : Call) : Prop where
  noFlag : ∀ b, .flag b ∉ c.args
  named : ∀ p ∈ c.named, p.2.CanBeNamed
  behindFirst : ∀ e ∈ c.args.tail, e.NoTruthWord
  first : ∀ path, c.args.head? = some (.name path) → isTruthWord path = true → Applied text path

/-- an expression that is no truth value itself and has normal calls only -/
structure Expr.Normal (text : List Char) (e : Expr) : Prop where
  noFlag : ∀ b, e ≠ .flag b
  calls : ∀ c, Occurs c e → c.Normal text

theorem Occurs.call?_ne_none {c : Call} {e : Expr} (h : Occurs c e) : e.call? ≠ none := by
  cases h <;> simp [Call.toExpr, Expr.call?]

variable {text : List Char}

theorem Expr.normal_of_leaf {e : Expr} (hflag : ∀ b, e ≠ .flag b) (hcall : e.call? = none) : e.Normal text :=
  ⟨hflag, fun _ ho => absurd hcall ho.call?_ne_none⟩

theorem Call.Normal.toExpr {c : Call} (h : c.Normal text) (hargs : ∀ e ∈ c.args, e.Normal text) :
    c.toExpr.Normal text := by
  obtain ⟨f, args, named, argText⟩ := c
  refine ⟨fun b => Expr.noConfusion, fun c' ho => ?_⟩
  cases ho with
  | self => exact h
  | arg he ho => exact (hargs _ he).calls c' ho
  | named hp ho => exact absurd (h.named _ hp).1 ho.call?_ne_none

/-! ## Arguments -/

theorem noTruthWord_positionalValue (e : Expr) : (positionalValue e).NoTruthWord := by
  intro path hpath
  cases e with
  | name p =>
    rw [positionalValue] at hpath
    split_ifs at hpath with htruth
    cases hpath
    simpa using htruth
  | call _ _ _ _ | number _ _ | string _ _ | flag _ => cases hpath

theorem normal_positionalValue {e : Expr} (h : e.Normal text) : (positionalValue e).Normal text := by
  cases e with
  | name path =>
    rw [positionalValue]
    split_ifs
    · exact Expr.normal_of_leaf (by simp) rfl
    · exact h
  | call _ _ _ _ | number _ _ | string _ _ | flag _ => exact h

theorem canBeNamed_of_namedValue {e value : Expr} (h : namedValue e = some value) : value.CanBeNamed := by
  cases e with
  | name path =>
    rw [namedValue] at h
    split_ifs at h with htrue hfalse
    · cases h
      exact ⟨rfl, by simp [Expr.NoTruthWord]⟩
    · cases h
      exact ⟨rfl, by simp [Expr.NoTruthWord]⟩
    · cases h
      refine ⟨rfl, fun path' hpath => ?_⟩
      cases hpath
      simp [isTruthWord, htrue, hfalse]
  | call _ _ _ _ => cases h
  | number _ _ | string _ _ | flag _ =>
    cases h
    exact ⟨rfl, by simp [Expr.NoTruthWord]⟩

/-- arguments that are what they should be read as -/
structure ArgList.Normal (text : List Char) (acc : ArgList) : Prop where
  args : ∀ e ∈ acc.args, e.Normal text ∧ e.NoTruthWord
  named : ∀ p ∈ acc.named, p.2.CanBeNamed

theorem ArgList.Normal.withArg {acc : ArgList} (h : acc.Normal text) {e : Expr} (he : e.Normal text) (piece : String) :
    (acc.withArg e piece).Normal text := by
  refine ⟨fun a ha => ?_, h.named⟩
  rcases List.mem_append.1 ha with ha | ha
  · exact h.args a ha
  · rw [List.mem_singleton.1 ha]
    exact ⟨normal_positionalValue he, noTruthWord_positionalValue e⟩

theorem ArgList.Normal.withNamed {acc : ArgList} (h : acc.Normal text) {value : Expr} (hvalue : value.CanBeNamed)
    (key piece : String) : (acc.withNamed key value piece).Normal text := by
  refine ⟨h.args, fun p hp => ?_⟩
  rcases Keyed.mem_insert hp with rfl | hp
  · exact hvalue
  · exact h.named p hp

/-- a call read from its parenthesis on, without a truth word among its arguments -/
theorem ArgList.Normal.toCall {acc : ArgList} (h : acc.Normal text) (function : String) :
    (acc.toCall function).toExpr.Normal text := by
  have hcall : (acc.toCall function).Normal text :=
    ⟨fun b hb => (h.args _ hb).1.noFlag b rfl, h.named, fun e he => (h.args e (List.mem_of_mem_tail he)).2,
      fun path hpath htruth => by
        have := (h.args _ (List.mem_of_mem_head? hpath)).2 path rfl
        rw [this] at htruth
        cases htruth⟩
  exact hcall.toExpr fun e he => (h.args e he).1

/-- with one argument more in front a call stays normal if only truth words in front of a bar come there -/
theorem Call.Normal.withFirst {c : Call} (h : c.toExpr.Normal text) (hwords : ∀ e ∈ c.args, e.NoTruthWord) {lhs : Expr}
    (hlhs : lhs.Normal text) (hbar : ∀ path, lhs = .name path → Applied text path) :
    (c.withFirst lhs).toExpr.Normal text := by
  have hc : c.Normal text := h.calls c .self
  have hcall : (c.withFirst lhs).Normal text := by
    refine ⟨fun b hb => ?_, hc.named, hwords, fun path hpath _ => hbar path (Option.some.inj hpath)⟩
    rcases List.mem_cons.1 hb with hb | hb
    · exact hlhs.noFlag b hb.symm
    · exact hc.noFlag b hb
  refine hcall.toExpr fun e he => ?_
  rcases List.mem_cons.1 he with rfl | he
  · exact hlhs
  · exact ⟨fun b hb => hc.noFlag b (hb ▸ he), fun c' ho => h.calls c' (.arg he ho)⟩

/-! ## What is read is normal -/

/-- reading the text comes to the item -/
def Item.Reached (text s : List Char) : Item → Prop
  | .operand _ => Relation.ReflTransGen Step (.expr text) (.operand s)
  | .pipes .. => Relation.ReflTransGen Step (.expr text) (.pipes s)
  | .piped .. => Relation.ReflTransGen Step (.expr text) (.expr s)
  | .arg acc _ => Relation.ReflTransGen Step (.expr text) (.arg acc s)
  | .args acc _ => ∃ opening, Relation.ReflTransGen Step (.expr text) (.args opening acc s)

/-- what is shown of an item by induction on the grammar; what applications are put behind is not known to them but for
the bar they start with -/
def Item.Normal (text s : List Char) : Item → Prop
  | .operand e => e.Normal text ∧ ∀ c, e.call? = some c → ∀ a ∈ c.args, a.NoTruthWord
  | .pipes lhs _ e _ => lhs.Normal text → (∀ path r, lhs = .name path → skipSpaces s = '|' :: r → Applied text path) →
    e.Normal text
  | .piped e _ => e.Normal text
  | .arg acc acc' | .args acc acc' => acc.Normal text → acc'.Normal text

/-- **What is read from a text is normal.** -/
theorem Reads.normal {i : Item} {s a : List Char} (h : Reads i s a) (hs : i.Reached text s) : i.Normal text s := by
  induction h with
  | string q _ _ => exact ⟨Expr.normal_of_leaf (by simp) rfl, fun c hc => by cases hc⟩
  | number _ hc h =>
    obtain ⟨x, v, rfl, -⟩ := readNumber_start hc h
    exact ⟨Expr.normal_of_leaf (by simp) rfl, fun c hc => by cases hc⟩
  | name _ _ => exact ⟨Expr.normal_of_leaf (by simp) rfl, fun c hc => by cases hc⟩
  | @emptyCall _ _ _ name _ _ _ _ =>
    have hempty : ArgList.Normal text {} := ⟨by simp, by simp⟩
    refine ⟨hempty.toCall (String.ofList name), fun c hc a ha => ?_⟩
    cases hc
    cases ha
  | call h hopen _ ih =>
    have hacc := ih ⟨_, hs.tail (.args h hopen)⟩ ⟨by simp, by simp⟩
    refine ⟨hacc.toCall _, fun c hc a ha => ?_⟩
    cases hc
    exact (hacc.args a ha).2
  | stop _ => exact fun hlhs _ => hlhs
  | bar hbar hc _ ihc ih =>
    intro hlhs hword
    obtain ⟨hcall, hwords⟩ := ihc (hs.tail (.bar hbar))
    have hfirst := Call.Normal.withFirst hcall (hwords _ rfl) hlhs fun path hpath => hword path _ hpath hbar
    exact ih (hs.tail (.again hbar hc)) hfirst fun path r hpath => by cases hpath
  | @piped s e mid _ _ _ he _ ihe ih =>
    have hop := hs.tail .operand
    refine ih (hs.tail (.pipes he)) (ihe hop).1 fun path r hpath hbar => ?_
    subst hpath
    exact ⟨s, mid, r, hop, he, hbar⟩
  | named _ _ hv _ _ _ => exact fun hacc => hacc.withNamed (canBeNamed_of_namedValue hv) _ _
  | positional _ _ ih => exact fun hacc => hacc.withArg (ih (hs.tail .key)) _
  | last h _ ih =>
    obtain ⟨opening, hs⟩ := hs
    exact ih (hs.tail (.arg h.skipSpaces_ne))
  | more h hcomma _ ih ihmore =>
    obtain ⟨opening, hs⟩ := hs
    intro hacc
    exact ihmore ⟨opening, hs.tail (.next h hcomma)⟩ (ih (hs.tail (.arg h.skipSpaces_ne)) hacc)

/-- **Literals are what they should be read as, everywhere in a target.** No truth value is an argument without a key
or the target itself, nothing under a key is a call or a bare truth word, and no argument without a key is a bare truth
word, unless it is the first one of its call and stands in front of a bar. -/
theorem parse_normal {text : String} {e : Expr} (h : parse text = .ok e) : e.Normal text.toList := by
  obtain ⟨p, rest, hread, -⟩ := parse_eq_ok.1 h
  exact hread.normal (.refl : Relation.ReflTransGen Step _ _)

/-- a truth word with a key, one with a place, and one with a place in a call that something is applied to -/
theorem parse_normal_words :
    parse "x|f(TRUE, k=True)" =
        .ok (.call "f" [.name "x", .string "TRUE" .single] [("k", .flag true)] "x,TRUE, k=True") ∧
      Expr.Normal "x|f(TRUE, k=True)".toList
        (.call "f" [.name "x", .string "TRUE" .single] [("k", .flag true)] "x,TRUE, k=True") := by
  have h : parse "x|f(TRUE, k=True)" =
      .ok (.call "f" [.name "x", .string "TRUE" .single] [("k", .flag true)] "x,TRUE, k=True") := by cbv
  exact ⟨h, parse_normal h⟩

/-- a bare truth word in front of a bar is left a name, though the same word between the parentheses is a string -/
theorem truth_word_applied :
    parse "f(true)" = .ok (.call "f" [.string "true" .single] [] "true") ∧
      ¬ ∀ (text : String) (e : Expr), parse text = .ok e → ∀ c, Occurs c e → ∀ a ∈ c.args, a.NoTruthWord := by
  refine ⟨by cbv, fun h => ?_⟩
  have hparse : parse "true|f()" = .ok (Call.mk "f" [.name "true"] [] "true").toExpr := by cbv
  have hword := h _ _ hparse _ .self (.name "true") (by simp) "true" rfl
  cases hword.symm.trans (by decide : isTruthWord "true" = true)

end MetricQuery.Target
