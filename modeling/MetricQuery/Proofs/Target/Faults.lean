/-
Where a text cannot be read, and why.

Reading goes from place to place: from an expression to its operand, from a call to its arguments, from one argument to
the next one. `Step` lists these ways, with what the grammar reads between two places, and `Fails` what can be wrong at
a place. `failsFrom_of_readExpr` says that a failure of the reader is one of these at a place that reading the text
comes to. In particular the fuel never runs out, neither for what can be read (`Reads.readBy`) nor for what cannot.
-/
import MetricQuery.Proofs.Target.Grammar

namespace MetricQuery.Target

open Text

/-! ## Places -/

/-- what is to be read next, and from which text -/
inductive Place where
  | expr (s : List Char)
  | pipes (s : List Char)
  | operand (s : List Char)
  /-- arguments onto those read before, up to the parenthesis that closes the one `opening` starts with -/
  | args (opening : List Char) (acc : ArgList) (s : List Char)
  | arg (acc : ArgList) (s : List Char)

/-- the text starts, spaces apart, with a character that only a name starts with here -/
structure NameAhead (s : List Char) (c : Char) (r : List Char) : Prop where
  starts : skipSpaces s = c :: r
  plain : c ≠ ',' ∧ c ≠ ')' ∧ c ≠ '\'' ∧ c ≠ '"'
  number : StartsNumber c → readNumber (c :: r) = none

/-- the places that reading comes to next from a place -/
inductive Step : Place → Place → Prop
  | operand {s} : Step (.expr s) (.operand s)
  | pipes {s e mid} (he : Reads (.operand e) s mid) : Step (.expr s) (.pipes mid)
  | bar {s r} (hs : skipSpaces s = '|' :: r) : Step (.pipes s) (.operand r)
  | again {s r c mid} (hs : skipSpaces s = '|' :: r) (hc : Reads (.operand (Call.toExpr c)) r mid) :
    Step (.pipes s) (.pipes mid)
  | args {s c r name inner} (h : Bare s c r name ('(' :: inner)) (hopen : ∀ after, skipSpaces inner ≠ ')' :: after) :
    Step (.operand s) (.args ('(' :: inner) {} inner)
  | arg {opening acc s} (hs : skipSpaces s ≠ []) : Step (.args opening acc s) (.arg acc s)
  | next {opening acc acc' s rest mid} (h : Reads (.arg acc acc') s rest) (hs : skipSpaces rest = ',' :: mid) :
    Step (.args opening acc s) (.args opening acc' mid)
  | key {acc s} : Step (.arg acc s) (.expr s)
  | value {acc s key b v} (hkey : Reads (.piped (.name key) b) s ('=' :: v)) : Step (.arg acc s) (.expr v)

/-- what is wrong at a place -/
inductive Fails : Place → Failure → Prop
  | missingExpr {s t} (hs : skipSpaces s = t) (h : Stops t) : Fails (.operand s) ⟨t, .missingExpr⟩
  | missingQuote {s r} (q : Quote) (hs : skipSpaces s = q.char :: r) (h : scanString q.char r = none) :
    Fails (.operand s) ⟨q.char :: r, .missingQuote q⟩
  | unmatchedBrace {s c r rest} (h : NameAhead s c r) (hopen : (scanName [] (c :: r)).opened.getLast? = some rest) :
    Fails (.operand s) ⟨rest, .unmatchedBrace⟩
  | noName {s c r rest} (h : NameAhead s c r) (hname : Scans 0 (c :: r) [] rest) :
    Fails (.operand s) ⟨c :: r, .unexpected⟩
  | pipeTarget {s r e mid} (hs : skipSpaces s = '|' :: r) (h : Reads (.operand e) r mid) (he : e.call? = none) :
    Fails (.pipes s) ⟨'|' :: r, .pipeTarget⟩
  | badNamedArgument {acc s key b v value b' after} (hkey : Reads (.piped (.name key) b) s ('=' :: v))
    (hvalue : Reads (.piped value b') v after) (hv : namedValue value = none) :
    Fails (.arg acc s) ⟨skipSpaces s, .badNamedArgument key⟩
  | duplicateNamedArgument {acc s key b v value b' after} (hkey : Reads (.piped (.name key) b) s ('=' :: v))
    (hvalue : Reads (.piped value b') v after) (hv : namedValue value ≠ none) (hold : acc.named.get? key ≠ none) :
    Fails (.arg acc s) ⟨skipSpaces s, .duplicateNamedArgument key⟩
  | noArgument {opening acc s} (hs : skipSpaces s = []) : Fails (.args opening acc s) ⟨opening, .missingParen⟩
  | unclosed {opening acc acc' s rest} (h : Reads (.arg acc acc') s rest) (hs : skipSpaces rest = []) :
    Fails (.args opening acc s) ⟨opening, .missingParen⟩
  | missingComma {opening acc acc' s rest c r} (h : Reads (.arg acc acc') s rest) (hs : skipSpaces rest = c :: r)
    (hc : startsExpression c = true) : Fails (.args opening acc s) ⟨c :: r, .missingComma⟩
  | unexpected {opening acc acc' s rest c r} (h : Reads (.arg acc acc') s rest) (hs : skipSpaces rest = c :: r)
    (hc : c ≠ ')' ∧ c ≠ ',') (hstart : startsExpression c = false) :
    Fails (.args opening acc s) ⟨c :: r, .unexpected⟩

/-- reading from a place comes to one where something is wrong -/
def FailsFrom (p : Place) (f : Failure) : Prop :=
  ∃ q, Relation.ReflTransGen Step p q ∧ Fails q f

theorem Fails.failsFrom {p : Place} {f : Failure} (h : Fails p f) : FailsFrom p f :=
  ⟨p, .refl, h⟩

theorem FailsFrom.step {p q : Place} {f : Failure} (h : FailsFrom q f) (hstep : Step p q) : FailsFrom p f := by
  obtain ⟨place, hplace, hf⟩ := h
  exact ⟨place, hplace.head hstep, hf⟩

/-! ## What the readers refuse -/

/-- fuel with which what is at a place can be read or refused -/
def Place.fuel : Place → Nat
  | .pipes s => 4 * s.length + 1
  | .operand s => 4 * s.length + 2
  | .expr s => 4 * s.length + 3
  | .arg _ s => 4 * s.length + 3
  | .args _ _ s => 4 * s.length + 4

/-- where the readers fail with `n` steps or less, something is wrong -/
structure Refuses (n : Nat) : Prop where
  operand : ∀ {s f}, (Place.operand s).fuel ≤ n → readOperand n s = .error f → FailsFrom (.operand s) f
  pipes : ∀ {lhs b s f}, (Place.pipes s).fuel ≤ n → readPipes n lhs b s = .error f → FailsFrom (.pipes s) f
  piped : ∀ {s f}, (Place.expr s).fuel ≤ n → readPiped n s = .error f → FailsFrom (.expr s) f
  nameOrCall : ∀ {s c r f}, NameAhead s c r → 4 * (c :: r).length + 1 ≤ n → readNameOrCall n (c :: r) = .error f →
    FailsFrom (.operand s) f
  args : ∀ {opening acc s f}, (Place.args opening acc s).fuel ≤ n → readArgs n opening acc s = .error f →
    FailsFrom (.args opening acc s) f

theorem Refuses.zero : Refuses 0 where
  operand hn := absurd hn (by simp [Place.fuel])
  pipes hn := absurd hn (by simp [Place.fuel])
  piped hn := absurd hn (by simp [Place.fuel])
  nameOrCall _ hn := absurd hn (by simp)
  args hn := absurd hn (by simp [Place.fuel])

namespace Refuses

variable {n : Nat} (ih : Refuses n)
include ih

theorem readPiped_succ {s : List Char} {f : Failure} (hn : (Place.expr s).fuel ≤ n + 1)
    (h : readPiped (n + 1) s = .error f) : FailsFrom (.expr s) f := by
  simp only [Place.fuel] at hn
  rw [readPiped, bind_eq_error] at h
  rcases h with h | ⟨⟨e, mid⟩, he, h⟩
  · exact (ih.operand (by simp only [Place.fuel]; omega) h).step .operand
  · have he' := (sound n).operand he
    have hlen := he'.length_le
    simp only [Item.least] at hlen
    exact (ih.pipes (by simp only [Place.fuel]; omega) h).step (.pipes he')

theorem readPipes_succ {lhs : Expr} {b : Bool} {s : List Char} {f : Failure} (hn : (Place.pipes s).fuel ≤ n + 1)
    (h : readPipes (n + 1) lhs b s = .error f) : FailsFrom (.pipes s) f := by
  simp only [Place.fuel] at hn
  rw [readPipes] at h
  split at h
  · rename_i r hs
    have hr := length_of_skipSpaces hs
    rw [bind_eq_error] at h
    rcases h with h | ⟨⟨rhs, mid⟩, hrhs, h⟩
    · exact (ih.operand (by simp only [Place.fuel]; omega) h).step (.bar hs)
    · have hrhs' := (sound n).operand hrhs
      have hlen := hrhs'.length_le
      simp only [Item.least] at hlen
      dsimp only at h
      split at h
      · rename_i c hc
        have hcall : rhs = c.toExpr := by
          cases rhs <;> cases hc
          rfl
        rw [hcall] at hrhs'
        exact (ih.pipes (by simp only [Place.fuel]; omega) h).step (.again hs hrhs')
      · rename_i hc
        cases h
        rw [hs]
        exact (Fails.pipeTarget hs hrhs' hc).failsFrom
  · cases h

theorem readOperand_succ {s : List Char} {f : Failure} (hn : (Place.operand s).fuel ≤ n + 1)
    (h : readOperand (n + 1) s = .error f) : FailsFrom (.operand s) f := by
  simp only [Place.fuel] at hn
  have hlen := length_skipSpaces_le s
  rw [readOperand] at h
  split at h
  · rename_i hs
    cases h
    exact (Fails.missingExpr hs trivial).failsFrom
  · rename_i c r hs
    rw [hs] at hlen
    have hquote (q : Quote) (hc : c = q.char) (h : readString q (c :: r) = .error f) : FailsFrom (.operand s) f := by
      subst hc
      unfold readString at h
      split at h
      · cases h
      · rename_i hscan
        cases h
        exact (Fails.missingQuote q hs hscan).failsFrom
    split_ifs at h with hstop hsingle hdouble hnum
    · cases h
      exact (Fails.missingExpr hs hstop).failsFrom
    · exact hquote .single hsingle h
    · exact hquote .double hdouble h
    all_goals
      have hplain : c ≠ ',' ∧ c ≠ ')' ∧ c ≠ '\'' ∧ c ≠ '"' :=
        ⟨fun hc => hstop (Or.inl hc), fun hc => hstop (Or.inr hc), hsingle, hdouble⟩
    · split at h
      · cases h
      · rename_i hnone
        exact ih.nameOrCall ⟨hs, hplain, fun _ => hnone⟩ (by omega) h
    · exact ih.nameOrCall ⟨hs, hplain, fun hstart => absurd hstart hnum⟩ (by omega) h

theorem readNameOrCall_succ {s r : List Char} {c : Char} {f : Failure} (hs : NameAhead s c r)
    (hn : 4 * (c :: r).length + 1 ≤ n + 1) (h : readNameOrCall (n + 1) (c :: r) = .error f) :
    FailsFrom (.operand s) f := by
  rw [readNameOrCall, bind_eq_error] at h
  rcases h with h | ⟨⟨name, rest⟩, hname, h⟩
  · unfold readName at h
    dsimp only at h
    split at h
    · rename_i hopen
      cases h
      exact (Fails.unmatchedBrace hs hopen).failsFrom
    · cases h
  · have hscan := readName_eq_ok.1 hname
    have hlen := hscan.length_le
    dsimp only at h
    split_ifs at h with hempty
    · cases h
      rw [hempty] at hscan
      exact (Fails.noName hs hscan).failsFrom
    · have hbare : Bare s c r name rest := ⟨hs.starts, hs.plain, hs.number, hscan, hempty⟩
      split at h
      · split at h
        · cases h
        · rename_i inner hopen
          rw [bind_eq_error] at h
          rcases h with h | ⟨acc, hacc, h⟩
          · simp only [List.length_cons] at hlen hn
            exact (ih.args (by simp only [Place.fuel]; omega) h).step (.args hbare fun after => hopen after)
          · cases h
      · cases h

theorem readArg {acc : ArgList} {s : List Char} {f : Failure} (hn : (Place.arg acc s).fuel ≤ n)
    (h : readArg n acc s = .error f) : FailsFrom (.arg acc s) f := by
  simp only [Place.fuel] at hn
  rw [Target.readArg, bind_eq_error] at h
  rcases h with h | ⟨⟨⟨arg, piped⟩, mid⟩, harg, h⟩
  · exact (ih.piped (by simp only [Place.fuel]; omega) h).step .key
  · have harg' := (sound n).piped harg
    have hlen := harg'.length_le
    simp only [Item.least] at hlen
    dsimp only at h
    split at h
    · rename_i key v
      simp only [List.length_cons] at hlen
      rw [bind_eq_error] at h
      rcases h with h | ⟨⟨⟨value, b'⟩, after⟩, hvalue, h⟩
      · exact (ih.piped (by simp only [Place.fuel]; omega) h).step (.value harg')
      · have hvalue' := (sound n).piped hvalue
        dsimp only at h
        split at h
        · rename_i hv
          cases h
          exact (Fails.badNamedArgument harg' hvalue' hv).failsFrom
        · rename_i hv
          split_ifs at h with hold
          cases h
          have hold' : acc.named.get? key ≠ none := Option.isSome_iff_ne_none.1 hold
          exact (Fails.duplicateNamedArgument harg' hvalue' (by rw [hv]; simp) hold').failsFrom
    · cases h

theorem readArgs_succ {opening s : List Char} {acc : ArgList} {f : Failure}
    (hn : (Place.args opening acc s).fuel ≤ n + 1) (h : readArgs (n + 1) opening acc s = .error f) :
    FailsFrom (.args opening acc s) f := by
  simp only [Place.fuel] at hn
  rw [Target.readArgs_succ] at h
  split_ifs at h with hs
  · cases h
    exact (Fails.noArgument hs).failsFrom
  · rw [bind_eq_error] at h
    rcases h with h | ⟨⟨acc', rest⟩, harg, h⟩
    · exact (ih.readArg (by simp only [Place.fuel]; omega) h).step (.arg hs)
    · have harg' := (sound n).readArg harg
      have hlen := harg'.length_le
      simp only [Item.least] at hlen
      dsimp only at h
      split at h
      · rename_i hrest
        cases h
        exact (Fails.unclosed harg' hrest).failsFrom
      · rename_i c after hrest
        have hafter := length_of_skipSpaces hrest
        split_ifs at h with hclose hcomma hstart
        · subst hcomma
          exact (ih.args (by simp only [Place.fuel]; omega) h).step (.next harg' hrest)
        · cases h
          exact (Fails.missingComma harg' hrest hstart).failsFrom
        · cases h
          exact (Fails.unexpected harg' hrest ⟨hclose, hcomma⟩ (by simpa using hstart)).failsFrom

end Refuses

theorem refuses (n : Nat) : Refuses n := by
  induction n with
  | zero => exact Refuses.zero
  | succ n ih =>
    exact ⟨ih.readOperand_succ, ih.readPipes_succ, ih.readPiped_succ, ih.readNameOrCall_succ, ih.readArgs_succ⟩

/-- **Where the reader fails, something is wrong** at a place that reading the text comes to. -/
theorem failsFrom_of_readExpr {s : List Char} {f : Failure} (h : readExpr s = .error f) : FailsFrom (.expr s) f := by
  rw [readExpr, bind_eq_error] at h
  rcases h with h | ⟨⟨⟨e, b⟩, rest⟩, -, h⟩
  · refine (refuses _).piped ?_ h
    simp only [Place.fuel, enough]
    omega
  · cases h

end MetricQuery.Target
