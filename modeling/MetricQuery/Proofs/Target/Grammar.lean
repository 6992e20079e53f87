/-
The grammar of targets.

`Reads item s rest` says that an item is read from the text `s` and leaves `rest`. It is the reader without its fuel
and its failures: each rule is one way the reader succeeds. `reads_of_readExpr` and `readExpr_of_reads` say that the
two agree, the fuel of `readExpr` being enough for any derivation, because every argument and every application takes
a character.
-/
import MetricQuery.Proofs.Result
import MetricQuery.Proofs.Target.Lexical

namespace MetricQuery.Target

open Text

/-! ## Rules -/

/-- the name a text starts with, spaces apart, where it does not start with another kind of operand -/
structure Bare (s : List Char) (c : Char) (r name rest : List Char) : Prop where
  starts : skipSpaces s = c :: r
  plain : c ≠ ',' ∧ c ≠ ')' ∧ c ≠ '\'' ∧ c ≠ '"'
  number : StartsNumber c → readNumber (c :: r) = none
  scans : Scans 0 (c :: r) name rest
  nonempty : name ≠ []

/-- an argument list with one named argument more -/
def ArgList.withNamed (acc : ArgList) (key : String) (value : Expr) (piece : String) : ArgList :=
  { acc with named := acc.named.insert key value, pieces := acc.pieces ++ [piece] }

/-- an argument list with one positional argument more -/
def ArgList.withArg (acc : ArgList) (e : Expr) (piece : String) : ArgList :=
  { acc with args := acc.args ++ [positionalValue e], pieces := acc.pieces ++ [piece] }

/-- the text kept of a positional argument: as it stands, or the text of the call that its applications come to -/
def pieceOf (e : Expr) (piped : Bool) (s rest : List Char) : String :=
  if piped then e.render else String.ofList (before s rest)

/-- what can be read from a text; arguments are read onto those read before -/
inductive Item where
  | operand (e : Expr)
  | pipes (lhs : Expr) (piped : Bool) (e : Expr) (piped' : Bool)
  | piped (e : Expr) (piped : Bool)
  | arg (acc acc' : ArgList)
  | args (acc acc' : ArgList)

/-- the texts an item can be read from, and what it leaves of them -/
inductive Reads : Item → List Char → List Char → Prop
  | string {s r value rest} (q : Quote) (hs : skipSpaces s = q.char :: r)
    (h : scanString q.char r = some (value, rest)) : Reads (.operand (.string (String.ofList value) q)) s rest
  | number {s c r e rest} (hs : skipSpaces s = c :: r) (hc : StartsNumber c)
    (h : readNumber (c :: r) = some (e, rest)) : Reads (.operand e) s rest
  | name {s c r name rest} (h : Bare s c r name rest) (hparen : ∀ inner, rest ≠ '(' :: inner) :
    Reads (.operand (.name (String.ofList name))) s rest
  | emptyCall {s c r name inner after} (h : Bare s c r name ('(' :: inner)) (hclose : skipSpaces inner = ')' :: after) :
    Reads (.operand (Call.mk (String.ofList name) [] [] "").toExpr) s after
  | call {s c r name inner acc after} (h : Bare s c r name ('(' :: inner))
    (hopen : ∀ after, skipSpaces inner ≠ ')' :: after) (hargs : Reads (.args {} acc) inner after) :
    Reads (.operand (acc.toCall (String.ofList name)).toExpr) s after
  | stop {s e b} (h : ∀ r, skipSpaces s ≠ '|' :: r) : Reads (.pipes e b e b) s (skipSpaces s)
  | bar {s r c mid lhs b e b' rest} (hs : skipSpaces s = '|' :: r) (hc : Reads (.operand (Call.toExpr c)) r mid)
    (h : Reads (.pipes (c.withFirst lhs).toExpr true e b') mid rest) : Reads (.pipes lhs b e b') s rest
  | piped {s e mid e' b rest} (he : Reads (.operand e) s mid) (h : Reads (.pipes e false e' b) mid rest) :
    Reads (.piped e' b) s rest
  | named {acc s key b v value b' after value'} (hkey : Reads (.piped (.name key) b) s ('=' :: v))
    (hvalue : Reads (.piped value b') v after) (hv : namedValue value = some value')
    (hnew : acc.named.get? key = none) :
    Reads (.arg acc (acc.withNamed key value' (String.ofList (before s after)))) s after
  | positional {acc s e b rest} (h : Reads (.piped e b) s rest) (hkey : ∀ key v, e = .name key → rest ≠ '=' :: v) :
    Reads (.arg acc (acc.withArg e (pieceOf e b s rest))) s rest
  | last {acc acc' s rest after} (h : Reads (.arg acc acc') s rest) (hs : skipSpaces rest = ')' :: after) :
    Reads (.args acc acc') s after
  | more {acc acc' acc'' s rest mid after} (h : Reads (.arg acc acc') s rest) (hs : skipSpaces rest = ',' :: mid)
    (hmore : Reads (.args acc' acc'') mid after) : Reads (.args acc acc'') s after

/-! ## What the reader reads -/

/-- one argument, onto those read before -/
def readArg (fuel : Nat) (acc : ArgList) (s : List Char) : Except Failure (ArgList × List Char) := do
  let ((arg, piped), rest) ← readPiped fuel s
  match arg, rest with
  | .name key, '=' :: valueText => do
    let ((value, _), after) ← readPiped fuel valueText
    match namedValue value with
    | none => .error ⟨skipSpaces s, .badNamedArgument key⟩
    | some value =>
      if (acc.named.get? key).isSome then .error ⟨skipSpaces s, .duplicateNamedArgument key⟩
      else .ok (acc.withNamed key value (String.ofList (before s after)), after)
  | arg, rest => .ok (acc.withArg arg (pieceOf arg piped s rest), rest)

theorem readArgs_succ (fuel : Nat) (opening : List Char) (acc : ArgList) (s : List Char) :
    readArgs (fuel + 1) opening acc s =
      if skipSpaces s = [] then .error ⟨opening, .missingParen⟩
      else readArg fuel acc s >>= fun (acc, rest) =>
        match skipSpaces rest with
        | [] => .error ⟨opening, .missingParen⟩
        | c :: after =>
          if c = ')' then .ok (acc, after)
          else if c = ',' then readArgs fuel opening acc after
          else if startsExpression c then .error ⟨c :: after, .missingComma⟩
          else .error ⟨c :: after, .unexpected⟩ := by
  rw [readArgs]
  by_cases hs : skipSpaces s = []
  · simp [hs]
  · simp only [hs, if_false, readArg, bind_assoc]
    congr 1
    funext x
    obtain ⟨⟨arg, piped⟩, rest⟩ := x
    by_cases hkey : ∃ key v, arg = .name key ∧ rest = '=' :: v
    · obtain ⟨key, v, rfl, rfl⟩ := hkey
      show (readPiped fuel v >>= _) = (readPiped fuel v >>= _) >>= _
      rw [bind_assoc]
      congr 1
      funext y
      cases namedValue y.1.1 with
      | none => rfl
      | some value =>
        dsimp only
        split <;> rfl
    · have hname : ∀ key v, arg = .name key → rest = '=' :: v → False := fun key v h h' => hkey ⟨key, v, h, h'⟩
      -- with `hname` at hand both sides take their second branch
      simp only
      rfl

/-- what `n` steps of the readers read, the grammar reads -/
structure Sound (n : Nat) : Prop where
  operand : ∀ {s e rest}, readOperand n s = .ok (e, rest) → Reads (.operand e) s rest
  pipes : ∀ {lhs b s e b' rest}, readPipes n lhs b s = .ok ((e, b'), rest) → Reads (.pipes lhs b e b') s rest
  piped : ∀ {s e b rest}, readPiped n s = .ok ((e, b), rest) → Reads (.piped e b) s rest
  nameOrCall : ∀ {s c r e rest}, skipSpaces s = c :: r → c ≠ ',' ∧ c ≠ ')' ∧ c ≠ '\'' ∧ c ≠ '"' →
    (StartsNumber c → readNumber (c :: r) = none) → readNameOrCall n (c :: r) = .ok (e, rest) →
    Reads (.operand e) s rest
  args : ∀ {opening acc s acc' rest}, readArgs n opening acc s = .ok (acc', rest) → Reads (.args acc acc') s rest

theorem Sound.zero : Sound 0 where
  operand h := by rw [readOperand] at h; cases h
  pipes h := by rw [readPipes] at h; cases h
  piped h := by rw [readPiped] at h; cases h
  nameOrCall _ _ _ h := by rw [readNameOrCall] at h; cases h
  args h := by rw [readArgs] at h; cases h

namespace Sound

variable {n : Nat} (ih : Sound n)
include ih

theorem readOperand_succ {s rest : List Char} {e : Expr} (h : readOperand (n + 1) s = .ok (e, rest)) :
    Reads (.operand e) s rest := by
  rw [readOperand] at h
  split at h
  · cases h
  · rename_i c r hs
    split_ifs at h with hstop hsingle hdouble hnum
    · unfold readString at h
      split at h
      · rename_i value rest' hscan
        cases h
        subst hsingle
        exact .string .single hs hscan
      · cases h
    · unfold readString at h
      split at h
      · rename_i value rest' hscan
        cases h
        subst hdouble
        exact .string .double hs hscan
      · cases h
    · have hplain : c ≠ ',' ∧ c ≠ ')' ∧ c ≠ '\'' ∧ c ≠ '"' :=
        ⟨fun hc => hstop (Or.inl hc), fun hc => hstop (Or.inr hc), hsingle, hdouble⟩
      split at h
      · rename_i found hfound
        cases h
        exact .number hs hnum hfound
      · rename_i hnone
        exact ih.nameOrCall hs hplain (fun _ => hnone) h
    · have hplain : c ≠ ',' ∧ c ≠ ')' ∧ c ≠ '\'' ∧ c ≠ '"' :=
        ⟨fun hc => hstop (Or.inl hc), fun hc => hstop (Or.inr hc), hsingle, hdouble⟩
      exact ih.nameOrCall hs hplain (fun hstart => absurd hstart hnum) h

theorem readNameOrCall_succ {s r rest : List Char} {c : Char} {e : Expr} (hs : skipSpaces s = c :: r)
    (hplain : c ≠ ',' ∧ c ≠ ')' ∧ c ≠ '\'' ∧ c ≠ '"') (hnum : StartsNumber c → readNumber (c :: r) = none)
    (h : readNameOrCall (n + 1) (c :: r) = .ok (e, rest)) : Reads (.operand e) s rest := by
  rw [readNameOrCall, bind_eq_ok] at h
  obtain ⟨⟨name, mid⟩, hname, h⟩ := h
  have hscan := readName_eq_ok.1 hname
  dsimp only at h
  split_ifs at h with hempty
  have hbare : Bare s c r name mid := ⟨hs, hplain, hnum, hscan, hempty⟩
  split at h
  · rename_i inner
    split at h
    · rename_i after hclose
      cases h
      exact .emptyCall hbare hclose
    · rename_i hopen
      rw [bind_eq_ok] at h
      obtain ⟨⟨acc, after⟩, hargs, h⟩ := h
      cases h
      exact .call hbare (fun after hclose => hopen after hclose) (ih.args hargs)
  · rename_i hparen
    cases h
    exact .name hbare fun inner hinner => hparen inner hinner

theorem readPipes_succ {lhs e : Expr} {b b' : Bool} {s rest : List Char}
    (h : readPipes (n + 1) lhs b s = .ok ((e, b'), rest)) : Reads (.pipes lhs b e b') s rest := by
  rw [readPipes] at h
  split at h
  · rename_i r hs
    rw [bind_eq_ok] at h
    obtain ⟨⟨rhs, mid⟩, hrhs, h⟩ := h
    dsimp only at h
    split at h
    · rename_i c hc
      have hcall : rhs = c.toExpr := by
        cases rhs <;> cases hc
        rfl
      rw [hcall] at hrhs
      exact .bar hs (ih.operand hrhs) (ih.pipes h)
    · cases h
  · rename_i hbar
    cases h
    exact .stop fun r hr => hbar r hr

theorem readPiped_succ {e : Expr} {b : Bool} {s rest : List Char} (h : readPiped (n + 1) s = .ok ((e, b), rest)) :
    Reads (.piped e b) s rest := by
  rw [readPiped, bind_eq_ok] at h
  obtain ⟨⟨e', mid⟩, he, h⟩ := h
  exact .piped (ih.operand he) (ih.pipes h)

theorem readArg {acc acc' : ArgList} {s rest : List Char} (h : readArg n acc s = .ok (acc', rest)) :
    Reads (.arg acc acc') s rest := by
  rw [Target.readArg, bind_eq_ok] at h
  obtain ⟨⟨⟨arg, piped⟩, mid⟩, harg, h⟩ := h
  have harg' := ih.piped harg
  dsimp only at h
  split at h
  · rename_i key v
    rw [bind_eq_ok] at h
    obtain ⟨⟨⟨value, b'⟩, after⟩, hvalue, h⟩ := h
    dsimp only at h
    split at h
    · cases h
    · rename_i value' hv
      split_ifs at h with hnew
      cases h
      exact .named harg' (ih.piped hvalue) hv (by simpa using hnew)
  · rename_i hkey
    cases h
    exact .positional harg' fun key v he hrest => hkey key v he hrest

theorem readArgs_succ {opening s rest : List Char} {acc acc' : ArgList}
    (h : readArgs (n + 1) opening acc s = .ok (acc', rest)) : Reads (.args acc acc') s rest := by
  rw [Target.readArgs_succ] at h
  split_ifs at h
  rw [bind_eq_ok] at h
  obtain ⟨⟨acc1, mid⟩, harg, h⟩ := h
  have harg' := ih.readArg harg
  dsimp only at h
  split at h
  · cases h
  · rename_i c after hs
    split_ifs at h with hclose hcomma
    · cases h
      subst hclose
      exact .last harg' hs
    · subst hcomma
      exact .more harg' hs (ih.args h)

end Sound

theorem sound (n : Nat) : Sound n := by
  induction n with
  | zero => exact Sound.zero
  | succ n ih =>
    exact ⟨ih.readOperand_succ, ih.readPipes_succ, ih.readPiped_succ, ih.readNameOrCall_succ, ih.readArgs_succ⟩

/-- **What the reader reads, the grammar reads.** -/
theorem reads_of_readExpr {s rest : List Char} {e : Expr} (h : readExpr s = .ok (e, rest)) :
    ∃ b, Reads (.piped e b) s rest := by
  rw [readExpr, bind_eq_ok] at h
  obtain ⟨⟨⟨e', b⟩, rest'⟩, hread, h⟩ := h
  cases h
  exact ⟨b, (sound _).piped hread⟩

/-! ## Enough fuel -/

theorem length_skipSpaces_le (s : List Char) : (skipSpaces s).length ≤ s.length := by
  obtain ⟨u, -, hs⟩ := skipSpaces_split s
  have := congrArg List.length hs
  rw [List.length_append] at this
  omega

theorem length_of_skipSpaces {s r : List Char} {c : Char} (h : skipSpaces s = c :: r) : r.length + 1 ≤ s.length := by
  have := length_skipSpaces_le s
  rw [h] at this
  exact this

theorem Bare.length_lt {s r name rest : List Char} {c : Char} (h : Bare s c r name rest) :
    rest.length + 1 ≤ s.length := by
  have hs := length_of_skipSpaces h.starts
  have hscan := h.scans.length_le
  have hname := List.length_pos_iff.2 h.nonempty
  rw [List.length_cons] at hscan
  omega

/-- an argument does not start with the comma or the parenthesis that would end it, nor where the text ends -/
def Item.starts : Item → List Char → Prop
  | .pipes .., _ => True
  | _, s => ∃ c r, skipSpaces s = c :: r ∧ c ≠ ',' ∧ c ≠ ')'

theorem Reads.starts {i : Item} {s rest : List Char} (h : Reads i s rest) : i.starts s := by
  induction h with
  | string q hs h => exact ⟨_, _, hs, by cases q <;> decide, by cases q <;> decide⟩
  | number hs hc h => exact ⟨_, _, hs, hc.ne rfl, hc.ne rfl⟩
  | name h _ => exact ⟨_, _, h.starts, h.plain.1, h.plain.2.1⟩
  | emptyCall h _ => exact ⟨_, _, h.starts, h.plain.1, h.plain.2.1⟩
  | call h _ _ _ => exact ⟨_, _, h.starts, h.plain.1, h.plain.2.1⟩
  | stop _ => trivial
  | bar _ _ _ _ _ => trivial
  | piped _ _ ih _ => exact ih
  | named _ _ _ _ ih _ => exact ih
  | positional _ _ ih => exact ih
  | last _ _ ih => exact ih
  | more _ _ _ ih _ => exact ih

theorem Reads.skipSpaces_ne {acc acc' : ArgList} {s rest : List Char} (h : Reads (.arg acc acc') s rest) :
    skipSpaces s ≠ [] := by
  obtain ⟨c, r, hs, -⟩ := h.starts
  rw [hs]
  exact List.cons_ne_nil c r

/-- characters that an item takes at least -/
def Item.least : Item → Nat
  | .pipes .. => 0
  | _ => 1

theorem Reads.length_le {i : Item} {s rest : List Char} (h : Reads i s rest) : rest.length + i.least ≤ s.length := by
  induction h with
  | string q hs h =>
    obtain ⟨v, rfl, -⟩ := scanString_append h
    have := length_of_skipSpaces hs
    rw [List.length_append] at this
    simp only [Item.least]
    omega
  | number hs hc h =>
    obtain ⟨x, v, -, rfl, -, -, -⟩ := readNumber_start hc h
    have := length_of_skipSpaces hs
    rw [List.length_append] at this
    simp only [Item.least]
    omega
  | name h hparen => exact h.length_lt
  | emptyCall h hclose =>
    have := h.length_lt
    have := length_of_skipSpaces hclose
    simp only [Item.least, List.length_cons] at *
    omega
  | call h hopen _ ih =>
    have := h.length_lt
    simp only [Item.least, List.length_cons] at *
    omega
  | stop h => exact length_skipSpaces_le _
  | bar hs _ _ ihc ih =>
    have := length_of_skipSpaces hs
    simp only [Item.least] at *
    omega
  | piped _ _ ihe ih =>
    simp only [Item.least] at *
    omega
  | named _ _ _ _ ihkey ihvalue =>
    simp only [Item.least, List.length_cons] at *
    omega
  | positional _ _ ih => exact ih
  | last _ hs ih =>
    have := length_of_skipSpaces hs
    simp only [Item.least] at *
    omega
  | more _ hs _ ih ihmore =>
    have := length_of_skipSpaces hs
    simp only [Item.least] at *
    omega

/-- fuel an item may need beside four steps for each character it takes -/
def Item.spare : Item → Nat
  | .pipes .. | .piped .. | .arg .. => 1
  | _ => 0

/-- whether the readers read an item with so much fuel -/
def Item.ReadBy (fuel : Nat) (s rest : List Char) : Item → Prop
  | .operand e => readOperand fuel s = .ok (e, rest)
  | .pipes lhs b e b' => readPipes fuel lhs b s = .ok ((e, b'), rest)
  | .piped e b => readPiped fuel s = .ok ((e, b), rest)
  | .arg acc acc' => readArg fuel acc s = .ok (acc', rest)
  | .args acc acc' => ∀ opening, readArgs fuel opening acc s = .ok (acc', rest)

/-- an operand that starts with a name is read as one -/
theorem Bare.readOperand {s r name rest : List Char} {c : Char} (h : Bare s c r name rest) (n : Nat) :
    readOperand (n + 1) s = readNameOrCall n (c :: r) := by
  obtain ⟨hcomma, hclose, hsingle, hdouble⟩ := h.plain
  rw [Target.readOperand, h.starts]
  dsimp only
  rw [if_neg (by simp [hcomma, hclose]), if_neg hsingle, if_neg hdouble]
  by_cases hnum : StartsNumber c
  · rw [h.number hnum]
    exact ite_self _
  · exact if_neg hnum

theorem readOperand_string {s r value rest : List Char} {q : Quote} (hs : skipSpaces s = q.char :: r)
    (h : scanString q.char r = some (value, rest)) (n : Nat) :
    readOperand (n + 1) s = .ok (.string (String.ofList value) q, rest) := by
  rw [readOperand, hs]
  cases q with
  | single =>
    rw [Quote.char] at h
    simp [readString, Quote.char, h]
  | double =>
    rw [Quote.char] at h
    simp [readString, Quote.char, h]

theorem readOperand_number {s r rest : List Char} {c : Char} {e : Expr} (hs : skipSpaces s = c :: r)
    (hc : StartsNumber c) (h : readNumber (c :: r) = some (e, rest)) (n : Nat) :
    readOperand (n + 1) s = .ok (e, rest) := by
  have hstop : ¬ (c = ',' ∨ c = ')') := by
    rintro (hcomma | hclose)
    · exact hc.ne rfl hcomma
    · exact hc.ne rfl hclose
  have hstart : c.isDigit = true ∨ c = '-' ∨ c = '+' := hc
  rw [readOperand, hs]
  dsimp only
  rw [if_neg hstop, if_neg (hc.ne rfl), if_neg (hc.ne rfl), if_pos hstart, h]

/-- with four steps of fuel for each character it takes, an item of the grammar is read -/
theorem Reads.readBy {i : Item} {s rest : List Char} (h : Reads i s rest) {n : Nat}
    (hn : 4 * s.length + i.spare ≤ n + 4 * rest.length) : i.ReadBy n s rest := by
  induction h generalizing n with
  | @string s r value rest q hs h =>
    have := (Reads.string q hs h).length_le
    simp only [Item.least, Item.spare] at this hn
    obtain ⟨n, rfl⟩ : ∃ m, n = m + 1 := ⟨n - 1, by omega⟩
    exact readOperand_string hs h n
  | @number s c r e rest hs hc h =>
    have := (Reads.number hs hc h).length_le
    simp only [Item.least, Item.spare] at this hn
    obtain ⟨n, rfl⟩ : ∃ m, n = m + 1 := ⟨n - 1, by omega⟩
    exact readOperand_number hs hc h n
  | @name s c r name rest h hparen =>
    have := h.length_lt
    simp only [Item.spare] at hn
    obtain ⟨n, rfl⟩ : ∃ m, n = m + 2 := ⟨n - 2, by omega⟩
    rw [Item.ReadBy, h.readOperand, readNameOrCall, readName_eq_ok.2 h.scans]
    simp only [bind, Except.bind, if_neg h.nonempty]
  | @emptyCall s c r name inner after h hclose =>
    have := h.length_lt
    have := length_of_skipSpaces hclose
    simp only [Item.spare, List.length_cons] at *
    obtain ⟨n, rfl⟩ : ∃ m, n = m + 2 := ⟨n - 2, by omega⟩
    rw [Item.ReadBy, h.readOperand, readNameOrCall, readName_eq_ok.2 h.scans]
    simp only [bind, Except.bind, if_neg h.nonempty, hclose]
  | @call s c r name inner acc after h hopen hargs ih =>
    have := h.length_lt
    have := hargs.length_le
    simp only [Item.spare, Item.least, List.length_cons] at *
    obtain ⟨n, rfl⟩ : ∃ m, n = m + 2 := ⟨n - 2, by omega⟩
    have hread : readArgs n ('(' :: inner) {} inner = .ok (acc, after) := ih (n := n) (by omega) _
    rw [Item.ReadBy, h.readOperand, readNameOrCall, readName_eq_ok.2 h.scans]
    simp only [bind, Except.bind, if_neg h.nonempty, hread]
  | @stop s e b h =>
    have := length_skipSpaces_le s
    simp only [Item.spare] at hn
    obtain ⟨n, rfl⟩ : ∃ m, n = m + 1 := ⟨n - 1, by omega⟩
    rw [Item.ReadBy, readPipes]
    split
    · rename_i r hr
      exact absurd hr (h r)
    · rfl
  | @bar s r c mid lhs b e b' rest hs hc h ihc ih =>
    have := length_of_skipSpaces hs
    have := hc.length_le
    have := h.length_le
    simp only [Item.spare, Item.least] at *
    obtain ⟨n, rfl⟩ : ∃ m, n = m + 1 := ⟨n - 1, by omega⟩
    have hread := ihc (n := n) (by omega)
    rw [Item.ReadBy] at hread
    rw [Item.ReadBy, readPipes, hs]
    show (readOperand n r >>= _) = _
    rw [hread]
    exact ih (by omega)
  | @piped s e mid e' b rest he h ihe ih =>
    have := he.length_le
    have := h.length_le
    simp only [Item.spare, Item.least] at *
    obtain ⟨n, rfl⟩ : ∃ m, n = m + 1 := ⟨n - 1, by omega⟩
    have hread := ihe (n := n) (by omega)
    rw [Item.ReadBy] at hread
    rw [Item.ReadBy, readPiped, hread]
    exact ih (by omega)
  | @named acc s key b v value b' after value' hkey hvalue hv hnew ihkey ihvalue =>
    have := hkey.length_le
    have := hvalue.length_le
    simp only [Item.spare, Item.least, List.length_cons] at *
    have hread := ihkey (n := n) (by omega)
    have hread' := ihvalue (n := n) (by omega)
    rw [Item.ReadBy] at hread hread'
    rw [Item.ReadBy, readArg, hread]
    simp [bind, Except.bind, hread', hv, hnew]
  | @positional acc s e b rest h hkey ih =>
    have hread := ih hn
    rw [Item.ReadBy] at hread
    rw [Item.ReadBy, readArg, hread]
    simp only [bind, Except.bind]
  | @last acc acc' s rest after h hs ih =>
    have := length_of_skipSpaces hs
    have := h.length_le
    simp only [Item.spare, Item.least] at *
    obtain ⟨n, rfl⟩ : ∃ m, n = m + 1 := ⟨n - 1, by omega⟩
    have hread := ih (n := n) (by omega)
    rw [Item.ReadBy] at hread
    intro opening
    rw [readArgs_succ, if_neg h.skipSpaces_ne, hread]
    simp only [bind, Except.bind, hs, if_true]
  | @more acc acc' acc'' s rest mid after h hs hmore ih ihmore =>
    have := length_of_skipSpaces hs
    have := h.length_le
    have := hmore.length_le
    simp only [Item.spare, Item.least] at *
    obtain ⟨n, rfl⟩ : ∃ m, n = m + 1 := ⟨n - 1, by omega⟩
    have hread := ih (n := n) (by omega)
    rw [Item.ReadBy] at hread
    intro opening
    rw [readArgs_succ, if_neg h.skipSpaces_ne, hread]
    simp only [bind, Except.bind, hs]
    exact ihmore (by omega) opening

/-- **What the grammar reads, the reader reads.** -/
theorem readExpr_of_reads {s rest : List Char} {e : Expr} {b : Bool} (h : Reads (.piped e b) s rest) :
    readExpr s = .ok (e, rest) := by
  have hread : readPiped (enough s) s = .ok ((e, b), rest) := by
    refine h.readBy ?_
    simp only [Item.spare, enough]
    omega
  rw [readExpr, hread]
  rfl

end MetricQuery.Target
