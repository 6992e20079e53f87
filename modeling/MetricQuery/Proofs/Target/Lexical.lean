/-
How far names, numbers and spaces reach.

A scanner looks at the text behind what it takes: a name ends where no character can go on with it, and a last `=`
belongs to it only if nothing behind could be its value. So the same characters are taken again in front of another
text only if that text ends them as well. `Follows a b` says so: `b` starts as `a` does, or it stops any expression.
The scanners of names and numbers take the same from `v ++ b` as from `v ++ a` (`scanName_append`,
`readNumber_append`).
-/
import Mathlib
import MetricQuery.Target.Reader

namespace MetricQuery.Target

open Text

/-! ## What may follow -/

/-- a text at which every expression stops: nothing, or the end of an argument -/
def Stops : List Char → Prop
  | [] => True
  | c :: _ => c = ',' ∨ c = ')'

/-- a text that ends an expression as another did: it starts alike, or it stops any expression -/
def Ends (a b : List Char) : Prop :=
  Stops b ∨ ∃ c x y, a = c :: x ∧ b = c :: y ∧ (c = '=' → endsName x = endsName y)

/-- a text that may stand in the place of another: it ends an expression as the other did, and there is none where there
was none -/
structure Follows (a b : List Char) : Prop where
  nil : a = [] → b = []
  ends : Ends a b

theorem Follows.cons {c : Char} (hc : c ≠ '=') (x y : List Char) : Follows (c :: x) (c :: y) :=
  ⟨fun h => (List.cons_ne_nil c x h).elim, Or.inr ⟨c, x, y, rfl, rfl, fun h => absurd h hc⟩⟩

theorem goesOn_of_stops {b : List Char} (h : Stops b) : goesOn b = false := by
  cases b with
  | nil => rfl
  | cons c y => rcases h with rfl | rfl <;> rfl

theorem endsName_of_stops {b : List Char} (h : Stops b) : endsName b = true := by
  cases b with
  | nil => rfl
  | cons c y => rcases h with rfl | rfl <;> rfl

theorem Ends.goesOn {a b : List Char} (h : Ends a b) (ha : goesOn a = false) : goesOn b = false := by
  rcases h with hb | ⟨c, x, y, rfl, rfl, -⟩
  · exact goesOn_of_stops hb
  · exact ha

theorem Ends.endsName {a b : List Char} (h : Ends a b) (ha : endsName a = true) : endsName b = true := by
  rcases h with hb | ⟨c, x, y, rfl, rfl, -⟩
  · exact endsName_of_stops hb
  · exact ha

/-! ## Spaces -/

theorem skipSpaces_split (s : List Char) : ∃ u, (∀ c ∈ u, isSpace c = true) ∧ s = u ++ skipSpaces s :=
  ⟨s.takeWhile isSpace, fun _ hc => List.all_eq_true.1 List.all_takeWhile _ hc, List.takeWhile_append_dropWhile.symm⟩

theorem skipSpaces_append {u : List Char} (hu : ∀ c ∈ u, isSpace c = true) (b : List Char) :
    skipSpaces (u ++ b) = skipSpaces b :=
  List.dropWhile_append_of_pos hu

theorem isSpace_of_skipSpaces {s r : List Char} {c : Char} (h : skipSpaces s = c :: r) : isSpace c = false := by
  have := List.head?_dropWhile_not isSpace s
  rw [skipSpaces] at h
  rw [h] at this
  simpa using this

theorem skipSpaces_cons {c : Char} (h : isSpace c = false) (r : List Char) : skipSpaces (c :: r) = c :: r := by
  rw [skipSpaces, List.dropWhile_cons, h]
  rfl

theorem skipSpaces_behind {u : List Char} (hu : ∀ c ∈ u, isSpace c = true) {c : Char} (hc : isSpace c = false)
    (r : List Char) : skipSpaces (u ++ c :: r) = c :: r := by
  rw [skipSpaces_append hu, skipSpaces_cons hc]

theorem skipSpaces_of_stops {k : List Char} (h : Stops k) : skipSpaces k = k := by
  cases k with
  | nil => rfl
  | cons c k =>
    rcases h with rfl | rfl
    · exact skipSpaces_cons (by decide) k
    · exact skipSpaces_cons (by decide) k

theorem ne_cons_of_stops {k : List Char} (h : Stops k) {c : Char} (hc : c ≠ ',' ∧ c ≠ ')') (r : List Char) :
    k ≠ c :: r := by
  rintro rfl
  rcases h with rfl | rfl
  · exact hc.1 rfl
  · exact hc.2 rfl

theorem ne_eq_of_isSpace {c : Char} (h : isSpace c = true) : c ≠ '=' := by
  rintro rfl
  cases h

/-- spaces in front do not matter to what follows -/
theorem Follows.spaces {a b u : List Char} (h : Follows a b) (hu : ∀ c ∈ u, isSpace c = true) :
    Follows (u ++ a) (u ++ b) := by
  cases u with
  | nil => exact h
  | cons c u => exact Follows.cons (ne_eq_of_isSpace (hu c List.mem_cons_self)) _ _

/-! ## Names -/

/-- the names that a text starts with, `n` braces being open: the text, the name, and the text left -/
inductive Scans : Nat → List Char → List Char → List Char → Prop
  | stop {s : List Char} (hs : goesOn s = false) (heq : ∀ r, s = '=' :: r → endsName r = false) : Scans 0 s [] s
  | lastEscape : Scans 0 ['\\'] [] []
  | escape {n r name rest} (c : Char) (h : Scans n r name rest) : Scans n ('\\' :: c :: r) (c :: name) rest
  | char {n r name rest} {c : Char} (hc : isNameChar c = true) (h : Scans n r name rest) :
    Scans n (c :: r) (c :: name) rest
  | openBrace {n r name rest} (h : Scans (n + 1) r name rest) : Scans n ('{' :: r) ('{' :: name) rest
  | closeBrace {n r name rest} (h : Scans n r name rest) : Scans (n + 1) ('}' :: r) ('}' :: name) rest
  | comma {n r name rest} (h : Scans (n + 1) r name rest) : Scans (n + 1) (',' :: r) (',' :: name) rest
  | equals {n r name rest} (hr : endsName r = true) (h : Scans n r name rest) : Scans n ('=' :: r) ('=' :: name) rest

theorem scanName_cons {c : Char} (hc : c ≠ '\\') (opened : List (List Char)) (r : List Char) :
    scanName opened (c :: r) =
      if isNameChar c then (scanName opened r).push c
      else if c = '{' then (scanName ((c :: r) :: opened) r).push c
      else if c = '}' ∧ opened ≠ [] then (scanName opened.tail r).push c
      else if c = ',' ∧ opened ≠ [] then (scanName opened r).push c
      else if c = '=' ∧ endsName r then (scanName opened r).push c
      else ⟨[], c :: r, opened⟩ := by
  rw [scanName]
  · rintro rfl
    exact absurd rfl hc
  · intro _ _ h
    exact absurd h hc

theorem push_eq {c : Char} {scan : NameScan} {name rest : List Char} {o : List (List Char)}
    (h : scan.push c = ⟨name, rest, o⟩) : ∃ tail, name = c :: tail ∧ scan = ⟨tail, rest, o⟩ := by
  obtain ⟨n, r, o'⟩ := scan
  cases h
  exact ⟨n, rfl, rfl⟩

/-- the scanner takes a name that leaves no brace open -/
theorem scans_of_scanName {opened : List (List Char)} {s name rest : List Char}
    (h : scanName opened s = ⟨name, rest, []⟩) : Scans opened.length s name rest := by
  fun_induction scanName opened s generalizing name with
  | case1 opened =>
    cases h
    exact .stop rfl (by simp)
  | case2 opened =>
    cases h
    exact .lastEscape
  | case3 opened c r ih =>
    obtain ⟨tail, rfl, hscan⟩ := push_eq h
    exact .escape c (ih hscan)
  | case4 opened c r _ _ hc ih =>
    obtain ⟨tail, rfl, hscan⟩ := push_eq h
    exact .char hc (ih hscan)
  | case5 opened r _ _ hc ih =>
    obtain ⟨tail, rfl, hscan⟩ := push_eq h
    exact .openBrace (ih hscan)
  | case6 opened c r _ _ _ _ hc ih =>
    obtain ⟨tail, rfl, hscan⟩ := push_eq h
    obtain ⟨rfl, ho⟩ := hc
    cases opened with
    | nil => exact absurd rfl ho
    | cons o opened => exact .closeBrace (ih hscan)
  | case7 opened c r _ _ _ _ _ hc ih =>
    obtain ⟨tail, rfl, hscan⟩ := push_eq h
    obtain ⟨rfl, ho⟩ := hc
    cases opened with
    | nil => exact absurd rfl ho
    | cons o opened => exact .comma (ih hscan)
  | case8 opened c r _ _ _ _ _ _ hc ih =>
    obtain ⟨tail, rfl, hscan⟩ := push_eq h
    obtain ⟨rfl, hr⟩ := hc
    exact .equals hr (ih hscan)
  | case9 opened c r hlast hescape hc hopen _ _ heq =>
    cases h
    refine .stop ?_ fun r' hr' => ?_
    · have hslash : c ≠ '\\' := by
        rintro rfl
        cases r with
        | nil => exact hlast rfl rfl
        | cons d r => exact hescape d r rfl rfl
      simp [goesOn, hc, hopen, hslash]
    · cases hr'
      simpa using heq

theorem scanName_of_scans {n : Nat} {s name rest : List Char} (h : Scans n s name rest) {opened : List (List Char)}
    (hn : opened.length = n) : scanName opened s = ⟨name, rest, []⟩ := by
  induction h generalizing opened with
  | @stop s hs heq =>
    cases List.length_eq_zero_iff.1 hn
    cases s with
    | nil => rfl
    | cons c r =>
      simp only [goesOn, Bool.or_eq_false_iff, beq_eq_false_iff_ne] at hs
      obtain ⟨⟨hc, hopen⟩, hslash⟩ := hs
      have heq' : ¬ (c = '=' ∧ endsName r = true) := by
        rintro ⟨rfl, hr⟩
        rw [heq r rfl] at hr
        cases hr
      simp [scanName_cons hslash, hc, hopen, heq']
  | lastEscape =>
    cases List.length_eq_zero_iff.1 hn
    rfl
  | escape c _ ih => rw [scanName, ih hn]; rfl
  | @char n r name rest c hc _ ih =>
    have hslash : c ≠ '\\' := by
      rintro rfl
      cases hc
    rw [scanName_cons hslash, if_pos hc, ih hn]
    rfl
  | openBrace _ ih =>
    rw [scanName_cons (by decide), if_neg (by decide), if_pos rfl, ih (by rw [List.length_cons, hn])]
    rfl
  | closeBrace _ ih =>
    cases opened with
    | nil => cases hn
    | cons o opened =>
      rw [scanName_cons (by decide), if_neg (by decide), if_neg (by decide), if_pos ⟨rfl, by simp⟩,
        List.tail_cons, ih (by simpa using hn)]
      rfl
  | comma _ ih =>
    have ho : opened ≠ [] := by
      rintro rfl
      cases hn
    rw [scanName_cons (by decide), if_neg (by decide), if_neg (by decide), if_neg (by simp), if_pos ⟨rfl, ho⟩, ih hn]
    rfl
  | equals hr _ ih =>
    rw [scanName_cons (by decide), if_neg (by decide), if_neg (by decide), if_neg (by simp), if_neg (by simp),
      if_pos ⟨rfl, hr⟩, ih hn]
    rfl

theorem readName_eq_ok {s name rest : List Char} : readName s = .ok (name, rest) ↔ Scans 0 s name rest := by
  unfold readName
  constructor
  · intro h
    dsimp only at h
    split at h
    · cases h
    · rename_i ho
      cases h
      show Scans ([] : List (List Char)).length _ _ _
      refine scans_of_scanName ?_
      have hnil := List.getLast?_eq_none_iff.1 ho
      generalize scanName [] s = scan at hnil ⊢
      obtain ⟨name, rest, o⟩ := scan
      cases hnil
      rfl
  · intro h
    rw [scanName_of_scans h rfl]
    rfl

namespace Scans

variable {n : Nat} {s name a : List Char}

/-- a name ends where no character goes on with it -/
theorem goesOn (h : Scans n s name a) : goesOn a = false := by
  induction h with
  | stop hs _ => exact hs
  | lastEscape => rfl
  | escape _ _ ih => exact ih
  | char _ _ ih => exact ih
  | openBrace _ ih => exact ih
  | closeBrace _ ih => exact ih
  | comma _ ih => exact ih
  | equals _ _ ih => exact ih

/-- a name is no longer than what is taken for it -/
theorem length_le (h : Scans n s name a) : name.length + a.length ≤ s.length := by
  induction h with
  | stop _ _ => simp
  | lastEscape => simp
  | escape _ _ ih | char _ _ ih | openBrace _ ih | closeBrace _ ih | comma _ ih | equals _ _ ih =>
    simp only [List.length_cons]
    omega

theorem noBackslash_of_cons {c : Char} {v a b : List Char} (h : a = [] → b = [] ∨ '\\' ∉ c :: v) :
    a = [] → b = [] ∨ '\\' ∉ v :=
  fun ha => (h ha).imp_right List.not_mem_of_not_mem_cons

/-- a name is taken again in front of another text that ends it. A backslash at the end of the text is taken alone, so
there only the end of a text will do -/
theorem append (h : Scans n s name a) :
    ∃ v, s = v ++ a ∧ ∀ b, Ends a b → (a = [] → b = [] ∨ '\\' ∉ v) → Scans n (v ++ b) name b := by
  induction h with
  | @stop s hs heq =>
    refine ⟨[], rfl, fun b hb _ => .stop (hb.goesOn hs) fun y hy => ?_⟩
    rw [List.nil_append] at hy
    rcases hb with hstop | ⟨c, x, y', rfl, rfl, hname⟩
    · rw [hy] at hstop
      rcases hstop with h | h <;> cases h
    · cases hy
      rw [← hname rfl]
      exact heq x rfl
  | lastEscape =>
    refine ⟨['\\'], rfl, fun b _ hnil => ?_⟩
    rcases hnil rfl with rfl | hv
    · exact .lastEscape
    · exact absurd List.mem_cons_self hv
  | escape c _ ih =>
    obtain ⟨v, rfl, ih⟩ := ih
    refine ⟨'\\' :: c :: v, rfl, fun b hb hnil => .escape c (ih b hb fun ha => (hnil ha).imp_right fun hv => ?_)⟩
    exact absurd List.mem_cons_self hv
  | @char _ _ _ _ c hc _ ih =>
    obtain ⟨v, rfl, ih⟩ := ih
    exact ⟨c :: v, rfl, fun b hb hnil => .char hc (ih b hb (noBackslash_of_cons hnil))⟩
  | openBrace _ ih =>
    obtain ⟨v, rfl, ih⟩ := ih
    exact ⟨'{' :: v, rfl, fun b hb hnil => .openBrace (ih b hb (noBackslash_of_cons hnil))⟩
  | closeBrace _ ih =>
    obtain ⟨v, rfl, ih⟩ := ih
    exact ⟨'}' :: v, rfl, fun b hb hnil => .closeBrace (ih b hb (noBackslash_of_cons hnil))⟩
  | comma _ ih =>
    obtain ⟨v, rfl, ih⟩ := ih
    exact ⟨',' :: v, rfl, fun b hb hnil => .comma (ih b hb (noBackslash_of_cons hnil))⟩
  | equals hr _ ih =>
    obtain ⟨v, rfl, ih⟩ := ih
    refine ⟨'=' :: v, rfl, fun b hb hnil => .equals ?_ (ih b hb (noBackslash_of_cons hnil))⟩
    cases v with
    | nil => exact hb.endsName hr
    | cons c v => exact hr

end Scans

/-! ## Numbers -/

theorem isNameChar_of_isNumberChar {c : Char} (h : isNumberChar c = true) : isNameChar c = true := by
  simp only [isNumberChar, Bool.or_eq_true, beq_iff_eq] at h
  rcases h with ((((h | rfl) | rfl) | rfl) | rfl) | rfl
  · simp [isNameChar, Char.isAlphanum, h]
  all_goals rfl

/-- whether a character may start a number -/
def StartsNumber (c : Char) : Prop := c.isDigit = true ∨ c = '-' ∨ c = '+'

theorem StartsNumber.isNameChar {c : Char} (h : StartsNumber c) : isNameChar c = true := by
  refine isNameChar_of_isNumberChar ?_
  rcases h with h | rfl | rfl
  · simp [isNumberChar, h]
  · rfl
  · rfl

theorem StartsNumber.ne {c d : Char} (h : StartsNumber c) (hd : Target.isNameChar d = false) : c ≠ d := by
  rintro rfl
  rw [h.isNameChar] at hd
  cases hd

/-- behind a text of number characters a number is read, unless a name goes on -/
theorem readNumber_run {v b : List Char} (hv : ∀ c ∈ v, isNumberChar c = true) (hb : goesOn b = false) :
    readNumber (v ++ b) = (Decimal.readFloat v).map fun x => (.number x (String.ofList v), b) := by
  have hstop : b.takeWhile isNumberChar = [] ∧ b.dropWhile isNumberChar = b := by
    cases b with
    | nil => exact ⟨rfl, rfl⟩
    | cons c y =>
      have hc : isNumberChar c = false := by
        cases hn : isNumberChar c with
        | false => rfl
        | true =>
          rw [goesOn, isNameChar_of_isNumberChar hn] at hb
          cases hb
      simp [hc]
  unfold readNumber
  rw [List.takeWhile_append_of_pos hv, List.dropWhile_append_of_pos hv, hstop.1, hstop.2, List.append_nil]
  simp [hb]

/-- a number is read again in front of any text that does not go on like a name -/
theorem readNumber_append {s a : List Char} {e : Expr} (h : readNumber s = some (e, a)) :
    ∃ x v, e = .number x (String.ofList v) ∧ s = v ++ a ∧ (∀ c ∈ v, isNumberChar c = true) ∧ goesOn a = false ∧
      ∀ b, goesOn b = false → readNumber (v ++ b) = some (e, b) := by
  unfold readNumber at h
  dsimp only at h
  split at h
  · cases h
  · rename_i hgo
    obtain ⟨x, hx, hpair⟩ := Option.map_eq_some_iff.1 h
    cases hpair
    have hrun : ∀ c ∈ s.takeWhile isNumberChar, isNumberChar c = true :=
      fun c hc => List.all_eq_true.1 List.all_takeWhile c hc
    refine ⟨x, s.takeWhile isNumberChar, rfl, List.takeWhile_append_dropWhile.symm, hrun, by simpa using hgo, ?_⟩
    intro b hb
    rw [readNumber_run hrun hb, hx]
    rfl

/-- a number takes the character it starts with -/
theorem readNumber_start {c : Char} {r a : List Char} {e : Expr} (hc : StartsNumber c)
    (h : readNumber (c :: r) = some (e, a)) : ∃ x v, e = .number x (String.ofList (c :: v)) ∧ r = v ++ a ∧
      (∀ d ∈ c :: v, isNumberChar d = true) ∧ goesOn a = false ∧
        ∀ b, goesOn b = false → readNumber (c :: v ++ b) = some (e, b) := by
  obtain ⟨x, v, he, hsplit, hrun, hgo, hv⟩ := readNumber_append h
  cases v with
  | nil =>
    rw [List.nil_append] at hsplit
    rw [← hsplit, goesOn, hc.isNameChar] at hgo
    cases hgo
  | cons d v =>
    obtain ⟨rfl, rfl⟩ := List.cons.inj hsplit
    exact ⟨x, v, he, rfl, hrun, hgo, hv⟩

/-- what is no number is none in front of another text either -/
theorem readNumber_none {v a b : List Char} (ha : goesOn a = false) (hb : goesOn b = false)
    (h : readNumber (v ++ a) = none) : readNumber (v ++ b) = none := by
  by_cases hv : ∀ c ∈ v, isNumberChar c = true
  · rw [readNumber_run hv ha, Option.map_eq_none_iff] at h
    rw [readNumber_run hv hb, h]
    rfl
  · -- the run of number characters ends inside `v`
    have hrun : ∀ t : List Char, (v ++ t).takeWhile isNumberChar = v.takeWhile isNumberChar ∧
        (v ++ t).dropWhile isNumberChar = v.dropWhile isNumberChar ++ t := by
      intro t
      rw [List.takeWhile_append, List.dropWhile_append]
      have hne : v.dropWhile isNumberChar ≠ [] := fun hnil => hv (List.dropWhile_eq_nil_iff.1 hnil)
      have hlen : (v.takeWhile isNumberChar).length ≠ v.length := by
        intro hlen
        have := congrArg List.length (List.takeWhile_append_dropWhile (p := isNumberChar) (l := v))
        rw [List.length_append] at this
        exact hne (List.length_eq_zero_iff.1 (by omega))
      rw [if_neg hlen, if_neg (by simpa using hne)]
      exact ⟨rfl, rfl⟩
    obtain ⟨d, v', hd⟩ : ∃ d v', v.dropWhile isNumberChar = d :: v' := by
      cases hw : v.dropWhile isNumberChar with
      | nil => exact absurd (List.dropWhile_eq_nil_iff.1 hw) hv
      | cons d v' => exact ⟨d, v', rfl⟩
    unfold readNumber at h ⊢
    rw [(hrun a).1, (hrun a).2, hd] at h
    rw [(hrun b).1, (hrun b).2, hd]
    dsimp only [List.cons_append] at h ⊢
    have hsame : goesOn (d :: (v' ++ b)) = goesOn (d :: (v' ++ a)) := rfl
    rw [hsame]
    by_cases hgo : goesOn (d :: (v' ++ a)) = true
    · rw [if_pos hgo]
    · rw [if_neg hgo, Option.map_eq_none_iff] at h
      rw [if_neg hgo, h]
      rfl

/-! ## Strings -/

theorem scanString_quote (q : Char) (b : List Char) : scanString q (q :: b) = some ([], b) := by
  cases b with
  | nil => simp [scanString]
  | cons d r => simp [scanString]

/-- a string is read again in front of any text -/
theorem scanString_append {q : Char} {s value a : List Char} (h : scanString q s = some (value, a)) :
    ∃ v, s = v ++ a ∧ ∀ b, scanString q (v ++ b) = some (value, b) := by
  fun_induction scanString q s generalizing value with
  | case1 => cases h
  | case2 =>
    cases h
    exact ⟨[q], rfl, fun b => scanString_quote q b⟩
  | case3 => cases h
  | case4 d r =>
    cases h
    exact ⟨[q], rfl, fun b => scanString_quote q b⟩
  | case5 c d r hc hd ih =>
    obtain ⟨⟨value', a'⟩, hscan, hpair⟩ := Option.map_eq_some_iff.1 h
    cases hpair
    obtain ⟨v, rfl, hv⟩ := ih hscan
    refine ⟨c :: d :: v, rfl, fun b => ?_⟩
    rw [List.cons_append, List.cons_append, scanString, if_neg hc, if_pos hd, hv b]
    rfl
  | case6 c d r hc hd ih =>
    obtain ⟨⟨value', a'⟩, hscan, hpair⟩ := Option.map_eq_some_iff.1 h
    cases hpair
    obtain ⟨v, hsplit, hv⟩ := ih hscan
    cases v with
    | nil =>
      -- the rest of a string starts behind its closing quote
      have hempty := hv []
      cases hempty
    | cons d' v =>
      obtain ⟨rfl, rfl⟩ := List.cons.inj hsplit
      refine ⟨c :: d :: v, rfl, fun b => ?_⟩
      rw [List.cons_append, List.cons_append, scanString, if_neg hc, if_neg hd, ← List.cons_append, hv b]
      rfl

/-- a string without content is closed at once -/
theorem eq_of_scanString_nil {q d : Char} {r a : List Char} (h : scanString q (d :: r) = some ([], a)) : d = q := by
  by_contra hne
  cases r with
  | nil => simp [scanString, hne] at h
  | cons e r =>
    rw [scanString, if_neg hne] at h
    split at h
    · obtain ⟨p, -, hp⟩ := Option.map_eq_some_iff.1 h
      cases hp
    · obtain ⟨p, -, hp⟩ := Option.map_eq_some_iff.1 h
      cases hp

/-- the content of a string is read again from its escaped form -/
theorem scanString_escape {q : Char} (hq : q ≠ '\\') {s value a : List Char} (h : scanString q s = some (value, a))
    (k : List Char) : scanString q (escapeQuote q value ++ q :: k) = some (value, k) := by
  fun_induction scanString q s generalizing value with
  | case1 => cases h
  | case2 =>
    cases h
    exact scanString_quote q k
  | case3 => cases h
  | case4 d r =>
    cases h
    exact scanString_quote q k
  | case5 c d r hc hd ih =>
    obtain ⟨⟨value', a'⟩, hscan, hpair⟩ := Option.map_eq_some_iff.1 h
    cases hpair
    rw [escapeQuote, if_pos rfl, List.cons_append, List.cons_append, scanString, if_neg (Ne.symm hq), if_pos ⟨rfl, rfl⟩,
      ih hscan]
    rfl
  | case6 c d r hc hd ih =>
    obtain ⟨⟨value', a'⟩, hscan, hpair⟩ := Option.map_eq_some_iff.1 h
    cases hpair
    rw [escapeQuote, if_neg hc, List.cons_append]
    have hscan' := ih hscan
    -- the content goes on behind a backslash, so the escaped form has no quote there
    obtain ⟨d', r', hd', hquote⟩ : ∃ d' r', escapeQuote q value' ++ q :: k = d' :: r' ∧ ¬ (c = '\\' ∧ d' = q) := by
      cases value' with
      | nil =>
        -- nothing was read behind `c`, so the closing quote was there
        refine ⟨q, k, rfl, fun hc' => hd ⟨hc'.1, ?_⟩⟩
        exact eq_of_scanString_nil hscan
      | cons e value' =>
        by_cases he : e = q
        · exact ⟨'\\', _, by rw [escapeQuote, if_pos he]; rfl, fun hc' => hq hc'.2.symm⟩
        · exact ⟨e, _, by rw [escapeQuote, if_neg he]; rfl, fun hc' => he hc'.2⟩
    rw [hd'] at hscan' ⊢
    rw [scanString, if_neg hc, if_neg hquote, hscan']
    rfl

end MetricQuery.Target
