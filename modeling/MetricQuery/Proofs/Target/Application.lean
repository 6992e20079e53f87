/-
Applications and nesting.

`x|f(y)` and `f(x,y)` are two ways to write one call. The reader comes to the first by putting `x` in front of the
arguments of a call that it has read, and to the second by reading `x` as an argument. An expression that is its own
text is read alike in front of a bar, a comma or a parenthesis (`Reads.piped_append`), and its argument list is the
other one with one argument more in front (`toCall_withFirst`), so both come to the same call (`OwnText.readAlike`).
-/
import MetricQuery.Proofs.Target.Arguments

namespace MetricQuery.Target

open Text

/-! ## Expressions at the end of a text -/

/-- a text that ends an operand which was read to the end of a text; whether a last `=` stays with it is left open -/
structure Delimits (t : List Char) : Prop where
  goesOn : goesOn t = false
  equals : ∀ r, t ≠ '=' :: r
  paren : ∀ r, t ≠ '(' :: r

theorem Delimits.cons {c : Char} (hc : c = '|' ∨ c = ',' ∨ c = ')') (r : List Char) : Delimits (c :: r) := by
  rcases hc with rfl | rfl | rfl <;> exact ⟨rfl, by simp, by simp⟩

theorem getLast?_cons_of_some {d : Char} {s : List Char} (h : s.getLast? = some d) (c : Char) :
    (c :: s).getLast? = some d := by
  rw [List.getLast?_cons, h]
  rfl

/-- a name that is its own text is taken again where the text goes on -/
theorem Scans.at_end {n : Nat} {s name a t : List Char} (h : Scans n s name a) (hname : name = s)
    (hlast : s.getLast? = some '=' → endsName t = true) (ht : Delimits t) : Scans n (s ++ t) name t := by
  induction h with
  | stop _ _ =>
    subst hname
    exact .stop ht.goesOn fun r hr => absurd hr (ht.equals r)
  | lastEscape => cases hname
  | escape c h _ =>
    -- the backslash is not kept, so the name is shorter than its text
    have hlen := h.length_le
    have := congrArg List.length hname
    simp only [List.length_cons] at this
    omega
  | char hc _ ih => exact .char hc (ih (List.cons.inj hname).2 fun h => hlast (getLast?_cons_of_some h _))
  | openBrace _ ih => exact .openBrace (ih (List.cons.inj hname).2 fun h => hlast (getLast?_cons_of_some h _))
  | closeBrace _ ih => exact .closeBrace (ih (List.cons.inj hname).2 fun h => hlast (getLast?_cons_of_some h _))
  | comma _ ih => exact .comma (ih (List.cons.inj hname).2 fun h => hlast (getLast?_cons_of_some h _))
  | @equals n r name a hr _ ih =>
    refine .equals ?_ (ih (List.cons.inj hname).2 fun h => hlast (getLast?_cons_of_some h _))
    cases r with
    | nil => exact hlast rfl
    | cons d r => exact hr

/-- an operand that is its own text is read again where the text goes on -/
theorem Reads.operand_at_end {e : Expr} {s t : List Char} (h : Reads (.operand e) s []) (he : e.render.toList = s)
    (hlast : s.getLast? = some '=' → endsName t = true) (ht : Delimits t) : Reads (.operand e) (s ++ t) t := by
  have hclosed (hopen : ¬ (Item.operand e).Open) : Reads (.operand e) (s ++ t) t := by
    obtain ⟨v, rfl, hread⟩ := h.replace_closed hopen
    simpa using hread t
  cases h with
  | string q hs h => exact hclosed id
  | number hs hc h =>
    obtain ⟨u, hu, rfl⟩ := split_of_skipSpaces hs
    obtain ⟨x, v, rfl, rfl, -, -, hread⟩ := readNumber_start hc h
    have hstarts := skipSpaces_behind hu (isSpace_of_skipSpaces hs) (v ++ t)
    exact .number (by simpa using hstarts) hc (hread t ht.goesOn)
  | @name _ c r name _ h hparen =>
    obtain ⟨u, hu, rfl⟩ := split_of_skipSpaces h.starts
    have hname : name = u ++ c :: r := by simpa [Expr.render] using he
    have hu' : u = [] := by
      have hlen := h.scans.length_le
      have := congrArg List.length hname
      simp only [List.length_append, List.length_cons] at this hlen
      exact List.length_eq_zero_iff.1 (by omega)
    subst hu'
    have hbare : Bare (c :: (r ++ t)) c (r ++ t) name t :=
      ⟨skipSpaces_cons (isSpace_of_skipSpaces h.starts) _, h.plain,
        fun hc => readNumber_none (v := c :: r) (a := []) rfl ht.goesOn (by simpa using h.number hc),
        h.scans.at_end hname hlast ht, h.nonempty⟩
    exact .name hbare ht.paren
  | emptyCall h hclose => exact hclosed id
  | call h hopen hargs => exact hclosed id

/-! ## Applications behind one another -/

theorem Reads.pipes_spaces {lhs e : Expr} {p q : Bool} {u t a : List Char} (hu : ∀ c ∈ u, isSpace c = true)
    (h : Reads (.pipes lhs p e q) t a) : Reads (.pipes lhs p e q) (u ++ t) a := by
  have hskip : skipSpaces (u ++ t) = skipSpaces t := skipSpaces_append hu t
  cases h with
  | stop h =>
    rw [← hskip] at h ⊢
    exact .stop h
  | bar hs hc h => exact .bar (hskip.trans hs) hc h

theorem Reads.pipes_append {lhs e e' : Expr} {p q q' : Bool} {s t a : List Char}
    (h : Reads (.pipes lhs p e q) s []) (ht : Reads (.pipes e q e' q') t a) : Reads (.pipes lhs p e' q') (s ++ t) a := by
  generalize hi : Item.pipes lhs p e q = i at h
  generalize hnil : ([] : List Char) = b at h
  induction h generalizing lhs p with
  | @stop s _ _ _ =>
    cases hi
    obtain ⟨u, hu, hs⟩ := skipSpaces_split s
    rw [← hnil, List.append_nil] at hs
    rw [hs]
    exact ht.pipes_spaces hu
  | @bar s r c mid _ _ _ _ _ hs hc _ _ ih =>
    cases hi
    obtain ⟨u, hu, rfl⟩ := split_of_skipSpaces hs
    obtain ⟨v, rfl, hread⟩ := hc.replace_closed id
    have hbar := skipSpaces_behind (c := '|') hu rfl (v ++ (mid ++ t))
    exact .bar (by simpa using hbar) (hread (mid ++ t)) (ih rfl hnil)
  | _ => cases hi

/-- whatever stands in front, what is applied to it is read alike -/
theorem Reads.pipes_of_lhs {lhs e : Expr} {p q : Bool} {s a : List Char} (h : Reads (.pipes lhs p e q) s a)
    (lhs' : Expr) : ∃ e', ∀ p', ∃ q', Reads (.pipes lhs' p' e' q') s a := by
  generalize hi : Item.pipes lhs p e q = i at h
  induction h generalizing lhs p lhs' with
  | stop h => exact ⟨lhs', fun p' => ⟨p', .stop h⟩⟩
  | @bar s r c mid lhs₀ _ _ _ _ hs hc _ _ ih =>
    cases hi
    obtain ⟨e', hread⟩ := ih (c.withFirst lhs').toExpr rfl
    obtain ⟨q', hpipes⟩ := hread true
    exact ⟨e', fun p' => ⟨q', .bar hs hc hpipes⟩⟩
  | _ => cases hi

/-- **An expression that is its own text is read alike where applications or the end of an argument follow.** -/
theorem Reads.piped_append {e e' : Expr} {p q : Bool} {s t a : List Char} (h : Reads (.piped e p) s [])
    (he : e.render.toList = s) (hlast : s.getLast? = some '=' → endsName t = true) (ht : Delimits t)
    (hpipes : Reads (.pipes e p e' q) t a) : Reads (.piped e' q) (s ++ t) a := by
  cases h with
  | @piped _ e₀ mid _ _ _ hop hp =>
    cases mid with
    | nil =>
      cases hp with
      | stop _ => exact .piped (hop.operand_at_end he hlast ht) hpipes
      | bar hs _ _ => cases hs
    | cons c m =>
      have hc : c ≠ '=' := by
        rintro rfl
        cases (hp.pipes_of_cons rfl (by decide)).1
      obtain ⟨v, rfl, hread⟩ := hop.replace
      have hop' := hread (c :: (m ++ t)) (Follows.cons hc m (m ++ t))
      simpa using Reads.piped hop' (hp.pipes_append hpipes)

/-! ## Expressions that are their own text -/

/-- literals and names apart, the text of an expression ends in a quote or a parenthesis -/
theorem Expr.open_or_closed (e : Expr) :
    (Item.operand e).Open ∨ ∃ s c, e.render.toList = s ++ [c] ∧ isBlank c = false := by
  cases e with
  | call f args named argText =>
    exact Or.inr ⟨f.toList ++ '(' :: argText.toList, ')', by simp [Expr.render], rfl⟩
  | string value quote =>
    refine Or.inr ⟨quote.char :: escapeQuote quote.char value.toList, quote.char, ?_, by cases quote <;> rfl⟩
    simp [Expr.render, renderString]
  | name path => exact Or.inl trivial
  | number value literal => exact Or.inl trivial
  | flag value => exact Or.inl trivial

/-- the text of a name or a number is no longer than what is taken for it -/
theorem Reads.render_length_le {e : Expr} {s a : List Char} (h : Reads (.operand e) s a)
    (hopen : (Item.operand e).Open) : e.render.toList.length + a.length ≤ s.length := by
  cases h with
  | string q hs h => exact hopen.elim
  | number hs hc h =>
    obtain ⟨x, v, rfl, rfl, -, -, -⟩ := readNumber_start hc h
    have := length_of_skipSpaces hs
    simp only [Expr.render, String.toList_ofList, List.length_cons, List.length_append] at this ⊢
    omega
  | name h hparen =>
    have := length_of_skipSpaces h.starts
    have hlen := h.scans.length_le
    simp only [Expr.render, String.toList_ofList, List.length_cons] at hlen ⊢
    omega
  | emptyCall h hclose => exact hopen.elim
  | call h _ hargs => exact hopen.elim

/-- an expression that is its own text, and stays so where it is an argument -/
structure OwnText (x : String) (e : Expr) (p : Bool) : Prop where
  reads : Reads (.piped e p) x.toList []
  render : e.render = x
  truth : isTruthWord x = false
  last : x.toList.getLast? ≠ some '='

/-- an expression that is its own text takes all of it -/
theorem reads_of_parse_own {x : String} {e : Expr} (h : parse x = .ok e) (hx : e.render = x) :
    ∃ p, Reads (.piped e p) x.toList [] := by
  obtain ⟨p, rest, hread, htrim⟩ := parse_eq_ok.1 h
  suffices hnil : rest = [] from ⟨p, hnil ▸ hread⟩
  rcases e.open_or_closed with hopen | ⟨s, c, hend, hc⟩
  · rcases hread.piped_cases with ⟨-, mid, hop, rfl⟩ | ⟨-, c, rfl⟩
    · have hlen := hop.render_length_le hopen
      rw [hx] at hlen
      have hmid : mid = [] := List.length_eq_zero_iff.1 (by omega)
      rw [hmid]
      rfl
    · exact hopen.elim
  · obtain ⟨v, hv, -⟩ := hread.replace
    rw [← hx, hend] at hv
    exact eq_nil_of_trimStart hv hc htrim

theorem ownText_of_parse {x : String} {e : Expr} (h : parse x = .ok e) (hx : e.render = x)
    (htruth : isTruthWord x = false) (hlast : x.toList.getLast? ≠ some '=') : ∃ p, OwnText x e p := by
  obtain ⟨p, hread⟩ := reads_of_parse_own h hx
  exact ⟨p, hread, hx, htruth, hlast⟩

/-- **An expression that is its own text is kept as it stands where it is an argument**, but for a truth word. -/
theorem Reads.own_arg {x : String} {e : Expr} {p : Bool} (h : Reads (.piped e p) x.toList []) (hx : e.render = x)
    {k : List Char} (hk : Stops k) : ReadsArg (.positional (positionalValue e) x) (x.toList ++ k) k := by
  have hread : Reads (.piped e p) (x.toList ++ k) k := by
    cases k with
    | nil => simpa using h
    | cons c r =>
      have hlast : x.toList.getLast? = some '=' → endsName (c :: r) = true := fun _ => endsName_of_stops hk
      exact h.piped_append (by rw [hx]) hlast (Delimits.cons (Or.inr hk) r) (Reads.stop_of_stops hk)
  have hpiece : pieceOf e p (x.toList ++ k) k = x := by
    rw [pieceOf, before_append, hx, String.ofList_toList, ite_self]
  have harg := ReadsArg.positional hread fun key v _ => ne_cons_of_stops hk (by decide) v
  rwa [hpiece] at harg

/-! ## A call with one argument more in front -/

theorem intercalate_ne_empty {piece : String} (h : piece ≠ "") (pieces : List String) :
    ",".intercalate (piece :: pieces) ≠ "" := by
  cases pieces with
  | nil => simpa using h
  | cons q pieces =>
    rw [String.intercalate_cons_of_ne_nil (by simp)]
    simp [h]

theorem toCall_withFirst {l : List Arg} (hl : l ≠ []) (hpieces : ∀ a ∈ l, a.piece ≠ "") (e : Expr) (n : String) :
    ((ArgList.pushAll {} l).toCall n).withFirst e =
      ((ArgList.push {} (.positional e e.render)).pushAll l).toCall n := by
  obtain ⟨a, l, rfl⟩ := List.exists_cons_of_ne_nil hl
  have htext := intercalate_ne_empty (hpieces a List.mem_cons_self) (l.map Arg.piece)
  have hfirst : ArgList.push {} (.positional e e.render) = ⟨[e], [], [e.render]⟩ := rfl
  rw [ArgList.pushAll_eq, ArgList.pushAll_eq, hfirst]
  simp [ArgList.toCall, Call.withFirst, htext, String.intercalate_cons_of_ne_nil]

/-- both texts are targets, and the same one -/
def ReadAlike (a b : String) : Prop :=
  ∃ e, parse a = .ok e ∧ parse b = .ok e

namespace OwnText

variable {x : String} {e : Expr} {p : Bool} (h : OwnText x e p)
include h

theorem append {e' : Expr} {q : Bool} {t a : List Char} (ht : Delimits t) (hpipes : Reads (.pipes e p e' q) t a) :
    Reads (.piped e' q) (x.toList ++ t) a :=
  h.reads.piped_append (by rw [h.render]) (fun hlast => absurd hlast h.last) ht hpipes

/-- it is kept as it stands when it is an argument -/
theorem reads_arg {c : Char} (hc : c = ',' ∨ c = ')') (r : List Char) :
    Reads (.arg {} (ArgList.push {} (.positional e x))) (x.toList ++ c :: r) (c :: r) := by
  have hvalue : positionalValue e = e := by
    cases e with
    | name path =>
      have hpath : path = x := h.render
      rw [positionalValue, hpath, h.truth]
      rfl
    | _ => rfl
  have hstops : Stops (c :: r) := hc
  rw [← hvalue]
  exact (h.reads.own_arg h.render hstops).reads

theorem nested_alone {n : List Char} (hn : Heads n) (mid : List Char) :
    Reads (.operand ((Call.mk (String.ofList n) [] [] "").withFirst e).toExpr)
      (n ++ '(' :: (x.toList ++ ')' :: mid)) mid := by
  have hcall := hn.reads_call (.last (h.reads_arg (Or.inr rfl) mid) (skipSpaces_cons rfl mid))
  simpa [ArgList.toCall, ArgList.push, Arg.args, Arg.pairs, Arg.piece, Keyed.insertAll, Call.withFirst, h.render]
    using hcall

theorem nested_args {n : List Char} (hn : Heads n) {acc : ArgList} {t mid : List Char}
    (hargs : Reads (.args {} acc) t mid) :
    Reads (.operand ((acc.toCall (String.ofList n)).withFirst e).toExpr) (n ++ '(' :: (x.toList ++ ',' :: t)) mid := by
  obtain ⟨l, hl, hpieces, rfl, hread⟩ := hargs.args_push
  rw [toCall_withFirst hl hpieces, h.render]
  exact hn.reads_call (.more (h.reads_arg (Or.inl rfl) t) (skipSpaces_cons rfl t) (hread _ rfl))

/-- what is applied to it reads as a call with it in front does, if the same is applied to both -/
theorem readAlike {text nested : String} {c : Call} {e' : Expr} {q : Bool} {mid : List Char}
    (hpipes : Reads (.pipes c.toExpr false e' q) mid []) (htext : Reads (.operand c.toExpr) text.toList mid)
    (hnested : Reads (.operand (c.withFirst e).toExpr) nested.toList mid) : ReadAlike (x ++ "|" ++ text) nested := by
  obtain ⟨r, hr⟩ := hpipes.pipes_of_lhs (c.withFirst e).toExpr
  obtain ⟨q₁, hbar⟩ := hr true
  obtain ⟨q₂, hplain⟩ := hr false
  refine ⟨r, ?_, parse_of_reads (.piped hnested hplain)⟩
  have happ : Reads (.pipes e p r q₁) ('|' :: text.toList) [] := .bar (skipSpaces_cons rfl _) htext hbar
  have hread : Reads (.piped r q₁) (x ++ "|" ++ text).toList [] := by
    simpa using h.append (Delimits.cons (Or.inl rfl) _) happ
  exact parse_of_reads hread

end OwnText

/-! ## Two ways to write a call -/

/-- a text goes on behind what it starts with -/
theorem skipSpaces_append_of_cons {s r : List Char} {c : Char} (h : skipSpaces s = c :: r) (t : List Char) :
    skipSpaces (s ++ t) = c :: (r ++ t) := by
  obtain ⟨u, hu, rfl⟩ := split_of_skipSpaces h
  simpa using skipSpaces_behind hu (isSpace_of_skipSpaces h) (r ++ t)

/-- nothing but spaces -/
def Blank (y : String) : Prop :=
  ∀ c ∈ y.toList, isSpace c = true

/-- **An application reads as the call it stands for.** An expression that is its own text is put in front of the
arguments, whatever they are. Only where `y` closes the call at once no comma stands between the two. -/
theorem pipe_eq_nested {x n y : String} {e e' : Expr} (hx : parse x = .ok e) (hown : e.render = x)
    (htruth : isTruthWord x = false) (hlast : x.toList.getLast? ≠ some '=')
    (hn : ∀ c ∈ n.toList, isNameChar c = true) (hcall : parse (callText n y) = .ok e') :
    (Blank y → ReadAlike (x ++ "|" ++ callText n y) (callText n x)) ∧
    (¬ Blank y → (∀ r, skipSpaces y.toList ≠ ')' :: r) →
      ReadAlike (x ++ "|" ++ callText n y) (callText n (x ++ "," ++ y))) ∧
    ∀ r, skipSpaces y.toList = ')' :: r →
      ReadAlike (x ++ "|" ++ callText n y) (callText n (x ++ String.ofList (')' :: r))) := by
  obtain ⟨p, hx⟩ := ownText_of_parse hx hown htruth hlast
  obtain ⟨q, hread⟩ := reads_callText hcall
  obtain ⟨hheads, c, mid, hpipes, ⟨hclose, rfl⟩ | ⟨acc, hargs, rfl⟩⟩ := piped_of_callText hn hread
  · -- the call is closed at once, so `y` is blank or goes on behind it
    have hempty := hheads.reads_empty hclose
    rw [← toList_callText] at hempty
    have halike {args : String} (hargs : args.toList ++ [')'] = x.toList ++ ')' :: mid) :
        ReadAlike (x ++ "|" ++ callText n y) (callText n args) := by
      refine hx.readAlike hpipes hempty ?_
      rw [toList_callText, hargs]
      exact hx.nested_alone hheads mid
    refine ⟨fun hblank => ?_, fun hblank hopen => ?_, fun r hr => ?_⟩
    · cases hclose.symm.trans (skipSpaces_behind hblank rfl [])
      exact halike rfl
    · exfalso
      cases hs : skipSpaces y.toList with
      | nil => exact hblank (List.dropWhile_eq_nil_iff.1 hs)
      | cons d r =>
        rw [skipSpaces_append_of_cons hs] at hclose
        cases (List.cons.inj hclose).1
        exact hopen r hs
    · cases hclose.symm.trans (skipSpaces_append_of_cons hr [')'])
      exact halike (by simp)
  · -- the call has arguments, so `y` starts with one
    obtain ⟨d, t, hstart, -, hd⟩ := hargs.starts
    have hopen {rest : List Char} (hrest : skipSpaces (y.toList ++ [')']) = ')' :: rest) : False :=
      hd (List.cons.inj (hstart.symm.trans hrest)).1
    have hfull := hheads.reads_call hargs
    rw [← toList_callText] at hfull
    refine ⟨fun hblank => (hopen (skipSpaces_behind hblank rfl [])).elim, fun _ _ => ?_,
      fun r hr => (hopen (skipSpaces_append_of_cons hr [')'])).elim⟩
    refine hx.readAlike hpipes hfull ?_
    rw [toList_callText]
    simpa using hx.nested_args hheads hargs

/-- the arguments of `f(b)` go behind `a` -/
theorem pipe_eq_nested_names :
    (parse "a" = .ok (.name "a") ∧ (Expr.name "a").render = "a" ∧ isTruthWord "a" = false ∧
      "a".toList.getLast? ≠ some '=' ∧ (∀ c ∈ "f".toList, isNameChar c = true) ∧
        parse (callText "f" "b") = .ok (.call "f" [.name "b"] [] "b")) ∧
      ReadAlike ("a" ++ "|" ++ callText "f" "b") (callText "f" ("a" ++ "," ++ "b")) := by
  have hx : parse "a" = .ok (.name "a") := by cbv
  have hcall : parse (callText "f" "b") = .ok (.call "f" [.name "b"] [] "b") := by cbv
  have hn : ∀ c ∈ "f".toList, isNameChar c = true := by
    intro c hc
    rw [show c = 'f' by simpa using hc]
    rfl
  have hblank : ¬ Blank "b" := by
    intro h
    cases h 'b' (by decide)
  refine ⟨⟨hx, rfl, by decide, by decide, hn, hcall⟩, ?_⟩
  refine (pipe_eq_nested hx rfl (by decide) (by decide) hn hcall).2.1 hblank fun r hr => ?_
  cases (List.cons.inj hr).1

/-- where the text behind the name closes the call at once, nothing may stand between a comma and that parenthesis -/
theorem pipe_ne_nested_closed :
    ¬ ∀ (x n y : String) (e : Expr) (c : Call), parse x = .ok e → e.render = x → isTruthWord x = false →
      x.toList.getLast? ≠ some '=' → (∀ ch ∈ n.toList, isNameChar ch = true) → parse (callText n y) = .ok c.toExpr →
      c.function = n → (¬ Blank y → parse (x ++ "|" ++ callText n y) = parse (callText n (x ++ "," ++ y))) ∧
        (Blank y → parse (x ++ "|" ++ callText n y) = parse (callText n x)) := by
  intro h
  have hx : parse "a" = .ok (.name "a") := by cbv
  have hcall : parse (callText "f" ")|f(b") =
      .ok (Call.mk "f" [(Call.mk "f" [] [] "").toExpr, .name "b"] [] "f(),b").toExpr := by cbv
  have hn : ∀ c ∈ "f".toList, isNameChar c = true := by
    intro c hc
    rw [show c = 'f' by simpa using hc]
    rfl
  have hblank : ¬ Blank ")|f(b" := by
    intro h
    cases h 'b' (by decide)
  have hsame := (h "a" "f" ")|f(b" _ _ hx rfl (by decide) (by decide) hn hcall rfl).1 hblank
  have hpiped : parse ("a" ++ "|" ++ callText "f" ")|f(b") =
      .ok (.call "f" [.call "f" [.name "a"] [] "a", .name "b"] [] "f(a),b") := by cbv
  have hnested : parse (callText "f" ("a" ++ "," ++ ")|f(b")) = .error (.missingExpr 4) := by cbv
  rw [hpiped, hnested] at hsame
  cases hsame

end MetricQuery.Target
