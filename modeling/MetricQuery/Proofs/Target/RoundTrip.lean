/-
Targets written and read again.

A call is written from the text it keeps of its arguments and not from the arguments, and that text is put together:
most arguments stand in it as they were read, an argument with applications stands as the call they come to.
`Canonical` says of an expression that it is read again from its own text, of a call that its arguments are, one piece
of text for each.

- `Reads.canonical`: what is read from a text without escapes is canonical. The induction is on the grammar; a piece
  kept as it stood is read again by `Reads.replace`, one that was rewritten because the call it stands for is
  canonical.
- `parse_render`: hence a target is read again from its text as the same tree.
-/
import MetricQuery.Proofs.Target.Tree
import MetricQuery.Proofs.Target.Unescaped

namespace MetricQuery.Target

open Text

/-! ## Truth words -/

/-- no positional argument anywhere is a bare name that reads as a truth value -/
def Expr.NoBareTruth (e : Expr) : Prop :=
  ∀ c, Occurs c e → ∀ path, .name path ∈ c.args → isTruthWord path = false

theorem Expr.NoBareTruth.arg {c : Call} (h : c.toExpr.NoBareTruth) {e : Expr} (he : e ∈ c.args) : e.NoBareTruth :=
  fun c' ho => h c' (.arg he ho)

theorem positionalValue_of_arg {c : Call} (h : c.toExpr.NoBareTruth) {e : Expr} (he : e ∈ c.args) :
    positionalValue e = e := by
  cases e with
  | name path => rw [positionalValue, if_neg (by simp [h c .self path he])]
  | call f args named argText => rfl
  | number value literal => rfl
  | string value quote => rfl
  | flag value => rfl

/-- an argument that is a bare truth word has no arguments itself, so what it is read as does not matter here -/
theorem noBareTruth_of_positionalValue {e : Expr} (h : (positionalValue e).NoBareTruth) : e.NoBareTruth := by
  cases e with
  | name path =>
    intro c ho
    cases ho
  | call f args named argText => exact h
  | number value literal => exact h
  | string value quote => exact h
  | flag value => exact h

/-- the call an application is made of has no bare truth words if the application has none -/
theorem noBareTruth_of_withFirst {c : Call} {lhs : Expr} (h : (c.withFirst lhs).toExpr.NoBareTruth) :
    c.toExpr.NoBareTruth := by
  obtain ⟨f, args, named, argText⟩ := c
  intro ⟨f', args', named', argText'⟩ ho path hpath
  cases ho with
  | self => exact h _ .self path (List.mem_cons_of_mem lhs hpath)
  | arg he ho => exact h _ (.arg (List.mem_cons_of_mem lhs he) ho) path hpath
  | named hp ho => exact h _ (.named hp ho) path hpath

/-! ## Canonical expressions -/

/-- a call that is read again from its own text: its name is read in front of any arguments, and its arguments from the
text it keeps of them, onto any read before -/
structure Call.Canonical (c : Call) : Prop where
  function : ∀ t, ∃ d r, Bare (c.function.toList ++ '(' :: t) d r c.function.toList ('(' :: t)
  args : (c.args = [] ∧ c.named = [] ∧ c.argText = "") ∨ ∃ pieces, pieces ≠ [] ∧ c.argText = ",".intercalate pieces ∧
    ∀ args texts k, Reads (.args ⟨args, [], texts⟩ ⟨args ++ c.args, c.named, texts ++ pieces⟩)
      (c.argText.toList ++ ')' :: k) k

/-- an expression that is read again from its own text -/
def Expr.Canonical : Expr → Prop
  | .call f args named argText => Call.Canonical ⟨f, args, named, argText⟩
  | e => ∀ k, Stops k → Reads (.operand e) (e.render.toList ++ k) k

theorem Call.Canonical.reads {c : Call} (h : c.Canonical) (k : List Char) :
    Reads (.operand c.toExpr) (c.toExpr.render.toList ++ k) k := by
  obtain ⟨f, args, named, argText⟩ := c
  obtain ⟨d, r, hbare⟩ := h.function (argText.toList ++ ')' :: k)
  have hrender : (Call.mk f args named argText).toExpr.render.toList ++ k =
      f.toList ++ '(' :: (argText.toList ++ ')' :: k) := by
    simp [Call.toExpr, Expr.render]
  rw [hrender]
  rcases h.args with ⟨hargs, hnamed, htext⟩ | ⟨pieces, -, htext, hread⟩
  · simp only at hargs hnamed htext
    subst hargs hnamed htext
    simpa using Reads.emptyCall hbare (skipSpaces_cons (by decide) _)
  · have hread' := hread [] [] k
    obtain ⟨e, t, hstart, -, hclose⟩ := hread'.starts
    have hopen : ∀ after, skipSpaces (argText.toList ++ ')' :: k) ≠ ')' :: after := by
      intro after hafter
      rw [hstart] at hafter
      exact hclose (List.cons.inj hafter).1
    have hcall := Reads.call hbare hopen hread'
    simpa [ArgList.toCall, ← htext] using hcall

theorem Expr.Canonical.reads {e : Expr} (h : e.Canonical) {k : List Char} (hk : Stops k) :
    Reads (.operand e) (e.render.toList ++ k) k := by
  cases e with
  | call f args named argText => exact Call.Canonical.reads (c := ⟨f, args, named, argText⟩) h k
  | name path => exact h k hk
  | number value literal => exact h k hk
  | string value quote => exact h k hk
  | flag value => exact h k hk

/-- a canonical expression is read without any application behind it -/
theorem Expr.Canonical.reads_piped {e : Expr} (h : e.Canonical) {k : List Char} (hk : Stops k) :
    Reads (.piped e false) (e.render.toList ++ k) k :=
  .piped (h.reads hk) (Reads.stop_of_stops hk)

/-- a canonical expression is read as an argument, and its own text is kept of it -/
theorem Expr.Canonical.reads_arg {e : Expr} (h : e.Canonical) {k : List Char} (hk : Stops k) (args : List Expr)
    (named : Keyed Expr) (texts : List String) :
    Reads (.arg ⟨args, named, texts⟩ ⟨args ++ [positionalValue e], named, texts ++ [e.render]⟩)
      (e.render.toList ++ k) k := by
  have hread : Reads (.arg ⟨args, named, texts⟩ _) _ k :=
    .positional (h.reads_piped hk) fun key v _ => ne_cons_of_stops hk ⟨by decide, by decide⟩ v
  simpa [ArgList.withArg, pieceOf, before_append] using hread

/-! ## Applications -/

/-- with a canonical first argument in front a canonical call is canonical -/
theorem Call.Canonical.withFirst {c : Call} (h : c.Canonical) {lhs : Expr} (hlhs : lhs.Canonical)
    (hvalue : positionalValue lhs = lhs) : (c.withFirst lhs).Canonical := by
  obtain ⟨f, args, named, argText⟩ := c
  refine ⟨h.function, Or.inr ?_⟩
  have harg : ∀ (k : List Char), Stops k → ∀ (args : List Expr) (texts : List String),
      Reads (.arg ⟨args, [], texts⟩ ⟨args ++ [lhs], [], texts ++ [lhs.render]⟩) (lhs.render.toList ++ k) k := by
    intro k hk args texts
    have := hlhs.reads_arg hk args [] texts
    rwa [hvalue] at this
  rcases h.args with ⟨hargs, hnamed, htext⟩ | ⟨pieces, hne, htext, hread⟩
  · simp only at hargs hnamed htext
    subst hargs hnamed htext
    refine ⟨[lhs.render], by simp, by simp [Call.withFirst], fun args texts k => ?_⟩
    have hlast := Reads.last (harg (')' :: k) (Or.inr rfl) args texts) (skipSpaces_cons (by decide) k)
    simpa [Call.withFirst] using hlast
  · have hnonempty : argText ≠ "" := by
      rintro rfl
      obtain ⟨d, t, hstart, -, hclose⟩ := (hread [] [] []).starts
      rw [String.toList_empty, List.nil_append, skipSpaces_cons (by decide)] at hstart
      exact hclose (List.cons.inj hstart).1.symm
    simp only at htext hread
    refine ⟨lhs.render :: pieces, by simp, ?_, fun args' texts k => ?_⟩
    · simp only [Call.withFirst, if_neg hnonempty]
      rw [htext, String.intercalate_cons_of_ne_nil hne]
    · have hmore := Reads.more (harg (',' :: (argText.toList ++ ')' :: k)) (Or.inl rfl) args' texts)
        (skipSpaces_cons (by decide) _) (hread (args' ++ [lhs]) (texts ++ [lhs.render]) k)
      simpa [Call.withFirst, hnonempty] using hmore

/-! ## What is read is canonical -/

/-- what is shown of an item by induction on the grammar; arguments are read again onto any read before, each from one
piece of text -/
def Item.Canonical (rest : List Char) : Item → Prop
  | .operand e => e.NoBareTruth → e.Canonical
  | .pipes lhs _ e _ => e.NoBareTruth → lhs.NoBareTruth ∧ (lhs.Canonical → e.Canonical)
  | .piped e _ => e.NoBareTruth → e.Canonical
  | .arg acc acc' => rest ≠ [] → ∃ es piece, acc'.args = acc.args ++ es ∧ acc'.pieces = acc.pieces ++ [piece] ∧
    ((∀ e ∈ es, e.NoBareTruth) → ∀ args texts k, Stops k →
      Reads (.arg ⟨args, acc.named, texts⟩ ⟨args ++ es, acc'.named, texts ++ [piece]⟩) (piece.toList ++ k) k)
  | .args acc acc' => ∃ es pieces, acc'.args = acc.args ++ es ∧ acc'.pieces = acc.pieces ++ pieces ∧ pieces ≠ [] ∧
    ((∀ e ∈ es, e.NoBareTruth) → ∀ args texts k,
      Reads (.args ⟨args, acc.named, texts⟩ ⟨args ++ es, acc'.named, texts ++ pieces⟩)
        ((",".intercalate pieces).toList ++ ')' :: k) k)

/-- a name without escapes is read again in front of what ends a name -/
theorem Bare.canonical {s r name a : List Char} {c : Char} (h : Bare s c r name a) (hs : unescapedFrom none s = true)
    {b : List Char} (hb : Ends a b) : ∃ r', Bare (name ++ b) c r' name b := by
  obtain ⟨hname, hslash, -⟩ := h.scans.plain (unescapedFrom_skipSpaces h.starts hs)
  have hbare : Bare (name ++ a) c r name a := by
    rw [← hname]
    exact ⟨skipSpaces_cons (isSpace_of_skipSpaces h.starts) r, h.plain, h.number, h.scans, h.nonempty⟩
  obtain ⟨v, hv, hread⟩ := hbare.replace
  cases List.append_cancel_right hv
  exact hread b hb fun _ => Or.inr hslash

/-- an argument kept as it stood is read again onto any arguments -/
theorem Reads.verbatim {acc acc' : ArgList} {s a : List Char} (h : Reads (.arg acc acc') s a) (ha : a ≠ [])
    {k : List Char} (hk : Stops k) : ∃ v, s = v ++ a ∧ Reads (.arg acc acc') (v ++ k) k := by
  obtain ⟨v, hv, hread⟩ := h.replace
  exact ⟨v, hv, hread k ⟨fun hnil => absurd hnil ha, Or.inl hk⟩⟩

/-- **What is read from a text without escapes is canonical.** -/
theorem Reads.canonical {i : Item} {s a : List Char} (h : Reads i s a) (hs : unescapedFrom none s = true) :
    i.Canonical a := by
  induction h with
  | @string s r value rest q hstart h =>
    intro _ k _
    have hrender : (Expr.string (String.ofList value) q).render.toList ++ k =
        q.char :: (escapeQuote q.char value ++ q.char :: k) := by
      simp [Expr.render, renderString]
    rw [hrender]
    refine .string q (skipSpaces_cons (isSpace_of_skipSpaces hstart) _) (scanString_escape ?_ h k)
    cases q <;> decide
  | @number s c r e rest hstart hc h =>
    intro _
    obtain ⟨x, v, rfl, rfl, -, -, hread⟩ := readNumber_start hc h
    intro k hk
    have hrender : (Expr.number x (String.ofList (c :: v))).render.toList ++ k = c :: (v ++ k) := by simp [Expr.render]
    rw [hrender]
    exact .number (skipSpaces_cons (isSpace_of_skipSpaces hstart) _) hc (hread k (goesOn_of_stops hk))
  | @name s c r name rest h hparen =>
    intro _ k hk
    obtain ⟨r', hbare⟩ := h.canonical hs (Or.inl hk : Ends rest k)
    have hrender : (Expr.name (String.ofList name)).render.toList ++ k = name ++ k := by simp [Expr.render]
    rw [hrender]
    exact .name hbare (ne_cons_of_stops hk ⟨by decide, by decide⟩)
  | @emptyCall s c r name inner after h hclose =>
    intro _
    refine ⟨fun t => ?_, Or.inl ⟨rfl, rfl, rfl⟩⟩
    obtain ⟨r', hbare⟩ := h.canonical hs (Follows.cons (by decide) inner t).ends
    exact ⟨c, r', by simpa using hbare⟩
  | @call s c r name inner acc after h hopen hargs ih =>
    intro htruth
    obtain ⟨es, pieces, hes, hpieces, hne, hread⟩ := ih (unescapedFrom_cons (h.unescaped hs) ⟨by decide, by decide⟩).2
    rw [List.nil_append] at hes hpieces
    refine ⟨fun t => ?_, Or.inr ⟨pieces, hne, by rw [← hpieces]; rfl, fun args texts k => ?_⟩⟩
    · obtain ⟨r', hbare⟩ := h.canonical hs (Follows.cons (by decide) inner t).ends
      exact ⟨c, r', by simpa [ArgList.toCall] using hbare⟩
    · have hargs' : ∀ e ∈ es, e.NoBareTruth := by
        rw [← hes]
        exact fun e he => Expr.NoBareTruth.arg (c := acc.toCall (String.ofList name)) htruth he
      have hread' := hread hargs' args texts k
      simpa [ArgList.toCall, hes, hpieces] using hread'
  | stop _ => exact fun htruth => ⟨htruth, id⟩
  | @bar s r c mid lhs p e p' rest hbar hc h ihc ih =>
    intro htruth
    have hr := (unescapedFrom_cons (unescapedFrom_skipSpaces hbar hs) ⟨by decide, by decide⟩).2
    obtain ⟨hcall, hcanonical⟩ := ih (hc.unescaped hr) htruth
    have hmem : lhs ∈ (c.withFirst lhs).args := List.mem_cons_self
    refine ⟨Expr.NoBareTruth.arg hcall hmem, fun hlhs => hcanonical ?_⟩
    have hc' : c.Canonical := ihc hr (noBareTruth_of_withFirst hcall)
    exact hc'.withFirst hlhs (positionalValue_of_arg hcall hmem)
  | @piped s e mid e' p rest he h ihe ih =>
    intro htruth
    obtain ⟨hlhs, hcanonical⟩ := ih (he.unescaped hs) htruth
    exact hcanonical (ihe hs hlhs)
  | @named acc s key p t value p' after value' hkey hvalue hv hnew ihkey ihvalue =>
    intro hrest
    refine ⟨[], _, (List.append_nil _).symm, rfl, fun _ args texts k hk => ?_⟩
    have hnamed : Reads (.arg ⟨args, acc.named, texts⟩ _) _ _ := .named hkey hvalue hv hnew
    obtain ⟨v, rfl, hread⟩ := hnamed.verbatim hrest hk
    simpa [ArgList.withNamed, before_append] using hread
  | @positional acc s e p rest h hkey ih =>
    intro hrest
    refine ⟨[positionalValue e], _, rfl, rfl, fun htruth args texts k hk => ?_⟩
    cases p with
    | true =>
      have he : e.Canonical := ih hs (noBareTruth_of_positionalValue (htruth _ List.mem_cons_self))
      exact he.reads_arg hk args acc.named texts
    | false =>
      have hpositional : Reads (.arg ⟨args, acc.named, texts⟩ _) _ _ := .positional h hkey
      obtain ⟨v, rfl, hread⟩ := hpositional.verbatim hrest hk
      simpa [ArgList.withArg, pieceOf, before_append] using hread
  | @last acc acc' s rest after h hclose ih =>
    have hrest : rest ≠ [] := by
      rintro rfl
      cases hclose
    obtain ⟨es, piece, hes, hpieces, hread⟩ := ih hs hrest
    refine ⟨es, [piece], hes, hpieces, by simp, fun htruth args texts k => ?_⟩
    rw [String.intercalate_singleton]
    exact .last (hread htruth args texts (')' :: k) (Or.inr rfl)) (skipSpaces_cons (by decide) k)
  | @more acc acc' acc'' s rest mid after h hcomma hmore ih ihmore =>
    have hrest : rest ≠ [] := by
      rintro rfl
      cases hcomma
    obtain ⟨es, piece, hes, hpieces, hread⟩ := ih hs hrest
    have hmid := (unescapedFrom_cons (unescapedFrom_skipSpaces hcomma (h.unescaped hs)) ⟨by decide, by decide⟩).2
    obtain ⟨es', pieces, hes', hpieces', hne, hread'⟩ := ihmore hmid
    refine ⟨es ++ es', piece :: pieces, ?_, ?_, by simp, fun htruth args texts k => ?_⟩
    · rw [hes', hes, List.append_assoc]
    · rw [hpieces', hpieces, List.append_assoc]
      rfl
    · have harg := hread (fun e he => htruth e (List.mem_append_left _ he)) args texts
        (',' :: ((",".intercalate pieces).toList ++ ')' :: k)) (Or.inl rfl)
      have hargs := hread' (fun e he => htruth e (List.mem_append_right _ he)) (args ++ es) (texts ++ [piece]) k
      have htext : (",".intercalate (piece :: pieces)).toList ++ ')' :: k =
          piece.toList ++ ',' :: ((",".intercalate pieces).toList ++ ')' :: k) := by
        simp [String.intercalate_cons_of_ne_nil hne]
      rw [htext]
      simpa using Reads.more harg (skipSpaces_cons (by decide) _) hargs

/-! ## Whole targets -/

/-- **A target is read again from its text.** The tree is the same with all it keeps: names, literals, quotes,
arguments by place and by name, and the text of every argument list. -/
theorem parse_render {text : String} {e : Expr} (h : parse text = .ok e) (htext : Unescaped text) (he : e.NoBareTruth) :
    parse e.render = .ok e := by
  have hread : ∃ rest, readExpr text.toList = .ok (e, rest) := by
    unfold parse at h
    split at h
    · cases h
    · rename_i e' rest hread
      split at h
      · cases h
        exact ⟨rest, hread⟩
      · cases h
  obtain ⟨rest, hread⟩ := hread
  obtain ⟨p, hreads⟩ := reads_of_readExpr hread
  have hcanonical : e.Canonical := hreads.canonical htext he
  have hagain := readExpr_of_reads (hcanonical.reads_piped (k := []) trivial)
  rw [List.append_nil] at hagain
  rw [parse, hagain]
  rfl

/-- an application comes to a call whose text is read again -/
theorem parse_render_piped :
    parse "x|f(y)" = .ok (.call "f" [.name "x", .name "y"] [] "x,y") ∧ Unescaped "x|f(y)" ∧
      (Expr.call "f" [.name "x", .name "y"] [] "x,y").NoBareTruth ∧
        parse (Expr.call "f" [.name "x", .name "y"] [] "x,y").render =
          .ok (.call "f" [.name "x", .name "y"] [] "x,y") := by
  have hparse : parse "x|f(y)" = .ok (.call "f" [.name "x", .name "y"] [] "x,y") := by cbv
  have hescape : Unescaped "x|f(y)" := by decide
  have htruth : (Expr.call "f" [.name "x", .name "y"] [] "x,y").NoBareTruth := by
    rintro ⟨f, args, named, argText⟩ ho path hpath
    cases ho with
    | self =>
      simp only [List.mem_cons, Expr.name.injEq, List.not_mem_nil, or_false] at hpath
      rcases hpath with rfl | rfl <;> decide
    | arg he ho =>
      simp only [List.mem_cons, List.not_mem_nil, or_false] at he
      rcases he with rfl | rfl <;> cases ho
    | named hp ho => cases hp
  exact ⟨hparse, hescape, htruth, parse_render hparse hescape htruth⟩

end MetricQuery.Target
