/-
The metric path inside the text of a target.

A target that is made of calls has a metric path in it: the one that is reached by the first arguments. The reader gets
there by the grammar, and `metricIn` by looking through the text of the target once more, where it starts over at each
parenthesis and stops at the first character that no path can hold. In that text stand the calls in front of the path,
one by one: the name of a function, a parenthesis, and the spaces that were written behind it (`Leads`).

- `Reads.leads`: the text that an expression is read from starts so. There the calls are only those that are not
  applied with a bar.
- `Reads.shows`: the text that is shown of an expression starts so. The induction is on the grammar; most arguments are
  shown as they were written, and the fact on written texts is what carries them.
- `metricIn_render`: the path that is found is the one that is reached exactly if no space stands behind a parenthesis in
  front of it, and no `=` is in the name of a function there.
-/
import MetricQuery.Series.Path
import MetricQuery.Proofs.Target.ArgumentList
import MetricQuery.Proofs.Target.Unescaped

namespace MetricQuery

open Target

/-! ## One look through a name -/

/-- a name without escapes, `n` braces being open in front of it, and the text behind it -/
inductive Spells : Nat → List Char → List Char → Prop
  | stop {t : List Char} : Spells 0 [] t
  | char {n v t} {c : Char} (hc : isNameChar c = true) (h : Spells n v t) : Spells n (c :: v) t
  | openBrace {n v t} (h : Spells (n + 1) v t) : Spells n ('{' :: v) t
  | closeBrace {n v t} (h : Spells n v t) : Spells (n + 1) ('}' :: v) t
  | comma {n v t} (h : Spells (n + 1) v t) : Spells (n + 1) (',' :: v) t
  | equals {n v t} (hends : endsName (v ++ t) = true) (h : Spells n v t) : Spells n ('=' :: v) t

/-- a name that is its own text has no escapes -/
theorem spells_of_scans {n : Nat} {s v t : List Char} (h : Scans n s v t) (hs : s = v ++ t) : Spells n v t := by
  induction h with
  | stop _ _ => exact .stop
  | lastEscape => cases hs
  | escape c h _ =>
    -- the backslash is not kept, so the name is shorter than its text
    have hlen := h.length_le
    have := congrArg List.length hs
    simp only [List.cons_append, List.length_cons, List.length_append] at this
    omega
  | char hc _ ih => exact .char hc (ih (List.cons.inj hs).2)
  | openBrace _ ih => exact .openBrace (ih (List.cons.inj hs).2)
  | closeBrace _ ih => exact .closeBrace (ih (List.cons.inj hs).2)
  | comma _ ih => exact .comma (ih (List.cons.inj hs).2)
  | equals hr _ ih =>
    obtain rfl := (List.cons.inj hs).2
    exact .equals hr (ih rfl)

theorem ne_of_isNameChar {c d : Char} (hc : isNameChar c = true) (hd : isNameChar d = false) : c ≠ d := by
  rintro rfl
  rw [hc] at hd
  cases hd

namespace Spells

variable {n : Nat} {v t : List Char}

/-- a name closes the braces that it opens, and those that were open before -/
theorem count_eq (h : Spells n v t) : v.count '}' = v.count '{' + n := by
  induction h with
  | stop => rfl
  | char hc _ ih =>
    rwa [List.count_cons_of_ne (ne_of_isNameChar hc (by decide)), List.count_cons_of_ne (ne_of_isNameChar hc (by decide))]
  | openBrace _ ih =>
    rw [List.count_cons_self, List.count_cons_of_ne (by decide), ih]
    omega
  | closeBrace _ ih =>
    rw [List.count_cons_self, List.count_cons_of_ne (by decide), ih]
    omega
  | comma _ ih => rwa [List.count_cons_of_ne (by decide), List.count_cons_of_ne (by decide)]
  | equals _ _ ih => rwa [List.count_cons_of_ne (by decide), List.count_cons_of_ne (by decide)]

/-- **A name without `=` is gone through to its end**, whatever stands behind it. -/
theorem metricScan_eq (h : Spells n v t) (heq : '=' ∉ v) (read t' : List Char) :
    metricScan n read (v ++ t') = metricScan 0 (read ++ v) t' := by
  induction h generalizing read with
  | stop => simp
  | char hc _ ih =>
    rw [List.cons_append, metricScan, if_pos hc, ih (List.not_mem_of_not_mem_cons heq)]
    simp
  | openBrace _ ih =>
    rw [List.cons_append, metricScan, if_neg (by decide), if_pos rfl, ih (List.not_mem_of_not_mem_cons heq)]
    simp
  | closeBrace _ ih =>
    rw [List.cons_append, metricScan, if_neg (by decide), if_neg (by decide), if_pos ⟨rfl, Nat.succ_pos _⟩,
      Nat.add_sub_cancel, ih (List.not_mem_of_not_mem_cons heq)]
    simp
  | comma _ ih =>
    rw [List.cons_append, metricScan, if_neg (by decide), if_neg (by decide), if_neg (by simp),
      if_pos ⟨rfl, Nat.succ_pos _⟩, ih (List.not_mem_of_not_mem_cons heq)]
    simp
  | equals _ _ _ => exact absurd List.mem_cons_self heq

/-- in front of a parenthesis nothing that is read ends in `=` outside of braces -/
theorem endsName_eq_false (h : Spells 0 v ('(' :: t)) : endsName (v ++ '(' :: t) = false := by
  generalize hn : 0 = n at h
  generalize ht : '(' :: t = t' at h
  induction h with
  | stop => rw [← ht]; rfl
  | char hc _ _ =>
    refine Bool.eq_false_iff.2 fun hends => ?_
    simp only [List.cons_append, endsName, Bool.or_eq_true, beq_iff_eq] at hends
    rcases hends with (rfl | rfl) | rfl <;> cases hc
  | openBrace _ _ => rfl
  | closeBrace _ _ => cases hn
  | comma _ _ => cases hn
  | equals hends _ ih =>
    subst ht
    rw [ih hn rfl] at hends
    cases hends

/-- **A name with `=` in front of a parenthesis is left there**, where a brace is still open. -/
theorem exists_metricScan (h : Spells n v ('(' :: t)) (heq : '=' ∈ v) (read t' : List Char) :
    ∃ w, metricScan n read (v ++ t') = read ++ w ∧ w.count '}' < w.count '{' + n := by
  generalize ha : '(' :: t = a at h
  induction h generalizing read with
  | stop => cases heq
  | @char n v _ c hc _ ih =>
    obtain ⟨w, hw, hcount⟩ :=
      ih ((List.mem_cons.1 heq).resolve_left (ne_of_isNameChar hc (by decide)).symm) (read ++ [c]) ha
    refine ⟨c :: w, by rw [List.cons_append, metricScan, if_pos hc, hw]; simp, ?_⟩
    rwa [List.count_cons_of_ne (ne_of_isNameChar hc (by decide)), List.count_cons_of_ne (ne_of_isNameChar hc (by decide))]
  | openBrace _ ih =>
    obtain ⟨w, hw, hcount⟩ := ih (by simpa using heq) (read ++ ['{']) ha
    refine ⟨'{' :: w, by rw [List.cons_append, metricScan, if_neg (by decide), if_pos rfl, hw]; simp, ?_⟩
    rw [List.count_cons_self, List.count_cons_of_ne (by decide)]
    omega
  | closeBrace _ ih =>
    obtain ⟨w, hw, hcount⟩ := ih (by simpa using heq) (read ++ ['}']) ha
    refine ⟨'}' :: w, ?_, ?_⟩
    · rw [List.cons_append, metricScan, if_neg (by decide), if_neg (by decide), if_pos ⟨rfl, Nat.succ_pos _⟩,
        Nat.add_sub_cancel, hw]
      simp
    · rw [List.count_cons_self, List.count_cons_of_ne (by decide)]
      omega
  | comma _ ih =>
    obtain ⟨w, hw, hcount⟩ := ih (by simpa using heq) (read ++ [',']) ha
    refine ⟨',' :: w, ?_, by rwa [List.count_cons_of_ne (by decide), List.count_cons_of_ne (by decide)]⟩
    rw [List.cons_append, metricScan, if_neg (by decide), if_neg (by decide), if_neg (by simp),
      if_pos ⟨rfl, Nat.succ_pos _⟩, hw]
    simp
  | @equals n v _ hends h _ =>
    subst ha
    refine ⟨[], ?_, ?_⟩
    · rw [List.cons_append, metricScan, if_neg (by decide), if_neg (by decide), if_neg (by simp), if_neg (by simp),
        if_neg (by decide), List.append_nil]
    · cases n with
      | zero =>
        rw [h.endsName_eq_false] at hends
        cases hends
      | succ n => exact Nat.succ_pos _

end Spells

/-! ## Calls in front of a path -/

/-- the name of a function and the spaces behind its parenthesis -/
abbrev Front := List Char × List Char

/-- the text of what stands in front of a path -/
def opening (fronts : List Front) : List Char :=
  fronts.flatMap fun f => f.1 ++ '(' :: f.2

/-- a text that starts with calls, one in the other, and the path inside them -/
structure Leads (m : List Char) (fronts : List Front) (text tail : List Char) : Prop where
  text_eq : text = opening fronts ++ (m ++ tail)
  names : ∀ f ∈ fronts, ∃ t, Spells 0 f.1 ('(' :: t)
  spaces : ∀ f ∈ fronts, ∀ c ∈ f.2, Text.isSpace c = true
  path : ∃ t, Spells 0 m t
  nonempty : m ≠ []
  goesOn : goesOn tail = false
  paren : ∀ t, tail ≠ '(' :: t

/-- behind a path nothing more is read -/
theorem metricScan_behind {t : List Char} (hgo : goesOn t = false) (hparen : ∀ r, t ≠ '(' :: r) (read : List Char) :
    metricScan 0 read t = read := by
  cases t with
  | nil => rfl
  | cons c t =>
    simp only [Target.goesOn, Bool.or_eq_false_iff, beq_eq_false_iff_ne] at hgo
    have hc : c ≠ '(' := fun hc => hparen t (hc ▸ rfl)
    rw [metricScan, hgo.1.1, if_neg (by simp), if_neg hgo.1.2, if_neg (by simp), if_neg (by simp), if_neg hc]

theorem goesOn_of_isSpace {c : Char} (h : Text.isSpace c = true) (t : List Char) : goesOn (c :: t) = false := by
  simp only [Text.isSpace, Bool.or_eq_true, beq_iff_eq] at h
  rcases h with ((rfl | rfl) | rfl) | rfl <;> rfl

theorem ne_paren_of_isSpace {c : Char} {t : List Char} (h : Text.isSpace c = true) : ∀ r, c :: t ≠ '(' :: r := by
  rintro r hr
  rw [(List.cons.inj hr).1] at h
  cases h

/-- **The path inside calls is found exactly if they are written without spaces in front of it** and their names have no
`=`. -/
theorem Leads.metricScan_eq_iff {m : List Char} {fronts : List Front} {text tail : List Char}
    (h : Leads m fronts text tail) (heq : '=' ∉ m) :
    metricScan 0 [] text = m ↔ ∀ f ∈ fronts, f.2 = [] ∧ '=' ∉ f.1 := by
  obtain ⟨htext, hnames, hspaces, ⟨t, hpath⟩, hne, hgo, hparen⟩ := h
  subst htext
  induction fronts with
  | nil =>
    refine iff_of_true ?_ (by simp)
    rw [opening, List.flatMap_nil, List.nil_append, hpath.metricScan_eq heq]
    exact metricScan_behind hgo hparen m
  | cons f fronts ih =>
    obtain ⟨name, spaces⟩ := f
    obtain ⟨⟨t', hname⟩, hrest⟩ := List.forall_mem_cons.1 hnames
    obtain ⟨hblank, hblanks⟩ := List.forall_mem_cons.1 hspaces
    have ih := ih hrest hblanks
    have htext : opening ((name, spaces) :: fronts) ++ (m ++ tail) =
        name ++ '(' :: (spaces ++ (opening fronts ++ (m ++ tail))) := by
      simp [opening]
    rw [htext, List.forall_mem_cons]
    by_cases hequals : '=' ∈ name
    · refine iff_of_false ?_ fun hall => hall.1.2 hequals
      obtain ⟨w, hw, hcount⟩ := hname.exists_metricScan hequals [] ('(' :: (spaces ++ (opening fronts ++ (m ++ tail))))
      rw [hw, List.nil_append]
      rintro rfl
      exact absurd hpath.count_eq hcount.ne
    · rw [hname.metricScan_eq hequals, metricScan, if_neg (by decide), if_neg (by decide), if_neg (by simp),
        if_neg (by simp), if_pos rfl]
      cases spaces with
      | nil =>
        rw [List.nil_append, ih]
        exact (and_iff_right ⟨rfl, hequals⟩).symm
      | cons c spaces =>
        refine iff_of_false ?_ fun hall => absurd hall.1.1 (List.cons_ne_nil c spaces)
        have hspace : Text.isSpace c = true := hblank c List.mem_cons_self
        rw [List.cons_append, metricScan_behind (goesOn_of_isSpace hspace _) (ne_paren_of_isSpace hspace)]
        exact hne.symm

namespace Target

/-! ## Paths by the grammar -/

/-- the metric path that is reached by first arguments, through calls that have no named ones -/
inductive Expr.Reaches : Expr → String → Prop
  | name (m : String) : Reaches (.name m) m
  | call {f : String} {e : Expr} {args : List Expr} {argText m : String} (h : Reaches e m) :
    Reaches (.call f (e :: args) [] argText) m

theorem reaches_toExpr {c : Call} {m : String} (h : c.toExpr.Reaches m) :
    c.named = [] ∧ ∃ e, c.args.head? = some e ∧ e.Reaches m := by
  obtain ⟨f, args, named, argText⟩ := c
  cases h with
  | call h => exact ⟨rfl, _, rfl, h⟩

/-- the value of a positional argument reaches what the argument does -/
theorem reaches_of_positionalValue {e : Expr} {m : String} (h : (positionalValue e).Reaches m) : e.Reaches m := by
  cases e with
  | name path =>
    rw [positionalValue] at h
    split at h
    · cases h
    · exact h
  | call f args named argText => exact h
  | number value literal => exact h
  | string value quote => exact h
  | flag value => exact h

/-- without named arguments the first argument of all is the first one by place -/
theorem Arg.eq_positional {a : Arg} {l : List Arg} {value : Expr}
    (hnamed : ((ArgList.push {} a).pushAll l).named = [])
    (hvalue : ((ArgList.push {} a).pushAll l).args.head? = some value) : a = .positional value a.piece := by
  rw [ArgList.pushAll_eq] at hnamed hvalue
  cases a with
  | positional v piece =>
    cases hvalue
    rfl
  | named key v piece =>
    have hkey : key ∈ (((ArgList.push {} (.named key v piece)).named.insertAll (l.flatMap Arg.pairs)).keys) :=
      Keyed.mem_keys_insertAll.2 (Or.inr (Keyed.mem_keys_insertAll.2 (Or.inl (by simp [Arg.pairs]))))
    simp only at hnamed
    rw [hnamed] at hkey
    cases hkey

/-! ## Written texts -/

/-- a text that starts, spaces apart, with calls and the path inside them, in front of the rest of it -/
def Starts (m s a : List Char) : Prop :=
  ∃ u fronts text w, (∀ c ∈ u, Text.isSpace c = true) ∧ s = u ++ text ∧ Leads m fronts text (w ++ a)

theorem Starts.before {m s v a : List Char} (h : Starts m s (v ++ a)) : Starts m s a := by
  obtain ⟨u, fronts, text, w, hu, hs, hleads⟩ := h
  rw [← List.append_assoc] at hleads
  exact ⟨u, fronts, text, w ++ v, hu, hs, hleads⟩

/-- a call in front of a text that starts so -/
theorem Starts.call {m s a name t : List Char} (h : Starts m s a) (hname : Spells 0 name ('(' :: t)) :
    ∃ fronts w, Leads m fronts (name ++ '(' :: s) (w ++ a) := by
  obtain ⟨u, fronts, text, w, hu, rfl, hleads⟩ := h
  refine ⟨(name, u) :: fronts, w, ?_, ?_, ?_, hleads.path, hleads.nonempty, hleads.goesOn, hleads.paren⟩
  · rw [hleads.text_eq]
    simp [opening]
  · exact List.forall_mem_cons.2 ⟨⟨t, hname⟩, hleads.names⟩
  · exact List.forall_mem_cons.2 ⟨hu, hleads.spaces⟩

theorem Bare.spells {s r name a : List Char} {c : Char} (h : Bare s c r name a) (hs : unescapedFrom none s = true) :
    c :: r = name ++ a ∧ Spells 0 name a := by
  obtain ⟨hname, -, -⟩ := h.scans.plain (unescapedFrom_skipSpaces h.starts hs)
  exact ⟨hname, spells_of_scans h.scans hname⟩

/-- how the text that an item is read from starts, where its expression reaches a path -/
def Item.StartsAt (m : String) (s a : List Char) : Item → Prop
  | .operand e | .piped e _ => e.Reaches m → Starts m.toList s a
  | .pipes lhs _ e _ => e.Reaches m → lhs.Reaches m
  | .arg acc acc' => ∀ value piece, acc' = acc.push (.positional value piece) → value.Reaches m → Starts m.toList s a
  | .args acc acc' => acc = {} → acc'.named = [] → ∀ value, acc'.args.head? = some value → value.Reaches m →
    Starts m.toList s a

/-- **A text starts with the path** that its expression reaches, and with the calls in front of it. -/
theorem Reads.starts_at {i : Item} {s a : List Char} (h : Reads i s a) (hs : unescapedFrom none s = true) (m : String) :
    i.StartsAt m s a := by
  induction h with
  | string q hstart h =>
    intro hreach
    cases hreach
  | number hstart hc h =>
    obtain ⟨x, v, rfl, -⟩ := readNumber_start hc h
    intro hreach
    cases hreach
  | @name s c r name rest h hparen =>
    intro hreach
    cases hreach
    obtain ⟨hname, hspells⟩ := h.spells hs
    obtain ⟨u, hu, hsplit⟩ := split_of_skipSpaces h.starts
    rw [String.toList_ofList]
    refine ⟨u, [], c :: r, [], hu, hsplit, ?_, by simp, by simp, ⟨rest, hspells⟩, h.nonempty, h.scans.goesOn, hparen⟩
    rw [hname]
    rfl
  | emptyCall h hclose =>
    intro hreach
    cases hreach
  | @call s c r name inner acc after h hopen hargs ih =>
    intro hreach
    obtain ⟨hname, hspells⟩ := h.spells hs
    obtain ⟨hnamed, value, hvalue, hreach⟩ := reaches_toExpr hreach
    have hinner := (unescapedFrom_cons (h.unescaped hs) ⟨by decide, by decide⟩).2
    obtain ⟨fronts, w, hleads⟩ := (ih hinner rfl hnamed value hvalue hreach).call hspells
    obtain ⟨u, hu, hsplit⟩ := split_of_skipSpaces h.starts
    exact ⟨u, fronts, _, w, hu, by rw [hsplit, hname], hleads⟩
  | stop _ => exact id
  | @bar s r c mid lhs p e p' rest hbar hc h ihc ih =>
    intro hreach
    have hr := (unescapedFrom_cons (unescapedFrom_skipSpaces hbar hs) ⟨by decide, by decide⟩).2
    obtain ⟨-, value, hvalue, hreach⟩ := reaches_toExpr (ih (hc.unescaped hr) hreach)
    cases hvalue
    exact hreach
  | @piped s e mid e' p rest he h ihe ih =>
    intro hreach
    obtain ⟨v, rfl, -⟩ := h.replace
    exact (ihe hs (ih (he.unescaped hs) hreach)).before
  | named hkey hvalue hv hnew ihkey ihvalue =>
    intro value piece hpush
    have hlen := congrArg (fun acc => acc.args.length) hpush
    simp [ArgList.withNamed, ArgList.push, Arg.args] at hlen
  | positional h hkey ih =>
    intro value piece hpush hreach
    have hargs := congrArg ArgList.args hpush
    simp only [ArgList.withArg, ArgList.push, Arg.args, List.append_cancel_left_eq, List.cons.injEq, and_true] at hargs
    exact ih hs (reaches_of_positionalValue (hargs ▸ hreach))
  | @last acc acc' s rest after h hclose ih =>
    rintro rfl hnamed value hvalue hreach
    obtain ⟨a, -, -, rfl⟩ := reads_arg_iff.1 h
    have ha : a = .positional value a.piece := Arg.eq_positional (l := []) hnamed hvalue
    obtain ⟨u, -, rfl⟩ := split_of_skipSpaces hclose
    have hstart := ih hs value a.piece (by rw [← ha]) hreach
    rw [show u ++ ')' :: after = (u ++ [')']) ++ after by simp] at hstart
    exact hstart.before
  | @more acc acc' acc'' s rest mid after h hcomma hmore ih ihmore =>
    rintro rfl hnamed value hvalue hreach
    obtain ⟨a, -, -, rfl⟩ := reads_arg_iff.1 h
    obtain ⟨l, -, -, rfl, -⟩ := hmore.args_push
    have ha : a = .positional value a.piece := Arg.eq_positional hnamed hvalue
    obtain ⟨u, -, rfl⟩ := split_of_skipSpaces hcomma
    obtain ⟨v, rfl, -⟩ := hmore.replace
    have hstart := ih hs value a.piece (by rw [← ha]) hreach
    rw [show u ++ ',' :: (v ++ after) = (u ++ ',' :: v) ++ after by simp] at hstart
    exact hstart.before

/-- behind the text of an argument another one may end -/
theorem Starts.move {m v a k : List Char} (h : Starts m (v ++ a) a) (hk : Stops k) : Starts m (v ++ k) k := by
  obtain ⟨u, fronts, text, w, hu, hs, hleads⟩ := h
  obtain ⟨htext, hnames, hspaces, hpath, hne, hgo, hparen⟩ := hleads
  have hsplit : v ++ a = (u ++ (opening fronts ++ (m ++ w))) ++ a := by
    rw [hs, htext]
    simp
  have hv := List.append_cancel_right hsplit
  refine ⟨u, fronts, opening fronts ++ (m ++ (w ++ k)), w, hu, by rw [hv]; simp, rfl, hnames, hspaces, hpath, hne, ?_, ?_⟩
  · cases w with
    | nil => exact goesOn_of_stops hk
    | cons c w => exact hgo
  · cases w with
    | nil => exact ne_cons_of_stops hk ⟨by decide, by decide⟩
    | cons c w =>
      intro t ht
      exact hparen (w ++ a) (by rw [List.cons_append, (List.cons.inj ht).1])

/-! ## Shown texts -/

/-- the text shown of an expression starts with calls and the path inside them, wherever an argument may end -/
def Expr.Shows (m : List Char) (e : Expr) : Prop :=
  ∀ k, Stops k → ∃ fronts w, Leads m fronts (e.render.toList ++ k) (w ++ k)

theorem Expr.Shows.starts {m : List Char} {e : Expr} (h : e.Shows m) {k : List Char} (hk : Stops k) :
    Starts m (e.render.toList ++ k) k := by
  obtain ⟨fronts, w, hleads⟩ := h k hk
  exact ⟨[], fronts, _, w, by simp, rfl, hleads⟩

/-- what stands behind the first argument of a call goes on to the end of the call -/
theorem exists_behind (argText : String) (k : List Char) : ∃ r : List Char, Stops (r ++ k) ∧
    ∀ first : String, (if argText = "" then first else first ++ "," ++ argText).toList ++ ')' :: k =
      first.toList ++ (r ++ k) := by
  by_cases hempty : argText = ""
  · exact ⟨[')'], Or.inr rfl, fun first => by simp [hempty]⟩
  · exact ⟨',' :: (argText.toList ++ [')']), Or.inl rfl, fun first => by simp [hempty]⟩

/-- a call with one argument more in front starts with what that starts with -/
theorem Expr.Shows.withFirst {m t : List Char} {lhs : Expr} (h : lhs.Shows m) {c : Call}
    (hname : Spells 0 c.function.toList ('(' :: t)) : (c.withFirst lhs).toExpr.Shows m := by
  intro k _
  obtain ⟨r, hr, hfirst⟩ := exists_behind c.argText k
  obtain ⟨fronts, w, hleads⟩ := ((h.starts hr).before).call hname
  refine ⟨fronts, w, ?_⟩
  have htext : (c.withFirst lhs).toExpr.render.toList ++ k =
      c.function.toList ++ '(' :: (lhs.render.toList ++ (r ++ k)) := by
    rw [← hfirst]
    simp [Call.withFirst, Call.toExpr, Expr.render]
  rwa [htext]

/-- the name of a call that is read stands in front of a parenthesis -/
theorem Reads.spells {c : Call} {s a : List Char} (h : Reads (.operand c.toExpr) s a)
    (hs : unescapedFrom none s = true) : ∃ t, Spells 0 c.function.toList ('(' :: t) := by
  generalize hi : Item.operand c.toExpr = i at h
  cases h with
  | emptyCall h _ =>
    rw [Call.toExpr_inj (Item.operand.inj hi), String.toList_ofList]
    exact ⟨_, (h.spells hs).2⟩
  | call h _ _ =>
    rw [Call.toExpr_inj (Item.operand.inj hi)]
    exact ⟨_, by rw [ArgList.toCall, String.toList_ofList]; exact (h.spells hs).2⟩
  | number hstart hc h =>
    obtain ⟨x, v, rfl, -⟩ := readNumber_start hc h
    cases hi
  | _ => cases hi

/-- a list of arguments starts with its first one -/
theorem starts_pieces {m : List Char} {a : Arg} (h : ∀ k, Stops k → Starts m (a.piece.toList ++ k) k) (l : List Arg)
    (k : List Char) : Starts m ((",".intercalate ((ArgList.push {} a).pushAll l).pieces).toList ++ ')' :: k) k := by
  have hpieces : ((ArgList.push {} a).pushAll l).pieces = a.piece :: l.map Arg.piece := by
    rw [ArgList.pushAll_eq]
    rfl
  have hstarts := h _ (stops_behindFirst (l.map Arg.piece) k)
  rw [hpieces, toList_intercalate_cons]
  generalize hbehind : behindFirst (l.map Arg.piece) k = t at hstarts ⊢
  obtain ⟨r, rfl⟩ : ∃ r, t = r ++ k := by
    rw [← hbehind, behindFirst]
    split
    · exact ⟨[')'], rfl⟩
    · exact ⟨',' :: ((",".intercalate (l.map Arg.piece)).toList ++ [')']), by simp⟩
  exact hstarts.before

/-- how the text that is shown of an item starts, where its expression reaches a path -/
def Item.ShowsAt (m : String) (rest : List Char) : Item → Prop
  | .operand e | .piped e _ => e.Reaches m → e.Shows m.toList
  | .pipes lhs _ e _ => e.Reaches m → lhs.Shows m.toList → e.Shows m.toList
  | .arg acc acc' => rest ≠ [] → ∀ value piece, acc' = acc.push (.positional value piece) → value.Reaches m →
    ∀ k, Stops k → Starts m.toList (piece.toList ++ k) k
  | .args acc acc' => acc = {} → acc'.named = [] → ∀ value, acc'.args.head? = some value → value.Reaches m →
    ∀ k, Starts m.toList ((",".intercalate acc'.pieces).toList ++ ')' :: k) k

/-- **What is shown of an expression starts with the path** that it reaches, and with the calls in front of it. -/
theorem Reads.shows {i : Item} {s a : List Char} (h : Reads i s a) (hs : unescapedFrom none s = true) (m : String) :
    i.ShowsAt m a := by
  induction h with
  | string q hstart h =>
    intro hreach
    cases hreach
  | number hstart hc h =>
    obtain ⟨x, v, rfl, -⟩ := readNumber_start hc h
    intro hreach
    cases hreach
  | @name s c r name rest h hparen =>
    intro hreach k hk
    cases hreach
    obtain ⟨-, hspells⟩ := h.spells hs
    refine ⟨[], [], rfl, by simp, by simp, ⟨rest, by rwa [String.toList_ofList]⟩, ?_, goesOn_of_stops hk,
      ne_cons_of_stops hk ⟨by decide, by decide⟩⟩
    rw [String.toList_ofList]
    exact h.nonempty
  | emptyCall h hclose =>
    intro hreach
    cases hreach
  | @call s c r name inner acc after h hopen hargs ih =>
    intro hreach k _
    obtain ⟨-, hspells⟩ := h.spells hs
    obtain ⟨hnamed, value, hvalue, hreach⟩ := reaches_toExpr hreach
    have hinner := (unescapedFrom_cons (h.unescaped hs) ⟨by decide, by decide⟩).2
    obtain ⟨fronts, w, hleads⟩ := (ih hinner rfl hnamed value hvalue hreach k).call hspells
    refine ⟨fronts, w, ?_⟩
    have htext : (acc.toCall (String.ofList name)).toExpr.render.toList ++ k =
        name ++ '(' :: ((",".intercalate acc.pieces).toList ++ ')' :: k) := by
      simp [ArgList.toCall, Call.toExpr, Expr.render]
    rwa [htext]
  | stop _ => exact fun _ => id
  | @bar s r c mid lhs p e p' rest hbar hc h ihc ih =>
    intro hreach hlhs
    have hr := (unescapedFrom_cons (unescapedFrom_skipSpaces hbar hs) ⟨by decide, by decide⟩).2
    obtain ⟨t, hname⟩ := hc.spells hr
    exact ih (hc.unescaped hr) hreach (hlhs.withFirst hname)
  | @piped s e mid e' p rest he h ihe ih =>
    intro hreach
    have hmid := he.unescaped hs
    exact ih hmid hreach (ihe hs (h.starts_at hmid m hreach))
  | named hkey hvalue hv hnew ihkey ihvalue =>
    intro _ value piece hpush
    have hlen := congrArg (fun acc => acc.args.length) hpush
    simp [ArgList.withNamed, ArgList.push, Arg.args] at hlen
  | @positional acc s e p rest h hkey ih =>
    intro _ value piece hpush hreach k hk
    have hargs := congrArg ArgList.args hpush
    have hpieces := congrArg ArgList.pieces hpush
    simp only [ArgList.withArg, ArgList.push, Arg.args, Arg.piece, List.append_cancel_left_eq, List.cons.injEq,
      and_true] at hargs hpieces
    have hreach' := reaches_of_positionalValue (hargs ▸ hreach)
    rw [← hpieces, pieceOf]
    cases p with
    | true => exact (ih hs hreach').starts hk
    | false =>
      have hstarts := h.starts_at hs m hreach'
      obtain ⟨v, rfl, -⟩ := h.replace
      rw [before_append, if_neg (by decide), String.toList_ofList]
      exact hstarts.move hk
  | @last acc acc' s rest after h hclose ih =>
    rintro rfl hnamed value hvalue hreach k
    obtain ⟨a, -, -, rfl⟩ := reads_arg_iff.1 h
    have ha : a = .positional value a.piece := Arg.eq_positional (l := []) hnamed hvalue
    have hrest : rest ≠ [] := by
      rintro rfl
      cases hclose
    exact starts_pieces (ih hs hrest value a.piece (by rw [← ha]) hreach) [] k
  | @more acc acc' acc'' s rest mid after h hcomma hmore ih ihmore =>
    rintro rfl hnamed value hvalue hreach k
    obtain ⟨a, -, -, rfl⟩ := reads_arg_iff.1 h
    obtain ⟨l, -, -, rfl, -⟩ := hmore.args_push
    have ha : a = .positional value a.piece := Arg.eq_positional hnamed hvalue
    have hrest : rest ≠ [] := by
      rintro rfl
      cases hcomma
    exact starts_pieces (ih hs hrest value a.piece (by rw [← ha]) hreach) l k

/-! ## Whole targets -/

/-- **The path inside a target.** In a text without escapes an expression reaches a path, by first arguments through calls
without named ones. Then its text consists of calls in front of the path, and something behind it that is no part of it;
and if the path has no `=` it is the one that is found in that text exactly if no space stands behind a parenthesis in
front of it and no `=` is in the name of a function there. -/
theorem metricIn_render {text : String} {e : Expr} {m : String} (h : parse text = .ok e) (htext : Unescaped text)
    (hm : e.Reaches m) (heq : '=' ∉ m.toList) :
    ∃ fronts tail, Leads m.toList fronts e.render.toList tail ∧
      (metricIn e.render = m ↔ ∀ f ∈ fronts, f.2 = [] ∧ '=' ∉ f.1) := by
  obtain ⟨p, rest, hread, -⟩ := parse_eq_ok.1 h
  obtain ⟨fronts, w, hleads⟩ := hread.shows htext m hm [] trivial
  rw [List.append_nil, List.append_nil] at hleads
  refine ⟨fronts, w, hleads, ?_⟩
  rw [← hleads.metricScan_eq_iff heq, metricIn, ← String.toList_inj, String.toList_ofList]

/-- spaces behind a parenthesis that does not stand in front of the path -/
theorem metricIn_render_applied :
    let text := "f(g(a.b| h( c)),'z')"
    let e := Expr.call "f" [.call "g" [.call "h" [.name "a.b", .name "c"] [] "a.b, c"] [] "h(a.b, c)",
      .string "z" .single] [] "g(a.b| h( c)),'z'"
    parse text = .ok e ∧ Unescaped text ∧ e.Reaches "a.b" ∧ metricIn e.render = "a.b" ∧
      ∃ fronts tail, Leads "a.b".toList fronts e.render.toList tail ∧ ∀ f ∈ fronts, f.2 = [] ∧ '=' ∉ f.1 := by
  intro text e
  have hparse : parse text = .ok e := by cbv
  have hescape : Unescaped text := by decide
  have hreach : e.Reaches "a.b" := .call (.call (.call (.name _)))
  have hfound : metricIn e.render = "a.b" := by decide +kernel
  obtain ⟨fronts, tail, hleads, hiff⟩ := metricIn_render hparse hescape hreach (by decide)
  exact ⟨hparse, hescape, hreach, hfound, fronts, tail, hleads, hiff.1 hfound⟩

/-- behind a parenthesis a space is the end of what is looked through, and nothing is found -/
theorem metricIn_render_space :
    let e := Expr.call "sumSeries" [.name "a.b.c"] [] " a.b.c"
    parse "sumSeries( a.b.c)" = .ok e ∧ Unescaped "sumSeries( a.b.c)" ∧ e.Reaches "a.b.c" ∧ '=' ∉ "a.b.c".toList ∧
      metricIn e.render = "" ∧ metricIn e.render ≠ "a.b.c" := by
  intro e
  have hfound : metricIn e.render = "" := by decide +kernel
  refine ⟨by cbv, by decide, .call (.name _), by decide, hfound, ?_⟩
  rw [hfound]
  decide

end Target

end MetricQuery
