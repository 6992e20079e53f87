/-
Globs as regular expressions.

The text of a glob is turned into that of a regular expression in one pass, which only counts the groups that are open:
what a closing brace or a comma becomes depends on that count, and characters that mean something there are escaped
(`regexText`). The tree that this text is read as is the one by which a glob is measured (`parse_regexText`). Text that is
no glob has a brace that is never closed (`reads_or_unclosed`), and from there on the regular expression only ends with
the text, so it is refused as well (`Unclosed.unfinished`). Together a text is a glob exactly if it becomes a regular
expression (`compile_regexText_iff`).
-/
import MetricQuery.Proofs.Glob.Language
import MetricQuery.Proofs.Pattern.Meaning
import MetricQuery.Proofs.Pattern.Reading

namespace MetricQuery.Glob

open Pattern (Node Quiet ReadsOn Fails Unfinished escaped nestingLimit)
open Unicode (CodeSet)

/-! ## Texts -/

/-- the text that the text of a glob becomes, from a place on that may be in a class, with so many groups open -/
def regexFrom (inClass : Bool) (depth : Nat) : List Char → List Char
  | [] => []
  | c :: r =>
    if inClass then (if c = '\\' then ['\\', '\\'] else [c]) ++ regexFrom (c != ']') depth r
    else if c = '[' then '[' :: regexFrom true depth r
    else if c = '*' then ['[', '^', '.', ']', '*'] ++ regexFrom false depth r
    else if c = '?' then ['[', '^', '.', ']'] ++ regexFrom false depth r
    else if c = '{' then ['(', '?', ':'] ++ regexFrom false (depth + 1) r
    else if c = '}' ∧ 0 < depth then ')' :: regexFrom false (depth - 1) r
    else if c = ',' ∧ 0 < depth then '|' :: regexFrom false depth r
    else escaped c ++ regexFrom false depth r

/-- the regular expression of a glob, which stands between the two ends of a text -/
def regexText (text : String) : String :=
  String.ofList ('^' :: (regexFrom false 0 text.toList ++ ['$']))

section Steps

variable (depth : Nat) (r : List Char)

theorem regexFrom_anyRun : regexFrom false depth ('*' :: r) = ['[', '^', '.', ']', '*'] ++ regexFrom false depth r := rfl

theorem regexFrom_anyChar : regexFrom false depth ('?' :: r) = ['[', '^', '.', ']'] ++ regexFrom false depth r := rfl

theorem regexFrom_open : regexFrom false depth ('{' :: r) = ['(', '?', ':'] ++ regexFrom false (depth + 1) r := rfl

theorem regexFrom_close : regexFrom false (depth + 1) ('}' :: r) = ')' :: regexFrom false depth r := by
  simp [regexFrom]

theorem regexFrom_comma : regexFrom false (depth + 1) (',' :: r) = '|' :: regexFrom false (depth + 1) r := by
  simp [regexFrom]

theorem regexFrom_literal {inside : Bool} {c : Char} (h : Literal inside c) (hdepth : inside = true ↔ 0 < depth) :
    regexFrom false depth (c :: r) = escaped c ++ regexFrom false depth r := by
  obtain ⟨hset, hrun, hany, hopen⟩ := h.plain
  have hclose : ¬(c = '}' ∧ 0 < depth) := fun ⟨heq, hpos⟩ => (h.inside (hdepth.2 hpos)).1 heq
  have hcomma : ¬(c = ',' ∧ 0 < depth) := fun ⟨heq, hpos⟩ => (h.inside (hdepth.2 hpos)).2 heq
  rw [regexFrom]
  simp only [hset, hrun, hany, hopen, hclose, hcomma, Bool.false_eq_true, if_false]

end Steps

/-- the alternatives of a group become branches that are separated and closed as in a regular expression -/
theorem regexFrom_alternatives {alternatives : List (List Char × List Part)} (hne : alternatives ≠ []) (depth : Nat)
    (h : ∀ a ∈ alternatives, ∀ rest : List Char,
      regexFrom false (depth + 1) (a.1 ++ rest) = regexFrom false (depth + 1) a.1 ++ regexFrom false (depth + 1) rest)
    (rest : List Char) :
    regexFrom false (depth + 1) ([','].intercalate (alternatives.map Prod.fst) ++ '}' :: rest) =
      ['|'].intercalate (alternatives.map fun a => regexFrom false (depth + 1) a.1) ++
        ')' :: regexFrom false depth rest := by
  induction alternatives with
  | nil => exact absurd rfl hne
  | cons a more ih =>
    obtain ⟨ha, hmore⟩ := List.forall_mem_cons.1 h
    cases more with
    | nil =>
      rw [List.map_singleton, List.intercalate_singleton, ha, regexFrom_close, List.map_singleton,
        List.intercalate_singleton]
    | cons b more =>
      have hsplit : [','].intercalate ((a :: b :: more).map Prod.fst) ++ '}' :: rest =
          a.1 ++ ',' :: ([','].intercalate ((b :: more).map Prod.fst) ++ '}' :: rest) := by
        simp [List.intercalate_cons_cons]
      rw [hsplit, ha, regexFrom_comma, ih (List.cons_ne_nil _ _) hmore]
      simp [List.intercalate_cons_cons]

theorem Reads.regexFrom_append {inside : Bool} {s : List Char} {ps : List Part} (h : Reads inside s ps) :
    ∀ {depth : Nat}, (inside = true ↔ 0 < depth) → ∀ rest : List Char,
      regexFrom false depth (s ++ rest) = regexFrom false depth s ++ regexFrom false depth rest := by
  induction h with
  | nil =>
    intro depth _ rest
    rfl
  | literal hc _ ih =>
    intro depth hdepth rest
    rw [List.cons_append, regexFrom_literal _ _ hc hdepth, regexFrom_literal _ _ hc hdepth, ih hdepth,
      List.append_assoc]
  | anyChar _ ih =>
    intro depth hdepth rest
    rw [List.cons_append, regexFrom_anyChar, regexFrom_anyChar, ih hdepth, List.append_assoc]
  | anyRun _ ih =>
    intro depth hdepth rest
    rw [List.cons_append, regexFrom_anyRun, regexFrom_anyRun, ih hdepth, List.append_assoc]
  | group hne _ _ ihs ih =>
    intro depth hdepth rest
    have hinner := regexFrom_alternatives hne depth fun a ha rest => ihs a ha (by simp) rest
    simp only [List.cons_append, List.append_assoc, regexFrom_open, hinner, ih hdepth]

/-! ## Trees -/

/-- the tree by which a glob is measured -/
def regexNode (g : Glob) : Node :=
  .sequence (.assert .textStart :: partNodes g ++ [.assert .textEnd])

/-- the part of a regular expression that a part of a glob is read as -/
def Part.piece (p : Part) : Pattern.Part :=
  ⟨p.node, p.depth, true⟩

@[simp] theorem Part.piece_node (p : Part) : p.piece.node = p.node := rfl

@[simp] theorem Part.piece_depth (p : Part) : p.piece.depth = p.depth := rfl

theorem partNodes_eq (ps : List Part) : partNodes ps = ps.map Part.node := by
  induction ps with
  | nil => rfl
  | cons p ps ih => rw [partNodes, ih, List.map_cons]

theorem partDepths_eq (ps : List Part) : partDepths ps = ps.map Part.depth := by
  induction ps with
  | nil => rfl
  | cons p ps ih => rw [partDepths, ih, List.map_cons]

theorem alternativeNodes_eq (alternatives : List (List Part)) :
    alternativeNodes alternatives = alternatives.map fun ps => .sequence (partNodes ps) := by
  induction alternatives with
  | nil => rfl
  | cons ps rest ih => rw [alternativeNodes, ih, List.map_cons]

theorem alternativeDepths_eq (alternatives : List (List Part)) :
    alternativeDepths alternatives = alternatives.map fun ps => Pattern.depthOver (partDepths ps) := by
  induction alternatives with
  | nil => rfl
  | cons ps rest ih => rw [alternativeDepths, ih, List.map_cons]

theorem node_rowOf_piece (ps : List Part) : (Pattern.rowOf (ps.map Part.piece)).node = .sequence (partNodes ps) := by
  rw [Pattern.node_rowOf, List.map_map, partNodes_eq]
  rfl

theorem depth_rowOf_piece (ps : List Part) :
    (Pattern.rowOf (ps.map Part.piece)).depth = Pattern.depthOver (partDepths ps) := by
  rw [Pattern.depth_rowOf, List.map_map, partDepths_eq]
  rfl

theorem piece_group (alternatives : List (List Part)) :
    (Part.group alternatives).piece = Pattern.groupOf (alternatives.map fun ps => ps.map Part.piece) := by
  have hnodes : ((alternatives.map fun ps => ps.map Part.piece).map Pattern.rowOf).map Pattern.Part.node =
      alternativeNodes alternatives := by
    rw [alternativeNodes_eq, List.map_map, List.map_map]
    exact List.map_congr_left fun ps _ => node_rowOf_piece ps
  have hdepths : ((alternatives.map fun ps => ps.map Part.piece).map Pattern.rowOf).map Pattern.Part.depth =
      alternativeDepths alternatives := by
    rw [alternativeDepths_eq, List.map_map, List.map_map]
    exact List.map_congr_left fun ps _ => depth_rowOf_piece ps
  rw [Part.piece, Part.node, Part.depth, Pattern.groupOf, Pattern.choiceOf, hnodes, hdepths, Nat.add_comm]

/-! ## Reading -/

theorem quiet_escaped_append (c : Char) (rest : List Char) : Quiet (escaped c ++ rest) := by
  unfold escaped
  split
  · exact Pattern.quiet_cons _ (by decide)
  · rename_i hmeta
    refine Pattern.quiet_cons _ ?_
    simp only [Pattern.isMeta, List.contains_eq_mem, List.mem_cons, List.not_mem_nil, or_false, decide_eq_true_iff,
      not_or] at hmeta
    tauto

/-- nothing in the text of a glob becomes a repetition of what stands in front of it -/
theorem quiet_regexFrom_append (depth : Nat) (s : List Char) {rest : List Char} (hquiet : Quiet rest) :
    Quiet (regexFrom false depth s ++ rest) := by
  cases s with
  | nil => exact hquiet
  | cons c r =>
    rw [regexFrom, if_neg Bool.false_ne_true]
    split_ifs
    case neg =>
      rw [List.append_assoc]
      exact quiet_escaped_append c _
    all_goals exact Pattern.quiet_cons _ (by decide)

theorem empty_union_single (n : Nat) : CodeSet.empty ∪ CodeSet.single n = CodeSet.single n := by
  show CodeSet.ofAscending (List.merge [] [(n, n)] CodeSet.startsFirst) = _
  rw [List.merge]
  rfl

/-- the class of all characters but the point -/
theorem readPart_notPoint (fuel levels : Nat) (rest : List Char) :
    Pattern.readPart (fuel + 1) levels '[' (Pattern.cursorAt (['^', '.', ']'] ++ rest)) =
      .ok (Part.anyChar.piece, Pattern.cursorAt rest) := by
  have hclass : ∀ n, Pattern.readClass {} (n + 3) nestingLimit (['^', '.', ']'] ++ rest) =
      .ok (((CodeSet.single 0x2E).complement, 1), rest) := by
    intro n
    rw [← empty_union_single]
    rfl
  have hfuel : 2 * (['^', '.', ']'] ++ rest).length + 2 = 2 * rest.length + 5 + 3 := by
    simp only [List.length_append, List.length_cons, List.length_nil]
    omega
  rw [Pattern.readPart, if_neg (by decide), if_pos rfl, Pattern.cursorAt_rest, Pattern.cursorAt_flags, hfuel, hclass]
  rfl

theorem readsOn_anyChar (levels : Nat) {rest : List Char} (hquiet : Quiet rest) :
    ReadsOn levels (['[', '^', '.', ']'] ++ rest) [Part.anyChar.piece] rest :=
  Pattern.readsOn_of_readPart (by decide) (by decide) (fun fuel => readPart_notPoint fuel levels rest) hquiet
    (Nat.le_add_right rest.length 3)

theorem readsOn_anyRun (levels : Nat) {rest : List Char} (hquiet : Quiet rest) :
    ReadsOn levels (['[', '^', '.', ']', '*'] ++ rest) [Part.anyRun.piece] rest := by
  intro fuel before hfuel
  simp only [List.length_append, List.length_cons, List.length_nil] at hfuel
  obtain ⟨fuel, rfl⟩ := Nat.exists_eq_add_of_le' (show 2 ≤ fuel by omega)
  refine Or.inl ⟨fuel + 1, by omega, ?_⟩
  rw [Pattern.readSequence]
  show Pattern.readPart (fuel + 1) levels '[' (Pattern.cursorAt (['^', '.', ']'] ++ '*' :: rest)) >>= _ = _
  rw [readPart_notPoint]
  show Pattern.readRepetitions {} (rest.length + 1) Part.anyChar.piece ('*' :: rest) >>= _ = _
  rw [Part.piece, Pattern.readRepetitions_many hquiet]
  rfl

/-- **What a text of a glob reads as, the text that it becomes reads as in a regular expression.** -/
theorem Reads.readsOn {inside : Bool} {s : List Char} {ps : List Part} (h : Reads inside s ps) :
    ∀ {depth levels : Nat} {rest : List Char}, (inside = true ↔ 0 < depth) → Quiet rest →
      ReadsOn levels (regexFrom false depth s ++ rest) (ps.map Part.piece) rest := by
  induction h with
  | nil =>
    intro depth levels rest _ _
    exact ReadsOn.refl levels rest
  | literal hc _ ih =>
    intro depth levels rest hdepth hquiet
    rw [regexFrom_literal _ _ hc hdepth, List.append_assoc]
    exact (Pattern.readsOn_escaped levels _ (quiet_regexFrom_append _ _ hquiet)).trans (ih hdepth hquiet)
  | anyChar _ ih =>
    intro depth levels rest hdepth hquiet
    rw [regexFrom_anyChar, List.append_assoc]
    exact (readsOn_anyChar levels (quiet_regexFrom_append _ _ hquiet)).trans (ih hdepth hquiet)
  | anyRun _ ih =>
    intro depth levels rest hdepth hquiet
    rw [regexFrom_anyRun, List.append_assoc]
    exact (readsOn_anyRun levels (quiet_regexFrom_append _ _ hquiet)).trans (ih hdepth hquiet)
  | @group inside alternatives r ps hne hreads hr ihs ih =>
    intro depth levels rest hdepth hquiet
    have hinner := regexFrom_alternatives hne depth
      fun a ha => (hreads a ha).regexFrom_append (by simp)
    let branches := alternatives.map fun a => (regexFrom false (depth + 1) a.1, a.2.map Part.piece)
    have hbranches : ∀ b ∈ branches, ∀ {levels : Nat} {rest : List Char}, Quiet rest →
        ReadsOn levels (b.1 ++ rest) b.2 rest := by
      intro b hb levels rest hquiet
      obtain ⟨a, ha, rfl⟩ := List.mem_map.1 hb
      exact ihs a ha (by simp) hquiet
    have hgroup := Pattern.readsOn_group (show branches ≠ [] by simpa [branches] using hne) hbranches levels
      (quiet_regexFrom_append depth r hquiet)
    have hpiece : Pattern.groupOf (branches.map Prod.snd) = (Part.group (alternatives.map Prod.snd)).piece := by
      rw [piece_group]
      simp [branches, Function.comp_def]
    rw [hpiece] at hgroup
    rw [regexFrom_open, hinner]
    simpa [branches, Function.comp_def] using hgroup.trans (ih hdepth hquiet)

/-! ## Whole globs -/

/-- with an end of the text on either side of it, a glob is a sequence of at least two nodes -/
theorem exists_regexNode_eq_seq (g : Glob) : ∃ parts, regexNode g = .seq parts := by
  have hbehind : ∀ nodes : List Node, (nodes ++ [Node.assert .textEnd]).foldr Node.consNode [] ≠ [] := by
    intro nodes
    induction nodes with
    | nil => exact List.cons_ne_nil _ _
    | cons n nodes ih => exact Node.consNode_ne_nil n ih
  show ∃ parts, Node.sequence (.assert .textStart :: (partNodes g ++ [.assert .textEnd])) = .seq parts
  obtain ⟨n, rest, hrest⟩ := List.exists_cons_of_ne_nil (hbehind (partNodes g))
  rw [Node.sequence, List.foldr_cons, hrest]
  exact ⟨_, rfl⟩

/-- **The regular expression that a text becomes is the one that its glob is measured by.** -/
theorem parse_regexText {text : String} {g : Glob} (h : Reads false text.toList g) :
    Pattern.parse (regexText text) =
      if Pattern.depthOver (0 :: 0 :: partDepths g) ≤ nestingLimit then .ok ⟨regexNode g, 0, []⟩
      else .error .tooDeep := by
  let ps : List Pattern.Part :=
    [⟨.assert .textStart, 0, true⟩] ++ (g.map Part.piece ++ [⟨.assert .textEnd, 0, true⟩])
  have hend : Quiet ['$'] := Pattern.quiet_cons [] (by decide)
  have hreads : ReadsOn nestingLimit (regexText text).toList ps [] := by
    rw [regexText, String.toList_ofList]
    exact (Pattern.readsOn_start _ (quiet_regexFrom_append 0 _ hend)).trans
      ((h.readsOn (by simp) hend).trans (Pattern.readsOn_end _ nofun))
  have hdepth : (Pattern.rowOf ps).depth = Pattern.depthOver (0 :: 0 :: partDepths g) := by
    rw [Pattern.depth_rowOf, partDepths_eq]
    refine Pattern.depthOver_perm ?_
    have hpieces : ps.map Pattern.Part.depth = 0 :: (g.map Part.depth ++ [0]) := by simp [ps, Function.comp_def]
    rw [hpieces]
    exact (List.perm_append_singleton 0 _).cons 0
  have hnode : Node.choice [(Pattern.rowOf ps).node] = regexNode g := by
    have hrow : (Pattern.rowOf ps).node = regexNode g := by
      rw [Pattern.node_rowOf, regexNode, partNodes_eq]
      simp [ps, Function.comp_def]
    obtain ⟨parts, hparts⟩ := exists_regexNode_eq_seq g
    rw [hrow, hparts]
    rfl
  rw [Pattern.parse_of_readsOn hreads, hdepth, hnode]

/-! ## Groups that are not closed -/

/-- text behind an opening brace that never closes it -/
inductive Unclosed : List Char → Prop
  | last {a : List Char} {ps : List Part} : Reads true a ps → Unclosed a
  | comma {a r : List Char} {ps : List Part} : Reads true a ps → Unclosed r → Unclosed (a ++ ',' :: r)
  | brace {a r : List Char} {ps : List Part} : Reads true a ps → Unclosed r → Unclosed (a ++ '{' :: r)

theorem Reads.append {inside : Bool} {s t : List Char} {ps qs : List Part} (h : Reads inside s ps)
    (ht : Reads inside t qs) : Reads inside (s ++ t) (ps ++ qs) := by
  induction h with
  | nil => exact ht
  | literal hc _ ih => exact Reads.literal hc (ih ht)
  | anyChar _ ih => exact Reads.anyChar (ih ht)
  | anyRun _ ih => exact Reads.anyRun (ih ht)
  | group hne hreads _ _ ih =>
    rw [List.cons_append, List.append_assoc]
    exact Reads.group hne hreads (ih ht)

theorem Unclosed.append {a r : List Char} {ps : List Part} (ha : Reads true a ps) (h : Unclosed r) :
    Unclosed (a ++ r) := by
  cases h with
  | last h => exact Unclosed.last (ha.append h)
  | comma h hr =>
    rw [← List.append_assoc]
    exact Unclosed.comma (ha.append h) hr
  | brace h hr =>
    rw [← List.append_assoc]
    exact Unclosed.brace (ha.append h) hr

/-- a group as a single part -/
theorem Balanced.reads_group (inside : Bool) {inner : List Char} (h : Balanced inner) (hset : '[' ∉ inner) :
    ∃ p, Reads inside ('{' :: (inner ++ ['}'])) [p] := by
  obtain ⟨alternatives, hne, rfl, hreads⟩ := h.exists_reads hset
  exact ⟨_, Reads.group hne hreads Reads.nil⟩

/-- a brace that is open is closed later on or never -/
theorem closes_or_unclosed {s : List Char} (hset : '[' ∉ s) :
    (∃ inner behind, s = inner ++ '}' :: behind ∧ Balanced inner) ∨ Unclosed s := by
  -- behind a group that is closed the same is asked of what is left, which is no direct part of the text
  induction hn : s.length using Nat.strong_induction_on generalizing s with
  | _ n ih =>
    subst hn
    cases s with
    | nil => exact Or.inr (Unclosed.last Reads.nil)
    | cons c r =>
      rw [List.mem_cons, not_or] at hset
      by_cases hclose : c = '}'
      · subst hclose
        exact Or.inl ⟨[], r, rfl, Balanced.nil⟩
      · by_cases hopen : c = '{'
        · subst hopen
          obtain ⟨inner, behind, rfl, hinner⟩ | hr := ih r.length (by simp) hset.2 rfl
          · have hset_inner : '[' ∉ inner := fun hmem => hset.2 (by simp [hmem])
            have hset_behind : '[' ∉ behind := fun hmem => hset.2 (by simp [hmem])
            obtain ⟨inner', behind', rfl, hinner'⟩ | hbehind := ih behind.length (by simp; omega) hset_behind rfl
            · exact Or.inl ⟨'{' :: (inner ++ '}' :: inner'), behind', by simp, Balanced.group hinner hinner'⟩
            · obtain ⟨p, hp⟩ := hinner.reads_group true hset_inner
              refine Or.inr ?_
              simpa using Unclosed.append hp hbehind
          · exact Or.inr (Unclosed.brace Reads.nil hr)
        · obtain ⟨inner, behind, rfl, hinner⟩ | hr := ih r.length (by simp) hset.2 rfl
          · exact Or.inl ⟨c :: inner, behind, rfl, Balanced.char hopen hclose hinner⟩
          · by_cases hcomma : c = ','
            · subst hcomma
              exact Or.inr (Unclosed.comma Reads.nil hr)
            · obtain ⟨p, hp⟩ := Reads.cons (Ne.symm hset.1) hopen fun _ : true = true => ⟨hclose, hcomma⟩
              exact Or.inr (Unclosed.append (hp Reads.nil) hr)

/-- text that is no glob has a brace that is never closed, the ones in front of it being closed -/
theorem reads_or_unclosed {s : List Char} (hset : '[' ∉ s) :
    (∃ ps, Reads false s ps) ∨ ∃ before rest ps, s = before ++ '{' :: rest ∧ Reads false before ps ∧ Unclosed rest := by
  induction hn : s.length using Nat.strong_induction_on generalizing s with
  | _ n ih =>
    subst hn
    cases s with
    | nil => exact Or.inl ⟨[], Reads.nil⟩
    | cons c r =>
      rw [List.mem_cons, not_or] at hset
      -- one part in front of text for which this is known
      have hpart : ∀ {a behind : List Char} {p : Part}, Reads false a [p] → a ≠ [] → c :: r = a ++ behind →
          (∃ ps, Reads false (c :: r) ps) ∨
            ∃ before rest ps, c :: r = before ++ '{' :: rest ∧ Reads false before ps ∧ Unclosed rest := by
        intro a behind p ha hne heq
        have hset_behind : '[' ∉ behind := by
          have hmem : '[' ∉ c :: r := by simp [hset]
          exact fun h => hmem (heq ▸ List.mem_append_right a h)
        have hlength : behind.length < (c :: r).length := by
          have hpos := List.length_pos_of_ne_nil hne
          rw [heq, List.length_append]
          omega
        obtain ⟨ps, hps⟩ | ⟨before, rest, ps, rfl, hps, hrest⟩ := ih behind.length hlength hset_behind rfl
        · exact Or.inl ⟨_, heq ▸ ha.append hps⟩
        · exact Or.inr ⟨a ++ before, rest, _, by rw [heq, List.append_assoc], ha.append hps, hrest⟩
      by_cases hopen : c = '{'
      · subst hopen
        obtain ⟨inner, behind, rfl, hinner⟩ | hr := closes_or_unclosed hset.2
        · obtain ⟨p, hp⟩ := hinner.reads_group false fun hmem => hset.2 (by simp [hmem])
          exact hpart hp (List.cons_ne_nil _ _) (show _ = _ ++ behind by simp)
        · exact Or.inr ⟨[], r, [], rfl, Reads.nil, hr⟩
      · obtain ⟨p, hp⟩ := Reads.cons (Ne.symm hset.1) hopen (nofun : false = true → _)
        exact hpart (hp Reads.nil) (List.cons_ne_nil _ _) rfl

/-- **What stands behind an open brace only ends with the regular expression.** -/
theorem Unclosed.unfinished {s : List Char} (h : Unclosed s) (levels depth : Nat) :
    Unfinished levels (regexFrom false (depth + 1) s ++ ['$']) := by
  induction h generalizing levels depth with
  | last ha =>
    exact ((ha.readsOn (by simp) (Pattern.quiet_cons [] (by decide))).trans (Pattern.readsOn_end levels nofun)).unfinished
  | comma ha _ ih =>
    rw [ha.regexFrom_append (by simp), regexFrom_comma, List.append_assoc]
    exact Unfinished.bar (ha.readsOn (by simp) (Pattern.quiet_cons _ (by decide))) (ih levels depth)
  | brace ha _ ih =>
    rw [ha.regexFrom_append (by simp), regexFrom_open, List.append_assoc]
    have hgroup := Unfinished.fails (fun levels => ih levels (depth + 1)) levels
    exact ((ha.readsOn (by simp) (Pattern.quiet_cons _ (by decide))).fails hgroup).unfinished

theorem parse_regexText_error {text : String} {before rest : List Char} {ps : List Part}
    (htext : text.toList = before ++ '{' :: rest) (hbefore : Reads false before ps) (hrest : Unclosed rest) :
    ∃ fault, Pattern.parse (regexText text) = .error fault := by
  refine Pattern.parse_of_fails ?_
  have hgroup := Unfinished.fails (fun levels => hrest.unfinished levels 0) nestingLimit
  have hfails := (hbefore.readsOn (show false = true ↔ 0 < 0 by simp) (Pattern.quiet_cons _ (by decide))).fails hgroup
  rw [regexText, String.toList_ofList, htext, hbefore.regexFrom_append (by simp), regexFrom_open, List.append_assoc]
  refine (Pattern.readsOn_start _ ?_).fails hfails
  exact quiet_regexFrom_append 0 before (Pattern.quiet_cons _ (by decide))

/-! ## Limits -/

/-- **A text without classes is a glob within the limits exactly if its regular expression is made ready for a search.** -/
theorem compile_regexText_iff {text : String} (hset : '[' ∉ text.toList) :
    (∃ regex, Pattern.compile (regexText text) = .ok regex) ↔ (compile text).isSome = true := by
  simp only [Pattern.compile_eq_ok_iff]
  rw [compile]
  cases hparse : parse text with
  | some g =>
    have hfits : fits g = true ↔
        Pattern.depthOver (0 :: 0 :: partDepths g) ≤ nestingLimit ∧ (regexNode g).fits = true := by
      rw [fits, Bool.and_eq_true, decide_eq_true_iff]
      rfl
    rw [parse_regexText ((parse_eq_some_iff hset).1 hparse), Option.isSome_filter, Option.any_some, hfits]
    split
    · rename_i hdepth
      constructor
      · rintro ⟨_, tree, ⟨⟩, hsize, -⟩
        exact ⟨hdepth, hsize⟩
      · rintro ⟨-, hsize⟩
        exact ⟨_, _, rfl, hsize, rfl⟩
    · rename_i hdepth
      exact ⟨nofun, fun h => absurd h.1 hdepth⟩
  | none =>
    obtain ⟨g, hg⟩ | ⟨before, rest, ps, htext, hbefore, hrest⟩ := reads_or_unclosed hset
    · rw [parse_of_reads hg] at hparse
      cases hparse
    · obtain ⟨fault, hfault⟩ := parse_regexText_error htext hbefore hrest
      rw [hfault]
      exact ⟨nofun, nofun⟩

end MetricQuery.Glob
