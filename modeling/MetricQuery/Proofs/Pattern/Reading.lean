/-
How plain pieces of a pattern are read.

The reader carries fuel, flags and how many more groups may be opened. The pieces here set no flags and number no groups,
so between them a position is only the text left (`cursorAt`), and what is read goes in front of what was read.
`ReadsOn` says so of a piece, and that fuel in proportion to the text left is enough; the only other outcome is that a
group lies too deep. Characters that are escaped where they mean something, sets of all characters but the point, and
groups of alternatives are such pieces, and `parse_of_readsOn` puts a whole pattern together. `Unfinished` is text that
never comes to the end of the group around it, so a pattern with such a group is refused.
-/
import Mathlib
import MetricQuery.Pattern.Compile

namespace MetricQuery.Pattern

open Unicode (CodeSet)

/-! ## Depths -/

theorem depthOver_of_length {ds : List Nat} (h : ds.length ≠ 1) :
    depthOver ds = if ds = [] then 0 else 1 + ds.foldl max 0 := by
  match ds with
  | [] => rfl
  | [_] => exact absurd rfl h
  | _ :: _ :: _ => rfl

theorem depthOver_perm {ds ds' : List Nat} (h : ds.Perm ds') : depthOver ds = depthOver ds' := by
  by_cases hone : ds.length = 1
  · obtain ⟨d, rfl⟩ := List.length_eq_one_iff.1 hone
    rw [List.singleton_perm.1 h]
  · rw [depthOver_of_length hone, depthOver_of_length (h.length_eq ▸ hone), h.foldl_eq]
    simp only [← List.length_eq_zero_iff, h.length_eq]

theorem depthOver_reverse (ds : List Nat) : depthOver ds.reverse = depthOver ds :=
  depthOver_perm (List.reverse_perm ds)

theorem le_depthOver {ds : List Nat} {d : Nat} (h : d ∈ ds) : d ≤ depthOver ds := by
  have hmax : ∀ (l : List Nat) (n : Nat), (n ≤ l.foldl max n) ∧ ∀ m ∈ l, m ≤ l.foldl max n := by
    intro l
    induction l with
    | nil => simp
    | cons a l ih =>
      intro n
      obtain ⟨hn, hl⟩ := ih (max n a)
      exact ⟨le_trans (le_max_left n a) hn, List.forall_mem_cons.2 ⟨le_trans (le_max_right n a) hn, hl⟩⟩
  match ds with
  | [e] => rw [List.mem_singleton.1 h]; exact le_refl _
  | a :: b :: l => exact le_trans ((hmax (a :: b :: l) 0).2 d h) (Nat.le_add_left _ _)

/-! ## Positions -/

/-- a position before which nothing set a flag or numbered a group -/
def cursorAt (s : List Char) : Cursor :=
  ⟨s, {}, 0, []⟩

@[simp] theorem cursorAt_rest (s : List Char) : (cursorAt s).rest = s := rfl

@[simp] theorem cursorAt_flags (s : List Char) : (cursorAt s).flags = {} := rfl

@[simp] theorem cursorAt_skip (s : List Char) : (cursorAt s).skip = cursorAt s := rfl

@[simp] theorem cursorAt_at (s r : List Char) : (cursorAt s).at r = cursorAt r := rfl

/-- text that does not repeat what stands in front of it -/
def Quiet (s : List Char) : Prop :=
  ∀ c ∈ s.head?, c ≠ '*' ∧ c ≠ '+' ∧ c ≠ '?' ∧ c ≠ '{'

theorem readRepetition?_of_quiet {s : List Char} (h : Quiet s) : readRepetition? false s = none := by
  cases s with
  | nil => rfl
  | cons c r =>
    obtain ⟨hmany, hsome, hone, hcount⟩ := h c rfl
    unfold readRepetition?
    split <;> simp_all

theorem readRepetitions_of_quiet {s : List Char} (h : Quiet s) (fuel : Nat) (p : Part) :
    readRepetitions {} fuel p s = .ok (p, s) := by
  cases fuel with
  | zero => rfl
  | succ fuel =>
    have hskip : skip (Flags.verbose {}) s = s := rfl
    have hnone : readRepetition? (Flags.verbose {}) s = none := readRepetition?_of_quiet h
    rw [readRepetitions]
    dsimp only
    rw [hskip, hnone]

/-- a star behind a part, with nothing behind it that belongs to it -/
theorem readRepetitions_many {rest : List Char} (h : Quiet rest) (fuel depth : Nat) (n : Node) :
    readRepetitions {} (fuel + 1) ⟨n, depth, true⟩ ('*' :: rest) =
      .ok (⟨.repeated n 0 none true, depth + 1, true⟩, rest) := by
  have hskip : skip (Flags.verbose {}) ('*' :: rest) = '*' :: rest := rfl
  have hmany : readRepetition? (Flags.verbose {}) ('*' :: rest) = some (.ok ((0, none), rest)) := rfl
  rw [readRepetitions]
  dsimp only
  rw [hskip, hmany]
  simp only [bind, Except.bind, Bool.not_true, Bool.false_eq_true, if_false]
  split
  · -- only a question mark would make the repetition lazy
    obtain ⟨-, -, hone, -⟩ := h '?' rfl
    exact absurd rfl hone
  · exact readRepetitions_of_quiet h fuel _

theorem readSequence_end {rest : List Char} (h : ∀ c ∈ rest.head?, c = '|' ∨ c = ')') (fuel levels : Nat)
    (before : List Part) :
    readSequence (fuel + 1) levels before (cursorAt rest) = .ok (before, cursorAt rest) := by
  rw [readSequence]
  cases rest with
  | nil => rfl
  | cons c r =>
    show (if c = '|' ∨ c = ')' then _ else _) = _
    exact if_pos (h c rfl)

/-- one part in a sequence, with nothing behind it that repeats it -/
theorem readSequence_part {c : Char} {r rest : List Char} {p : Part} {fuel levels : Nat} (hbar : c ≠ '|')
    (hclose : c ≠ ')') (hpart : readPart fuel levels c (cursorAt r) = .ok (p, cursorAt rest)) (hquiet : Quiet rest)
    (before : List Part) :
    readSequence (fuel + 1) levels before (cursorAt (c :: r)) = readSequence fuel levels (p :: before) (cursorAt rest) := by
  rw [readSequence]
  show (if c = '|' ∨ c = ')' then _ else readPart fuel levels c (cursorAt r) >>= _) = _
  rw [if_neg (not_or.2 ⟨hbar, hclose⟩), hpart]
  show readRepetitions {} rest.length p rest >>= _ = _
  rw [readRepetitions_of_quiet hquiet]
  rfl

theorem readSequence_part_error {c : Char} {r : List Char} {fault : Fault} {fuel levels : Nat} (hbar : c ≠ '|')
    (hclose : c ≠ ')') (hpart : readPart fuel levels c (cursorAt r) = .error fault) (before : List Part) :
    readSequence (fuel + 1) levels before (cursorAt (c :: r)) = .error fault := by
  rw [readSequence]
  show (if c = '|' ∨ c = ')' then _ else readPart fuel levels c (cursorAt r) >>= _) = _
  rw [if_neg (not_or.2 ⟨hbar, hclose⟩), hpart]
  rfl

/-! ## Pieces -/

/-- reading goes on from a text to a later part of it by some parts, unless groups in them lie too deep -/
def ReadsOn (levels : Nat) (s : List Char) (ps : List Part) (rest : List Char) : Prop :=
  ∀ fuel before, 2 * s.length + 1 ≤ fuel →
    (∃ fuel', 2 * rest.length + 1 ≤ fuel' ∧
      readSequence fuel levels before (cursorAt s) = readSequence fuel' levels (ps.reverse ++ before) (cursorAt rest)) ∨
    (∃ p ∈ ps, levels < p.depth) ∧ readSequence fuel levels before (cursorAt s) = .error .tooDeep

theorem ReadsOn.refl (levels : Nat) (s : List Char) : ReadsOn levels s [] s :=
  fun fuel _ hfuel => Or.inl ⟨fuel, hfuel, rfl⟩

theorem ReadsOn.trans {levels : Nat} {s mid rest : List Char} {ps qs : List Part} (h : ReadsOn levels s ps mid)
    (h' : ReadsOn levels mid qs rest) : ReadsOn levels s (ps ++ qs) rest := by
  intro fuel before hfuel
  obtain ⟨fuel', hfuel', heq⟩ | ⟨⟨p, hp, hdeep⟩, heq⟩ := h fuel before hfuel
  · rw [heq]
    obtain ⟨fuel'', hfuel'', heq'⟩ | ⟨⟨p, hp, hdeep⟩, heq'⟩ := h' fuel' (ps.reverse ++ before) hfuel'
    · exact Or.inl ⟨fuel'', hfuel'', by rw [heq', List.reverse_append, List.append_assoc]⟩
    · exact Or.inr ⟨⟨p, List.mem_append_right _ hp, hdeep⟩, heq'⟩
  · exact Or.inr ⟨⟨p, List.mem_append_left _ hp, hdeep⟩, heq⟩

/-- a piece that is read as one part, whatever the fuel -/
theorem readsOn_of_readPart {levels : Nat} {c : Char} {r rest : List Char} {p : Part} (hbar : c ≠ '|') (hclose : c ≠ ')')
    (hpart : ∀ fuel, readPart (fuel + 1) levels c (cursorAt r) = .ok (p, cursorAt rest)) (hquiet : Quiet rest)
    (hlength : rest.length ≤ r.length) : ReadsOn levels (c :: r) [p] rest := by
  intro fuel before hfuel
  rw [List.length_cons] at hfuel
  obtain ⟨fuel, rfl⟩ := Nat.exists_eq_add_of_le' (show 2 ≤ fuel by omega)
  exact Or.inl ⟨fuel + 1, by omega, readSequence_part hbar hclose (hpart fuel) hquiet before⟩

/-! ## Characters -/

/-- the characters that mean something in a pattern -/
def isMeta (c : Char) : Bool :=
  ['\\', '.', '+', '*', '?', '(', ')', '|', '[', ']', '\x7b', '\x7d', '^', '$', '#', '&', '-', '~'].contains c

/-- a character such that it stands for itself -/
def escaped (c : Char) : List Char :=
  if isMeta c then ['\\', c] else [c]

theorem literal_eq (c : Char) : literal {} c false = .ok (.text [c]) := by
  show Except.ok (Node.ofSet (CodeSet.single c.toNat)) = _
  unfold Node.ofSet CodeSet.single
  dsimp only
  rw [if_pos rfl, Char.ofNat_toNat]

theorem readEscape_of_isMeta {c : Char} (h : isMeta c = true) (r : List Char) :
    readEscape {} (c :: r) = .ok (.char c false, r) := by
  unfold isMeta at h
  simp only [List.contains_eq_mem, List.mem_cons, List.not_mem_nil, or_false, decide_eq_true_iff] at h
  rcases h with rfl | rfl | rfl | rfl | rfl | rfl | rfl | rfl | rfl | rfl | rfl | rfl | rfl | rfl | rfl | rfl | rfl | rfl
    <;> rfl

theorem readsOn_escaped (levels : Nat) (c : Char) {rest : List Char} (hquiet : Quiet rest) :
    ReadsOn levels (escaped c ++ rest) [⟨.text [c], 0, true⟩] rest := by
  unfold escaped
  split
  · rename_i hmeta
    refine readsOn_of_readPart (by decide) (by decide) (fun fuel => ?_) hquiet (Nat.le_succ _)
    show readPart (fuel + 1) levels '\\' (cursorAt (c :: rest)) = _
    simp [readPart, readEscape_of_isMeta hmeta, literal_eq, bind, Except.bind]
  · rename_i hmeta
    simp only [isMeta, List.contains_eq_mem, List.mem_cons, List.not_mem_nil, or_false, decide_eq_true_iff, not_or] at hmeta
    refine readsOn_of_readPart (by tauto) (by tauto) (fun fuel => ?_) hquiet (Nat.le_refl _)
    simp [readPart, hmeta, literal_eq, bind, Except.bind]

theorem readsOn_start (levels : Nat) {rest : List Char} (hquiet : Quiet rest) :
    ReadsOn levels ('^' :: rest) [⟨.assert .textStart, 0, true⟩] rest :=
  readsOn_of_readPart (by decide) (by decide) (fun fuel => by rw [readPart]; rfl) hquiet (Nat.le_refl _)

theorem readsOn_end (levels : Nat) {rest : List Char} (hquiet : Quiet rest) :
    ReadsOn levels ('$' :: rest) [⟨.assert .textEnd, 0, true⟩] rest :=
  readsOn_of_readPart (by decide) (by decide) (fun fuel => by rw [readPart]; rfl) hquiet (Nat.le_refl _)

/-! ## Groups -/

/-- a part made of parts in a row -/
def rowOf (ps : List Part) : Part :=
  sequenceOf ps.reverse

/-- the part that a group of alternatives is read as -/
def groupOf (branches : List (List Part)) : Part :=
  let whole := choiceOf (branches.map rowOf)
  ⟨whole.node, whole.depth + 1, true⟩

theorem node_rowOf (ps : List Part) : (rowOf ps).node = .sequence (ps.map Part.node) := by
  show Node.sequence (ps.reverse.reverse.map Part.node) = _
  rw [List.reverse_reverse]

theorem depth_rowOf (ps : List Part) : (rowOf ps).depth = depthOver (ps.map Part.depth) := by
  show depthOver (ps.reverse.map Part.depth) = _
  rw [List.map_reverse, depthOver_reverse]

theorem le_depth_rowOf {ps : List Part} {p : Part} (h : p ∈ ps) : p.depth ≤ (rowOf ps).depth := by
  rw [depth_rowOf]
  exact le_depthOver (List.mem_map_of_mem h)

theorem lt_depth_groupOf {branches : List (List Part)} {ps : List Part} {p : Part} (hps : ps ∈ branches) (hp : p ∈ ps) :
    p.depth < (groupOf branches).depth := by
  refine Nat.lt_succ_of_le (le_trans (le_depth_rowOf hp) (le_depthOver ?_))
  exact List.mem_map_of_mem (List.mem_map_of_mem hps)

theorem quiet_cons {c : Char} (r : List Char) (h : c ≠ '*' ∧ c ≠ '+' ∧ c ≠ '?' ∧ c ≠ '{') : Quiet (c :: r) := by
  rintro _ ⟨⟩
  exact h

/-- a sequence that is read up to the end of an alternative -/
theorem ReadsOn.readSequence_eq {levels : Nat} {s rest : List Char} {ps : List Part} (h : ReadsOn levels s ps rest)
    (hend : ∀ c ∈ rest.head?, c = '|' ∨ c = ')') {fuel : Nat} (hfuel : 2 * s.length + 1 ≤ fuel) :
    readSequence fuel levels [] (cursorAt s) = .ok (ps.reverse, cursorAt rest) ∨
      (∃ p ∈ ps, levels < p.depth) ∧ readSequence fuel levels [] (cursorAt s) = .error .tooDeep := by
  obtain ⟨fuel', hfuel', heq⟩ | hdeep := h fuel [] hfuel
  · obtain ⟨fuel', rfl⟩ := Nat.exists_eq_add_of_le' (show 1 ≤ fuel' by omega)
    exact Or.inl (by rw [heq, readSequence_end hend, List.append_nil])
  · exact Or.inr hdeep

/-- the last alternative of a text or group -/
theorem readBranches_last {fuel levels : Nat} {s rest : List Char} {before : List Part}
    (h : readSequence fuel levels [] (cursorAt s) = .ok (before, cursorAt rest)) (hrest : ∀ c ∈ rest.head?, c = ')') :
    readBranches (fuel + 1) levels (cursorAt s) = .ok ([sequenceOf before], cursorAt rest) := by
  rw [readBranches, h]
  cases rest with
  | nil => rfl
  | cons c r =>
    cases hrest c rfl
    rfl

/-- an alternative with others behind it -/
theorem readBranches_bar {fuel levels : Nat} {s r : List Char} {before : List Part}
    (h : readSequence fuel levels [] (cursorAt s) = .ok (before, cursorAt ('|' :: r))) :
    readBranches (fuel + 1) levels (cursorAt s) =
      (readBranches fuel levels (cursorAt r)).map fun (others, i) => (sequenceOf before :: others, i) := by
  rw [readBranches, h]
  show readBranches fuel levels (cursorAt r) >>= _ = _
  cases readBranches fuel levels (cursorAt r) <;> rfl

theorem readBranches_error {fuel levels : Nat} {s : List Char} {fault : Fault}
    (h : readSequence fuel levels [] (cursorAt s) = .error fault) :
    readBranches (fuel + 1) levels (cursorAt s) = .error fault := by
  rw [readBranches, h]
  rfl

/-- **Alternatives that are read on their own are read one after the other**, up to the end or to a closing parenthesis. -/
theorem readBranches_spec {levels : Nat} {rest : List Char} (hrest : ∀ c ∈ rest.head?, c = ')')
    {branches : List (List Char × List Part)} (hne : branches ≠ [])
    (h : ∀ b ∈ branches, ∀ {rest : List Char}, Quiet rest → ReadsOn levels (b.1 ++ rest) b.2 rest) {fuel : Nat}
    (hfuel : 2 * (['|'].intercalate (branches.map Prod.fst) ++ rest).length + 2 ≤ fuel) :
    readBranches fuel levels (cursorAt (['|'].intercalate (branches.map Prod.fst) ++ rest)) =
        .ok ((branches.map Prod.snd).map rowOf, cursorAt rest) ∨
      (∃ b ∈ branches, ∃ p ∈ b.2, levels < p.depth) ∧
        readBranches fuel levels (cursorAt (['|'].intercalate (branches.map Prod.fst) ++ rest)) = .error .tooDeep := by
  induction branches generalizing fuel with
  | nil => exact absurd rfl hne
  | cons b more ih =>
    obtain ⟨hb, hmore⟩ := List.forall_mem_cons.1 h
    obtain ⟨fuel, rfl⟩ := Nat.exists_eq_add_of_le' (show 1 ≤ fuel by omega)
    cases more with
    | nil =>
      have hs : ['|'].intercalate ([b].map Prod.fst) ++ rest = b.1 ++ rest := by simp
      rw [hs] at hfuel ⊢
      have hquiet : Quiet rest := fun c hc => hrest c hc ▸ by decide
      obtain heq | ⟨hdeep, heq⟩ := (hb hquiet).readSequence_eq (fun c hc => Or.inr (hrest c hc))
        (Nat.le_of_succ_le_succ hfuel)
      · exact Or.inl (readBranches_last heq hrest)
      · exact Or.inr ⟨⟨b, List.mem_singleton_self b, hdeep⟩, readBranches_error heq⟩
    | cons b' more =>
      have hs : ['|'].intercalate ((b :: b' :: more).map Prod.fst) ++ rest =
          b.1 ++ '|' :: (['|'].intercalate ((b' :: more).map Prod.fst) ++ rest) := by
        simp [List.intercalate_cons_cons]
      rw [hs] at hfuel ⊢
      have hlength : 2 * (['|'].intercalate ((b' :: more).map Prod.fst) ++ rest).length + 2 ≤ fuel := by
        rw [List.length_append, List.length_cons] at hfuel
        omega
      obtain heq | ⟨hdeep, heq⟩ := (hb (quiet_cons _ (by decide))).readSequence_eq (by simp)
        (Nat.le_of_succ_le_succ hfuel)
      · rw [readBranches_bar heq]
        obtain heq' | ⟨⟨c, hc, hdeep⟩, heq'⟩ := ih (List.cons_ne_nil _ _) hmore hlength
        · exact Or.inl (by rw [heq']; rfl)
        · exact Or.inr ⟨⟨c, List.mem_cons_of_mem _ hc, hdeep⟩, by rw [heq']; rfl⟩
      · exact Or.inr ⟨⟨b, List.mem_cons_self, hdeep⟩, readBranches_error heq⟩

/-- a group without a number or flags is read by its alternatives and a closing parenthesis -/
theorem readPart_group (fuel levels : Nat) (s : List Char) :
    readPart (fuel + 2) (levels + 1) '(' (cursorAt ('?' :: ':' :: s)) =
      readBranches fuel levels (cursorAt s) >>= fun (branches, j) =>
        closeGroup (cursorAt ('?' :: ':' :: s)) id (choiceOf branches) j := by
  rw [readPart]
  show readGroup (fuel + 1) (levels + 1) (cursorAt ('?' :: ':' :: s)) = _
  rw [readGroup]
  rfl

theorem readPart_group_zero (fuel : Nat) (s : List Char) :
    readPart (fuel + 2) 0 '(' (cursorAt ('?' :: ':' :: s)) = .error .tooDeep := by
  rw [readPart]
  show readGroup (fuel + 1) 0 (cursorAt ('?' :: ':' :: s)) = _
  rw [readGroup]
  rfl

theorem readsOn_group {branches : List (List Char × List Part)} (hne : branches ≠ [])
    (h : ∀ b ∈ branches, ∀ {levels : Nat} {rest : List Char}, Quiet rest → ReadsOn levels (b.1 ++ rest) b.2 rest)
    (levels : Nat) {rest : List Char} (hquiet : Quiet rest) :
    ReadsOn levels ('(' :: '?' :: ':' :: (['|'].intercalate (branches.map Prod.fst) ++ ')' :: rest))
      [groupOf (branches.map Prod.snd)] rest := by
  intro fuel before hfuel
  simp only [List.length_cons] at hfuel
  obtain ⟨fuel, rfl⟩ := Nat.exists_eq_add_of_le' (show 3 ≤ fuel by omega)
  have hlength : 2 * rest.length + 1 ≤ fuel + 2 := by
    rw [List.length_append, List.length_cons] at hfuel
    omega
  cases levels with
  | zero =>
    refine Or.inr ⟨⟨_, List.mem_singleton_self _, Nat.succ_pos _⟩, ?_⟩
    exact readSequence_part_error (by decide) (by decide) (readPart_group_zero fuel _) before
  | succ levels =>
    obtain heq | ⟨⟨b, hb, p, hp, hdeep⟩, heq⟩ := @readBranches_spec levels (')' :: rest) (by simp) branches
      hne (fun b hb _ => h b hb) fuel (show _ ≤ fuel by omega)
    · refine Or.inl ⟨fuel + 2, hlength, readSequence_part (by decide) (by decide) ?_ hquiet before⟩
      rw [readPart_group, heq]
      rfl
    · refine Or.inr ⟨⟨_, List.mem_singleton_self _, ?_⟩, readSequence_part_error (by decide) (by decide) ?_ before⟩
      · exact lt_of_le_of_lt hdeep (lt_depth_groupOf (List.mem_map_of_mem hb) hp)
      · rw [readPart_group, heq]
        rfl

/-! ## Whole patterns -/

/-- **A pattern that is read to its end is the tree of its parts**, unless it has too many levels. -/
theorem parse_of_readsOn {text : String} {ps : List Part} (h : ReadsOn nestingLimit text.toList ps []) :
    parse text = if (rowOf ps).depth ≤ nestingLimit then .ok ⟨.choice [(rowOf ps).node], 0, []⟩ else .error .tooDeep := by
  have hfuel : 2 * text.toList.length + 1 ≤ 4 * text.toList.length + 3 := by omega
  rw [parse]
  obtain heq | ⟨⟨p, hp, hdeep⟩, heq⟩ := h.readSequence_eq (by simp) hfuel
  · have hbranches := readBranches_last heq (by simp)
    show readBranches (4 * text.toList.length + 3 + 1) nestingLimit (cursorAt text.toList) >>= _ = _
    rw [hbranches]
    show (if nestingLimit < (rowOf ps).depth then _ else _) = _
    by_cases hdepth : (rowOf ps).depth ≤ nestingLimit
    · rw [if_neg (Nat.not_lt.2 hdepth), if_pos hdepth]
      rfl
    · rw [if_pos (Nat.lt_of_not_le hdepth), if_neg hdepth]
      rfl
  · show readBranches (4 * text.toList.length + 3 + 1) nestingLimit (cursorAt text.toList) >>= _ = _
    rw [readBranches_error heq, if_neg (Nat.not_le.2 (lt_of_lt_of_le hdeep (le_depth_rowOf hp)))]
    rfl

theorem compile_eq_ok_iff {text : String} {regex : Regex} :
    compile text = .ok regex ↔ ∃ tree, parse text = .ok tree ∧ tree.root.fits = true ∧ regex = tree.regex := by
  rw [compile]
  cases parse text with
  | error fault => exact ⟨nofun, nofun⟩
  | ok tree =>
    show (if tree.root.fits = true then Except.ok tree.regex else .error Fault.tooLarge) = .ok regex ↔ _
    constructor
    · intro h
      split at h
      · rename_i hfits
        cases h
        exact ⟨tree, rfl, hfits, rfl⟩
      · cases h
    · rintro ⟨_, ⟨⟩, hfits, rfl⟩
      exact if_pos hfits

/-! ## Groups that are not closed -/

/-- no sequence is read from a text -/
def Fails (levels : Nat) (s : List Char) : Prop :=
  ∀ fuel before, 2 * s.length + 1 ≤ fuel → ∃ fault, readSequence fuel levels before (cursorAt s) = .error fault

/-- alternatives that are read from a text only end with it -/
def Unfinished (levels : Nat) (s : List Char) : Prop :=
  ∀ fuel branches j, 2 * s.length + 2 ≤ fuel → readBranches fuel levels (cursorAt s) = .ok (branches, j) → j.rest = []

theorem ReadsOn.fails {levels : Nat} {s mid : List Char} {ps : List Part} (h : ReadsOn levels s ps mid)
    (hmid : Fails levels mid) : Fails levels s := by
  intro fuel before hfuel
  obtain ⟨fuel', hfuel', heq⟩ | ⟨-, heq⟩ := h fuel before hfuel
  · rw [heq]
    exact hmid fuel' _ hfuel'
  · exact ⟨_, heq⟩

theorem ReadsOn.unfinished {levels : Nat} {s : List Char} {ps : List Part} (h : ReadsOn levels s ps []) :
    Unfinished levels s := by
  intro fuel branches j hfuel hok
  obtain ⟨fuel, rfl⟩ := Nat.exists_eq_add_of_le' (show 1 ≤ fuel by omega)
  obtain heq | ⟨-, heq⟩ := h.readSequence_eq (by simp) (Nat.le_of_succ_le_succ hfuel)
  · rw [readBranches_last heq (by simp)] at hok
    cases hok
    rfl
  · rw [readBranches_error heq] at hok
    cases hok

theorem Fails.unfinished {levels : Nat} {s : List Char} (h : Fails levels s) : Unfinished levels s := by
  intro fuel branches j hfuel hok
  obtain ⟨fuel, rfl⟩ := Nat.exists_eq_add_of_le' (show 1 ≤ fuel by omega)
  obtain ⟨fault, heq⟩ := h fuel [] (Nat.le_of_succ_le_succ hfuel)
  rw [readBranches_error heq] at hok
  cases hok

/-- an alternative in front of others that only end with the text -/
theorem Unfinished.bar {levels : Nat} {s r : List Char} {ps : List Part}
    (h : ReadsOn levels (s ++ '|' :: r) ps ('|' :: r)) (hr : Unfinished levels r) : Unfinished levels (s ++ '|' :: r) := by
  intro fuel branches j hfuel hok
  obtain ⟨fuel, rfl⟩ := Nat.exists_eq_add_of_le' (show 1 ≤ fuel by omega)
  obtain heq | ⟨-, heq⟩ := h.readSequence_eq (by simp) (Nat.le_of_succ_le_succ hfuel)
  · rw [readBranches_bar heq] at hok
    have hlength : 2 * r.length + 2 ≤ fuel := by
      rw [List.length_append, List.length_cons] at hfuel
      omega
    cases hbranches : readBranches fuel levels (cursorAt r) with
    | error fault =>
      rw [hbranches] at hok
      cases hok
    | ok found =>
      rw [hbranches] at hok
      cases hok
      exact hr fuel found.1 found.2 hlength hbranches
  · rw [readBranches_error heq] at hok
    cases hok

/-- a group is not read if the alternatives in it only end with the text -/
theorem Unfinished.fails {s : List Char} (h : ∀ levels, Unfinished levels s) (levels : Nat) :
    Fails levels ('(' :: '?' :: ':' :: s) := by
  intro fuel before hfuel
  simp only [List.length_cons] at hfuel
  obtain ⟨fuel, rfl⟩ := Nat.exists_eq_add_of_le' (show 3 ≤ fuel by omega)
  suffices hpart : ∃ fault, readPart (fuel + 2) levels '(' (cursorAt ('?' :: ':' :: s)) = .error fault by
    obtain ⟨fault, hfault⟩ := hpart
    exact ⟨fault, readSequence_part_error (by decide) (by decide) hfault before⟩
  cases levels with
  | zero => exact ⟨_, readPart_group_zero fuel s⟩
  | succ levels =>
    rw [readPart_group]
    cases hbranches : readBranches fuel levels (cursorAt s) with
    | error fault => exact ⟨fault, rfl⟩
    | ok found =>
      have hend := h levels fuel found.1 found.2 (by omega) hbranches
      refine ⟨.unclosedGroup, ?_⟩
      show closeGroup _ id (choiceOf found.1) found.2 = _
      rw [closeGroup, hend]

theorem parse_of_fails {text : String} (h : Fails nestingLimit text.toList) : ∃ fault, parse text = .error fault := by
  obtain ⟨fault, heq⟩ := h (4 * text.toList.length + 3) [] (by omega)
  refine ⟨fault, ?_⟩
  rw [parse]
  show readBranches (4 * text.toList.length + 3 + 1) nestingLimit (cursorAt text.toList) >>= _ = _
  rw [readBranches_error heq]
  rfl

end MetricQuery.Pattern
