/-
Argument lists put together.

A call with several arguments is what the calls with one of them each come to together, and the first key that
comes twice is the one that is refused. An `ArgText` is a text that is read as one argument wherever an argument may
end. Lists of them are read one by one: `NewKeys` follows the table of keys along the list, `reads_texts` says what is
read as long as all keys are new, and `readArgs_taken` where the reading ends otherwise.
-/
import MetricQuery.Proofs.Keyed
import MetricQuery.Proofs.Target.Arguments

namespace MetricQuery.Target

open Text

/-! ## Arguments counted -/

namespace ArgList

def count (acc : ArgList) : Nat :=
  acc.args.length + acc.named.length

theorem count_push {acc : ArgList} {a : Arg} (h : a.NewIn acc.named) : (acc.push a).count = acc.count + 1 := by
  cases a with
  | positional value piece =>
    simp only [count, push, Arg.args, Arg.pairs, Keyed.insertAll, List.foldl_nil, List.length_append,
      List.length_singleton]
    omega
  | named key value piece =>
    have hkey : key ∉ acc.named.keys := Keyed.get?_eq_none_iff.1 (h (key, value) (List.mem_singleton.2 rfl))
    have hlen := (Keyed.perm_insert value hkey).length_eq
    rw [List.length_cons] at hlen
    simp only [count, push, Arg.args, Arg.pairs, Keyed.insertAll, List.foldl_cons, List.foldl_nil, List.append_nil, hlen]
    omega

end ArgList

theorem Reads.count_arg {acc acc' : ArgList} {s rest : List Char} (h : Reads (.arg acc acc') s rest) :
    acc'.count = acc.count + 1 := by
  obtain ⟨a, -, hnew, rfl⟩ := reads_arg_iff.1 h
  exact ArgList.count_push hnew

theorem Reads.count_args {acc acc' : ArgList} {s rest : List Char} (h : Reads (.args acc acc') s rest) :
    acc.count < acc'.count := by
  generalize hi : Item.args acc acc' = i at h
  induction h generalizing acc with
  | last h _ =>
    cases hi
    have := h.count_arg
    omega
  | more h _ _ _ ih =>
    cases hi
    have := h.count_arg
    have := ih rfl
    omega
  | _ => cases hi

/-! ## Texts of single arguments -/

/-- a text that is read as one argument wherever another follows or the call is closed -/
structure ArgText where
  text : String
  arg : Arg
  reads : ∀ k, Stops k → ReadsArg arg (text.toList ++ k) k

/-! ## Lists of arguments -/

/-- what stands behind the first argument of a list: the texts of the others up to the closing parenthesis, and more -/
def behindFirst (texts : List String) (after : List Char) : List Char :=
  if texts = [] then ')' :: after else ',' :: ((",".intercalate texts).toList ++ ')' :: after)

theorem toList_intercalate_cons (text : String) (texts : List String) (after : List Char) :
    (",".intercalate (text :: texts)).toList ++ ')' :: after = text.toList ++ behindFirst texts after := by
  unfold behindFirst
  split_ifs with h
  · simp [h]
  · simp [String.intercalate_cons_of_ne_nil h]

theorem length_behindFirst_pos (texts : List String) (after : List Char) : 0 < (behindFirst texts after).length := by
  unfold behindFirst
  split_ifs <;> simp

theorem stops_behindFirst (texts : List String) (after : List Char) : Stops (behindFirst texts after) := by
  unfold behindFirst
  split_ifs
  · exact Or.inr rfl
  · exact Or.inl rfl

/-- one by one the arguments come with keys that are not taken, neither in the table nor by those in front -/
def NewKeys : List ArgText → Keyed Expr → Prop
  | [], _ => True
  | a :: l, table => a.arg.NewIn table ∧ NewKeys l (table.insertAll a.arg.pairs)

/-- the keys of arguments in their order -/
def keysOf (l : List ArgText) : List String :=
  (l.flatMap fun a => a.arg.pairs).map Prod.fst

theorem keysOf_cons (a : ArgText) (l : List ArgText) : keysOf (a :: l) = a.arg.pairs.map Prod.fst ++ keysOf l := by
  simp [keysOf]

theorem Arg.newIn_iff {a : Arg} {table : Keyed Expr} :
    a.NewIn table ↔ ∀ key ∈ a.pairs.map Prod.fst, key ∉ table.keys := by
  simp [Arg.NewIn, Keyed.get?_eq_none_iff]

theorem Arg.pairs_of_mem {a : Arg} {p : String × Expr} (hp : p ∈ a.pairs) : a.pairs = [p] := by
  cases a with
  | positional value piece => cases hp
  | named key value piece => rw [List.mem_singleton.1 hp, pairs]

theorem Arg.nodup_keys (a : Arg) : (a.pairs.map Prod.fst).Nodup := by
  cases a <;> simp [Arg.pairs]

theorem newKeys_iff {l : List ArgText} {table : Keyed Expr} :
    NewKeys l table ↔ (keysOf l).Nodup ∧ ∀ key ∈ keysOf l, key ∉ table.keys := by
  induction l generalizing table with
  | nil => simp [NewKeys, keysOf]
  | cons a l ih =>
    rw [NewKeys, ih, keysOf_cons, Arg.newIn_iff, List.nodup_append']
    simp only [Keyed.mem_keys_insertAll, not_or, List.mem_append]
    constructor
    · rintro ⟨hnew, hnodup, hrest⟩
      refine ⟨⟨a.arg.nodup_keys, hnodup, fun key ha hl => (hrest key hl).1 ha⟩, fun key hkey => ?_⟩
      rcases hkey with ha | hl
      · exact hnew key ha
      · exact (hrest key hl).2
    · rintro ⟨⟨-, hnodup, hdisjoint⟩, hnew⟩
      refine ⟨fun key ha => hnew key (Or.inl ha), hnodup, fun key hl => ⟨fun ha => hdisjoint ha hl, ?_⟩⟩
      exact hnew key (Or.inr hl)

/-- either all keys are new, or one argument is the first whose key is taken -/
theorem newKeys_or_taken (l : List ArgText) (table : Keyed Expr) :
    NewKeys l table ∨ ∃ l₁ a l₂, l = l₁ ++ a :: l₂ ∧ NewKeys l₁ table ∧
      ∃ p ∈ a.arg.pairs, p.1 ∈ (table.insertAll (l₁.flatMap fun a => a.arg.pairs)).keys := by
  induction l generalizing table with
  | nil => exact Or.inl trivial
  | cons a l ih =>
    by_cases hnew : a.arg.NewIn table
    · rcases ih (table.insertAll a.arg.pairs) with hl | ⟨l₁, b, l₂, rfl, hl₁, p, hp, htaken⟩
      · exact Or.inl ⟨hnew, hl⟩
      · refine Or.inr ⟨a :: l₁, b, l₂, rfl, ⟨hnew, hl₁⟩, p, hp, ?_⟩
        simpa [Keyed.insertAll, List.foldl_append] using htaken
    · simp only [Arg.NewIn, Keyed.get?_eq_none_iff, not_forall, not_not] at hnew
      obtain ⟨p, hp, htaken⟩ := hnew
      exact Or.inr ⟨[], a, l, rfl, trivial, p, hp, htaken⟩

/-- **A list of arguments with new keys is read one by one.** -/
theorem reads_texts {l : List ArgText} (hl : l ≠ []) {acc : ArgList} (hnew : NewKeys l acc.named) (after : List Char) :
    Reads (.args acc (acc.pushAll (l.map ArgText.arg)))
      ((",".intercalate (l.map ArgText.text)).toList ++ ')' :: after) after := by
  induction l generalizing acc with
  | nil => exact absurd rfl hl
  | cons a l ih =>
    rw [List.map_cons, List.map_cons, toList_intercalate_cons]
    have harg := reads_arg_iff.2 ⟨a.arg, a.reads _ (stops_behindFirst (l.map ArgText.text) after), hnew.1, rfl⟩
    cases l with
    | nil => exact .last harg (skipSpaces_cons rfl after)
    | cons b l => exact .more harg (skipSpaces_cons rfl _) (ih (by simp) hnew.2)

/-- a call with arguments is not closed at once -/
theorem texts_open {l : List ArgText} (hl : l ≠ []) (after : List Char) :
    ∀ r, skipSpaces ((",".intercalate (l.map ArgText.text)).toList ++ ')' :: after) ≠ ')' :: r := by
  obtain ⟨a, l, rfl⟩ := List.exists_cons_of_ne_nil hl
  rw [List.map_cons, toList_intercalate_cons]
  intro r hr
  obtain ⟨c, t, hstart, -, hclose⟩ := (a.reads _ (stops_behindFirst (l.map ArgText.text) after)).reads.starts
  rw [hstart] at hr
  exact hclose (List.cons.inj hr).1

/-! ## Keys that are taken -/

/-- an argument whose key is taken is refused -/
theorem ReadsArg.readArg_taken {a : Arg} {s rest : List Char} (h : ReadsArg a s rest) {p : String × Expr}
    (hp : p ∈ a.pairs) {acc : ArgList} (htaken : p.1 ∈ acc.named.keys) {n : Nat}
    (hn : 4 * s.length + 1 ≤ n + 4 * rest.length) :
    readArg n acc s = .error ⟨skipSpaces s, .duplicateNamedArgument p.1⟩ := by
  cases h with
  | @named _ key _ v value _ _ value' hkey hvalue hv =>
    cases List.mem_singleton.1 hp
    have hlen := hkey.length_le
    have hlen' := hvalue.length_le
    simp only [Item.least, List.length_cons] at hlen hlen'
    have hread : readPiped n s = .ok _ := hkey.readBy (by simp only [Item.spare, List.length_cons]; omega)
    have hread' : readPiped n v = .ok _ := hvalue.readBy (by simp only [Item.spare]; omega)
    have hsome : (acc.named.get? key).isSome = true := by
      rw [Option.isSome_iff_ne_none]
      exact fun hnone => Keyed.get?_eq_none_iff.1 hnone htaken
    rw [readArg, hread]
    simp [bind, Except.bind, hread', hv, hsome]
  | positional _ _ => cases hp

/-- **The first argument whose key is taken is where the reading of a list ends.** -/
theorem readArgs_taken {l₁ l₂ : List ArgText} {a : ArgText} {acc : ArgList} (hl₁ : NewKeys l₁ acc.named)
    {p : String × Expr} (hp : p ∈ a.arg.pairs)
    (htaken : p.1 ∈ (acc.named.insertAll (l₁.flatMap fun a => a.arg.pairs)).keys) {s after : List Char}
    (hs : (",".intercalate ((l₁ ++ a :: l₂).map ArgText.text)).toList ++ ')' :: after = s) :
    ∃ start, ∀ fuel opening, 4 * s.length ≤ fuel →
      readArgs fuel opening acc s = .error ⟨start, .duplicateNamedArgument p.1⟩ := by
  -- by induction on the arguments in front, each of which is read and puts its key into the table
  induction l₁ generalizing acc s with
  | nil =>
    rw [List.nil_append, List.map_cons, toList_intercalate_cons] at hs
    subst hs
    have hread := a.reads _ (stops_behindFirst (l₂.map ArgText.text) after)
    have hlen := length_behindFirst_pos (l₂.map ArgText.text) after
    refine ⟨skipSpaces (a.text.toList ++ behindFirst (l₂.map ArgText.text) after), fun fuel opening hfuel => ?_⟩
    have := hread.length_lt
    obtain ⟨n, rfl⟩ : ∃ n, fuel = n + 1 := ⟨fuel - 1, by omega⟩
    rw [readArgs_succ, if_neg hread.skipSpaces_ne, hread.readArg_taken hp htaken (by omega)]
    rfl
  | cons b l₁ ih =>
    rw [List.cons_append, List.map_cons, toList_intercalate_cons, behindFirst, if_neg (by simp)] at hs
    have htaken' : p.1 ∈ ((acc.push b.arg).named.insertAll (l₁.flatMap fun a => a.arg.pairs)).keys := by
      simpa [ArgList.push, Keyed.insertAll, List.foldl_append] using htaken
    obtain ⟨start, hrest⟩ := ih hl₁.2 htaken' rfl
    generalize (",".intercalate ((l₁ ++ a :: l₂).map ArgText.text)).toList ++ ')' :: after = t at hs hrest
    subst hs
    have hread := b.reads (',' :: t) (Or.inl rfl)
    have hlen := hread.length_lt
    refine ⟨start, fun fuel opening hfuel => ?_⟩
    obtain ⟨n, rfl⟩ : ∃ n, fuel = n + 1 := ⟨fuel - 1, by omega⟩
    have harg : readArg n acc (b.text.toList ++ ',' :: t) = .ok (acc.push b.arg, ',' :: t) := by
      refine (reads_arg_iff.2 ⟨b.arg, hread, hl₁.1, rfl⟩).readBy ?_
      simp only [Item.spare, List.length_cons]
      omega
    rw [readArgs_succ, if_neg hread.skipSpaces_ne, harg]
    refine hrest n opening ?_
    rw [List.length_cons] at hlen
    omega

/-- a fault in the arguments of a call is a fault of the call -/
theorem Heads.readExpr_error {n t : List Char} {f : Failure} (h : Heads n)
    (hopen : ∀ after, skipSpaces t ≠ ')' :: after)
    (ht : ∀ fuel opening, 4 * t.length ≤ fuel → readArgs fuel opening {} t = .error f) :
    readExpr (n ++ '(' :: t) = .error f := by
  obtain ⟨c, r, hbare⟩ := h t
  have hfuel : 4 * t.length ≤ 4 * (n ++ '(' :: t).length + 5 := by
    simp only [List.length_append, List.length_cons]
    omega
  have hargs := ht _ ('(' :: t) hfuel
  have hcall : readNameOrCall (4 * (n ++ '(' :: t).length + 6) (c :: r) = .error f := by
    rw [readNameOrCall, readName_eq_ok.2 hbare.scans]
    simp only [bind, Except.bind, if_neg hbare.nonempty, hargs]
  have hpiped : readPiped (4 * (n ++ '(' :: t).length + 8) (n ++ '(' :: t) = .error f := by
    rw [readPiped, hbare.readOperand, hcall]
    rfl
  rw [readExpr, enough, hpiped]
  rfl

theorem parse_of_error {text : String} {f : Failure} (h : readExpr text.toList = .error f) :
    parse text = .error (f.locate text.toList) := by
  rw [parse, h]

/-! ## Calls with one argument -/

/-- what a text starts with is read without an application behind it -/
def Direct (text : String) : Prop :=
  ∃ e rest, readPiped (enough text.toList) text.toList = .ok ((e, false), rest)

/-- a text between the parentheses of a call with one argument, and that call -/
structure Piece (n : String) (p : String × Call) : Prop where
  parse : parse (callText n p.1) = .ok p.2.toExpr
  function : p.2.function = n
  single : p.2.args.length + p.2.named.length = 1

/-- an argument as the only one of a call -/
def ArgText.piece (n : String) (a : ArgText) : String × Call :=
  (a.text, ⟨n, a.arg.args, a.arg.pairs, a.arg.piece⟩)

theorem Call.toExpr_inj {c d : Call} (h : c.toExpr = d.toExpr) : c = d := by
  obtain ⟨f, args, named, argText⟩ := c
  cases h
  rfl

theorem Reads.eq_false_of_direct {text : String} {e : Expr} {p : Bool} {rest : List Char}
    (h : Reads (.piped e p) text.toList rest) (hdirect : Direct text) : p = false := by
  obtain ⟨e', rest', hread⟩ := hdirect
  have hread' : readPiped (enough text.toList) text.toList = .ok ((e, p), rest) := by
    refine h.readBy ?_
    simp only [Item.spare, enough]
    omega
  cases hread.symm.trans hread'
  rfl

/-- arguments that come to one more than there were are a single one -/
theorem Reads.args_single {acc acc' : ArgList} {s rest : List Char} (h : Reads (.args acc acc') s rest)
    (hcount : acc'.count = acc.count + 1) : ∃ a, acc' = acc.push a ∧ ReadsArg a s (')' :: rest) := by
  cases h with
  | last h hs =>
    obtain ⟨a, ha, -, rfl⟩ := reads_arg_iff.1 h
    rw [ha.skipSpaces_rest] at hs
    exact ⟨a, rfl, hs ▸ ha⟩
  | more h _ hmore =>
    have := h.count_arg
    have := hmore.count_args
    omega

namespace Piece

theorem named_cases {n : String} {p : String × Call} (h : Piece n p) : p.2.named = [] ∨ ∃ q, p.2.named = [q] := by
  have hlen : p.2.named.length ≤ 1 := by
    have := h.single
    omega
  rcases Nat.le_one_iff_eq_zero_or_eq_one.1 hlen with hlen | hlen
  · exact Or.inl (List.length_eq_zero_iff.1 hlen)
  · exact Or.inr (List.length_eq_one_iff.1 hlen)

variable {n : String} {p : String × Call} (hn : ∀ c ∈ n.toList, isNameChar c = true) (h : Piece n p)
include hn h

theorem heads : Heads n.toList := by
  obtain ⟨q, hread⟩ := reads_callText h.parse
  exact (piped_of_callText hn hread).1

/-- **The text of a call with one argument has the text of that argument in it**, unless a pipe stands behind. -/
theorem exists_argText (hdirect : Direct (callText n p.1)) : ∃ a : ArgText, a.piece n = p := by
  obtain ⟨text, c⟩ := p
  obtain ⟨q, hread⟩ := reads_callText h.parse
  obtain ⟨-, c₀, mid, hpipes, hc⟩ := piped_of_callText hn hread
  rw [← toList_callText] at hread
  rcases hpipes.pipes_cases with ⟨hcall, -, hmid⟩ | ⟨hq, -⟩
  · cases Call.toExpr_inj hcall
    have hsingle : c.args.length + c.named.length = 1 := h.single
    rcases hc with ⟨-, rfl⟩ | ⟨acc, hargs, rfl⟩
    · cases hsingle
    · obtain ⟨a, rfl, ha⟩ := hargs.args_single hsingle
      have hspaces : trimStart mid = [] := by
        refine List.dropWhile_eq_nil_iff.2 fun d hd => isBlank_of_isSpace ?_
        exact List.dropWhile_eq_nil_iff.1 hmid.symm d hd
      obtain ⟨v, hv, -⟩ := hargs.replace
      cases eq_nil_of_trimStart hv rfl hspaces
      refine ⟨⟨text, a, fun k hk => ha.replace hk⟩, ?_⟩
      have hpairs : Keyed.insertAll [] a.pairs = a.pairs := by cases a <;> rfl
      simp [ArgText.piece, ArgList.toCall, ArgList.push, hpairs]
  · rw [hread.eq_false_of_direct hdirect] at hq
    cases hq

end Piece

/-! ## Calls put together -/

/-- the text of one call with the arguments of all the pieces -/
def joinedText (n : String) (pieces : List (String × Call)) : String :=
  callText n (",".intercalate (pieces.map Prod.fst))

/-- the named arguments of the pieces, in their order -/
def namedOf (pieces : List (String × Call)) : List (String × Expr) :=
  pieces.flatMap fun p => p.2.named

/-- a call that has what each of the pieces has -/
structure Joined (n : String) (pieces : List (String × Call)) (c : Call) : Prop where
  function : c.function = n
  args : c.args = pieces.flatMap fun p => p.2.args
  ascending : c.named.Ascending
  named : List.Perm c.named (namedOf pieces)
  argText : c.argText = ",".intercalate (pieces.map fun p => p.2.argText)

/-- in what order the pieces come does not show in the named arguments -/
theorem Joined.named_eq {n : String} {ps qs : List (String × Call)} {c d : Call} (hc : Joined n ps c)
    (hd : Joined n qs d) (h : ps.Perm qs) : c.named = d.named := by
  have hperm : (namedOf ps).Perm (namedOf qs) := h.flatMap_right _
  exact hc.ascending.eq_of_perm hd.ascending ((hc.named.trans hperm).trans hd.named.symm)

theorem toList_joinedText (n : String) (l : List ArgText) : (joinedText n (l.map (ArgText.piece n))).toList =
    n.toList ++ '(' :: ((",".intercalate (l.map ArgText.text)).toList ++ [')']) := by
  rw [joinedText, toList_callText, List.map_map]
  rfl

theorem namedOf_map (n : String) (l : List ArgText) :
    namedOf (l.map (ArgText.piece n)) = l.flatMap fun a => a.arg.pairs := by
  simp [namedOf, ArgText.piece, List.flatMap_map]

section Texts

variable {n : String} {l : List ArgText} (hn : Heads n.toList)
include hn

/-- arguments with new keys come to one call that has them all -/
theorem parse_texts (hl : l ≠ []) (hkeys : (keysOf l).Nodup) :
    ∃ c, parse (joinedText n (l.map (ArgText.piece n))) = .ok c.toExpr ∧ Joined n (l.map (ArgText.piece n)) c := by
  have hnew : NewKeys l ({} : ArgList).named := newKeys_iff.2 ⟨hkeys, by simp [Keyed.keys]⟩
  have hcall := hn.reads_call (reads_texts hl hnew [])
  rw [String.ofList_toList, ← toList_joinedText, ArgList.pushAll_eq] at hcall
  have hperm : (Keyed.insertAll [] (l.flatMap fun a => a.arg.pairs)).Perm (_ ++ []) :=
    Keyed.perm_insertAll hkeys (by simp [Keyed.keys])
  refine ⟨_, parse_of_reads (.piped hcall (Reads.stop_of_stops trivial)), rfl, ?_, ?_, ?_, ?_⟩
  · simp [ArgList.toCall, ArgText.piece, List.flatMap_map]
  · exact Keyed.Ascending.insertAll List.Pairwise.nil _
  · rw [namedOf_map]
    simpa [ArgList.toCall, List.flatMap_map] using hperm
  · simp [ArgList.toCall, ArgText.piece, Function.comp_def]

/-- the first key that comes twice is refused -/
theorem parse_texts_taken (hkeys : ¬ (keysOf l).Nodup) :
    ∃ firsts key others position, keysOf l = firsts ++ key :: others ∧ firsts.Nodup ∧ key ∈ firsts ∧
      parse (joinedText n (l.map (ArgText.piece n))) = .error (.duplicateNamedArgument position key) := by
  obtain hnew | ⟨l₁, a, l₂, rfl, hnew, p, hp, htaken⟩ := newKeys_or_taken l ({} : ArgList).named
  · exact absurd (newKeys_iff.1 hnew).1 hkeys
  · have hsplit : keysOf (l₁ ++ a :: l₂) = keysOf l₁ ++ p.1 :: keysOf l₂ := by
      simp [keysOf, Arg.pairs_of_mem hp]
    have hfirst : p.1 ∈ keysOf l₁ := by
      rcases Keyed.mem_keys_insertAll.1 htaken with h | h
      · exact h
      · cases h
    obtain ⟨start, hargs⟩ := readArgs_taken hnew hp htaken (rfl :
      (",".intercalate ((l₁ ++ a :: l₂).map ArgText.text)).toList ++ ')' :: [] = _)
    have hread := hn.readExpr_error (texts_open (by simp) []) hargs
    rw [← toList_joinedText] at hread
    exact ⟨_, _, _, _, hsplit, (newKeys_iff.1 hnew).1, hfirst, parse_of_error hread⟩

end Texts

/-! ## Pieces put together -/

section Pieces

variable {n : String} {pieces : List (String × Call)} (hn : ∀ c ∈ n.toList, isNameChar c = true)
  (hne : pieces ≠ []) (hpieces : ∀ p ∈ pieces, Piece n p)
include hn hne hpieces

theorem heads_of_pieces : Heads n.toList := by
  obtain ⟨p, l, rfl⟩ := List.exists_cons_of_ne_nil hne
  exact (hpieces p List.mem_cons_self).heads hn

omit hne in
theorem exists_argTexts (hdirect : ∀ p ∈ pieces, Direct (callText n p.1)) :
    ∃ l : List ArgText, l.map (ArgText.piece n) = pieces := by
  have hmem : pieces ∈ Set.range (List.map (ArgText.piece n)) := by
    rw [Set.range_list_map]
    intro p hp
    exact (hpieces p hp).exists_argText hn (hdirect p hp)
  exact hmem

/-- of several pieces every one is read directly, and a single one is the whole call -/
theorem parse_pieces (hdirect : 1 < pieces.length → ∀ p ∈ pieces, Direct (callText n p.1))
    (hkeys : ((namedOf pieces).map Prod.fst).Nodup) :
    ∃ c, parse (joinedText n pieces) = .ok c.toExpr ∧ Joined n pieces c := by
  by_cases hmany : 1 < pieces.length
  · have hheads := heads_of_pieces hn hne hpieces
    obtain ⟨l, rfl⟩ := exists_argTexts hn hpieces (hdirect hmany)
    rw [namedOf_map] at hkeys
    exact parse_texts hheads (by simpa using hne) hkeys
  · obtain ⟨p, rfl⟩ : ∃ p, pieces = [p] := by
      have := List.length_pos_iff.2 hne
      exact List.length_eq_one_iff.1 (by omega)
    have hp := hpieces p List.mem_cons_self
    have hnamed : p.2.named.Ascending := by
      rcases hp.named_cases with hnil | ⟨q, hone⟩
      · exact hnil ▸ List.Pairwise.nil
      · exact hone ▸ List.pairwise_singleton _ _
    exact ⟨p.2, by simpa [joinedText] using hp.parse, hp.function, by simp, hnamed, by simp [namedOf], by simp⟩

omit hn hne in
/-- the keys of a single piece do not repeat -/
theorem many_of_repeated (hkeys : ¬ ((namedOf pieces).map Prod.fst).Nodup) : 1 < pieces.length := by
  rcases pieces with _ | ⟨p, _ | ⟨q, l⟩⟩
  · exact absurd List.nodup_nil hkeys
  · exfalso
    rcases (hpieces p List.mem_cons_self).named_cases with hnil | ⟨q, hone⟩
    · exact hkeys (by simp [namedOf, hnil])
    · exact hkeys (by simp [namedOf, hone])
  · simp

end Pieces

/-- **Arguments are put together.** The text of a call with the arguments of several calls comes to one call that has
what each of them has, unless a key comes twice: then the first one that does is refused. -/
theorem arguments_compose {n : String} {pieces : List (String × Call)} (hn : ∀ c ∈ n.toList, isNameChar c = true)
    (hne : pieces ≠ []) (hpieces : ∀ p ∈ pieces, Piece n p)
    (hdirect : 1 < pieces.length → ∀ p ∈ pieces, Direct (callText n p.1)) :
    (((namedOf pieces).map Prod.fst).Nodup →
      ∃ c, parse (joinedText n pieces) = .ok c.toExpr ∧ Joined n pieces c) ∧
    (¬ ((namedOf pieces).map Prod.fst).Nodup →
      ∃ firsts key others position, (namedOf pieces).map Prod.fst = firsts ++ key :: others ∧ firsts.Nodup ∧
        key ∈ firsts ∧ parse (joinedText n pieces) = .error (.duplicateNamedArgument position key)) ∧
    ∀ p l₁ l₂ r₁ r₂, pieces = l₁ ++ p :: l₂ → l₁ ++ l₂ = r₁ ++ r₂ → p.2.args = [] →
      ((namedOf pieces).map Prod.fst).Nodup →
        ∃ c d : Call, parse (joinedText n pieces) = .ok c.toExpr ∧ parse (joinedText n (r₁ ++ p :: r₂)) = .ok d.toExpr ∧
          c.args = d.args ∧ c.named = d.named := by
  refine ⟨parse_pieces hn hne hpieces hdirect, fun hkeys => ?_, fun p l₁ l₂ r₁ r₂ hsplit hmove hp hkeys => ?_⟩
  · have hheads := heads_of_pieces hn hne hpieces
    obtain ⟨l, rfl⟩ := exists_argTexts hn hpieces (hdirect (many_of_repeated hpieces hkeys))
    rw [namedOf_map] at hkeys ⊢
    exact parse_texts_taken hheads hkeys
  · have hperm : (r₁ ++ p :: r₂).Perm pieces := by
      have hrest : (p :: (r₁ ++ r₂)).Perm (l₁ ++ p :: l₂) := hmove ▸ List.perm_middle.symm
      exact hsplit ▸ List.perm_middle.trans hrest
    have hkeys' : ((namedOf (r₁ ++ p :: r₂)).map Prod.fst).Nodup :=
      (((hperm.flatMap_right fun p => p.2.named).map Prod.fst).nodup_iff).2 hkeys
    obtain ⟨c, hc, hjoined⟩ := parse_pieces hn hne hpieces hdirect hkeys
    obtain ⟨d, hd, hjoined'⟩ := parse_pieces hn (by simp) (fun q hq => hpieces q (hperm.mem_iff.1 hq))
      (fun hmany q hq => hdirect (hperm.length_eq ▸ hmany) q (hperm.mem_iff.1 hq)) hkeys'
    refine ⟨c, d, hc, hd, ?_, hjoined.named_eq hjoined' hperm.symm⟩
    have hargs : (l₁ ++ l₂).flatMap (fun q => q.2.args) = (r₁ ++ r₂).flatMap (fun q => q.2.args) := by rw [hmove]
    rw [hjoined.args, hjoined'.args, hsplit]
    simpa [hp] using hargs

/-- a name as the only argument of a call -/
def namePiece (n path : String) : String × Call :=
  (path, ⟨n, [.name path], [], path⟩)

/-- a name under a key as the only argument of a call -/
def keyPiece (n key path : String) : String × Call :=
  (key ++ "=" ++ path, ⟨n, [], [(key, .name path)], key ++ "=" ++ path⟩)

/-- the pieces that compose are the texts whose call is read without anything behind it -/
theorem piece_of_readPiped {n : String} {p : String × Call}
    (h : readPiped (enough (callText n p.1).toList) (callText n p.1).toList = .ok ((p.2.toExpr, false), []))
    (hname : p.2.function = n) (hsingle : p.2.args.length + p.2.named.length = 1) :
    Piece n p ∧ Direct (callText n p.1) := by
  refine ⟨⟨?_, hname, hsingle⟩, _, _, h⟩
  rw [parse, readExpr, h]
  rfl

/-- a named argument moved in front of a positional one, and a key that comes twice -/
theorem arguments_compose_names :
    (∀ c ∈ "f".toList, isNameChar c = true) ∧
    (∀ p ∈ [namePiece "f" "a", keyPiece "f" "k" "b", keyPiece "f" "k" "c"],
      Piece "f" p ∧ Direct (callText "f" p.1)) ∧
    (∃ c d : Call, parse (joinedText "f" [namePiece "f" "a", keyPiece "f" "k" "b"]) = .ok c.toExpr ∧
      parse (joinedText "f" [keyPiece "f" "k" "b", namePiece "f" "a"]) = .ok d.toExpr ∧
        c.args = d.args ∧ c.named = d.named) ∧
    ∃ firsts key others position, ["k", "k"] = firsts ++ key :: others ∧ firsts.Nodup ∧ key ∈ firsts ∧
      parse (joinedText "f" [keyPiece "f" "k" "b", keyPiece "f" "k" "c"]) =
        .error (.duplicateNamedArgument position key) := by
  have hn : ∀ c ∈ "f".toList, isNameChar c = true := by
    intro c hc
    rw [show c = 'f' by simpa using hc]
    rfl
  have ha : Piece "f" (namePiece "f" "a") ∧ Direct (callText "f" (namePiece "f" "a").1) :=
    piece_of_readPiped (by cbv) rfl rfl
  have hb : Piece "f" (keyPiece "f" "k" "b") ∧ Direct (callText "f" (keyPiece "f" "k" "b").1) :=
    piece_of_readPiped (by cbv) rfl rfl
  have hc : Piece "f" (keyPiece "f" "k" "c") ∧ Direct (callText "f" (keyPiece "f" "k" "c").1) :=
    piece_of_readPiped (by cbv) rfl rfl
  have hab := @arguments_compose "f" [namePiece "f" "a", keyPiece "f" "k" "b"] hn (by simp)
    (by simp [ha, hb]) (by simp [ha, hb])
  have hbc := @arguments_compose "f" [keyPiece "f" "k" "b", keyPiece "f" "k" "c"] hn (by simp)
    (by simp [hb, hc]) (by simp [hb, hc])
  refine ⟨hn, by simp [ha, hb, hc], ?_, ?_⟩
  · exact hab.2.2 (keyPiece "f" "k" "b") [namePiece "f" "a"] [] [] [namePiece "f" "a"] rfl rfl rfl (by decide)
  · exact hbc.2.1 (by decide)

/-- a pipe outside of the parentheses takes the arguments in front of it away -/
theorem arguments_not_compose_piped :
    (∀ c ∈ "n".toList, isNameChar c = true) ∧
    (∀ p ∈ [("a)|n(", Call.mk "n" [.call "n" [.name "a"] [] "a"] [] "n(a)"), namePiece "n" "b"], Piece "n" p) ∧
    ((namedOf [("a)|n(", Call.mk "n" [.call "n" [.name "a"] [] "a"] [] "n(a)"), namePiece "n" "b"]).map
      Prod.fst).Nodup ∧
    parse (joinedText "n" [("a)|n(", Call.mk "n" [.call "n" [.name "a"] [] "a"] [] "n(a)"), namePiece "n" "b"]) =
      .error (.missingExpr 7) := by
  refine ⟨fun c hc => ?_, fun p hp => ?_, by decide, by cbv⟩
  · rw [show c = 'n' by simpa using hc]
    rfl
  · simp only [List.mem_cons, List.not_mem_nil, or_false] at hp
    rcases hp with rfl | rfl
    · exact ⟨by cbv, rfl, rfl⟩
    · exact ⟨by cbv, rfl, rfl⟩

end MetricQuery.Target
