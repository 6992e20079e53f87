/-
The language of a glob.

`Stands` says, of the text of a glob without classes, which names it stands for. A group stands for what any of its
alternatives stands for; the alternatives are between its commas, and commas and braces of a group within it do not count
(`Nested`). The reader turns text into a tree with a stack of open groups. `Reads` is what it does without the stack: a
text that reads as some parts adds them to the innermost open frame, wherever it stands (`read_of_reads`), so what a text
reads as is unique. A tree takes what its text stands for (`takes_iff_stands`), and there is a tree exactly if every
brace that opens is closed (`parse_isSome_iff_matched`).
-/
import MetricQuery.Proofs.Glob.Matching

namespace MetricQuery.Glob

/-! ## Texts of globs -/

/-- a character that stands for itself, at the outermost level or inside a group -/
structure Literal (inside : Bool) (c : Char) : Prop where
  plain : c ≠ '[' ∧ c ≠ '*' ∧ c ≠ '?' ∧ c ≠ '{'
  inside : inside = true → c ≠ '}' ∧ c ≠ ','

/-- the text of one alternative: its groups are closed, and there is no comma outside them -/
inductive Nested : List Char → Prop
  | nil : Nested []
  | char {c : Char} {r : List Char} : c ≠ '[' → c ≠ '{' → c ≠ '}' → c ≠ ',' → Nested r → Nested (c :: r)
  | group {alternatives : List (List Char)} {r : List Char} : alternatives ≠ [] → (∀ a ∈ alternatives, Nested a) →
      Nested r → Nested ('{' :: ([','].intercalate alternatives ++ '}' :: r))

/-- the text of a glob stands for a name -/
inductive Stands : Bool → List Char → List Char → Prop
  | nil {inside : Bool} : Stands inside [] []
  | literal {inside : Bool} {c : Char} {r u : List Char} :
      Literal inside c → Stands inside r u → Stands inside (c :: r) (c :: u)
  | anyChar {inside : Bool} {x : Char} {r u : List Char} :
      x ≠ '.' → Stands inside r u → Stands inside ('?' :: r) (x :: u)
  | anyRun {inside : Bool} {run r u : List Char} :
      (∀ x ∈ run, x ≠ '.') → Stands inside r u → Stands inside ('*' :: r) (run ++ u)
  | group {inside : Bool} {alternatives : List (List Char)} {a v r u : List Char} :
      (∀ b ∈ alternatives, Nested b) → a ∈ alternatives → Stands true a v → Stands inside r u →
      Stands inside ('{' :: ([','].intercalate alternatives ++ '}' :: r)) (v ++ u)

/-- text in which every brace has its counterpart -/
inductive Balanced : List Char → Prop
  | nil : Balanced []
  | char {c : Char} {r : List Char} : c ≠ '{' → c ≠ '}' → Balanced r → Balanced (c :: r)
  | group {s r : List Char} : Balanced s → Balanced r → Balanced ('{' :: (s ++ '}' :: r))

/-- every brace that opens is closed later on by the one that matches it -/
def Matched (s : List Char) : Prop :=
  ∀ before rest, s = before ++ '{' :: rest → ∃ inner behind, rest = inner ++ '}' :: behind ∧ Balanced inner

/-! ## Reading -/

/-- the parts that a text reads as, at the outermost level or inside a group -/
inductive Reads : Bool → List Char → List Part → Prop
  | nil {inside : Bool} : Reads inside [] []
  | literal {inside : Bool} {c : Char} {r : List Char} {ps : List Part} :
      Literal inside c → Reads inside r ps → Reads inside (c :: r) (.char c :: ps)
  | anyChar {inside : Bool} {r : List Char} {ps : List Part} :
      Reads inside r ps → Reads inside ('?' :: r) (.anyChar :: ps)
  | anyRun {inside : Bool} {r : List Char} {ps : List Part} :
      Reads inside r ps → Reads inside ('*' :: r) (.anyRun :: ps)
  | group {inside : Bool} {alternatives : List (List Char × List Part)} {r : List Char} {ps : List Part} :
      alternatives ≠ [] → (∀ a ∈ alternatives, Reads true a.1 a.2) → Reads inside r ps →
      Reads inside ('{' :: ([','].intercalate (alternatives.map Prod.fst) ++ '}' :: r))
        (.group (alternatives.map Prod.snd) :: ps)

/-- a character that neither opens nor ends a group or an alternative -/
theorem Reads.cons {inside : Bool} {c : Char} (hset : c ≠ '[') (hopen : c ≠ '{')
    (hinside : inside = true → c ≠ '}' ∧ c ≠ ',') :
    ∃ p : Part, ∀ {r : List Char} {ps : List Part}, Reads inside r ps → Reads inside (c :: r) (p :: ps) := by
  by_cases hrun : c = '*'
  · subst hrun
    exact ⟨.anyRun, Reads.anyRun⟩
  · by_cases hany : c = '?'
    · subst hany
      exact ⟨.anyChar, Reads.anyChar⟩
    · exact ⟨.char c, Reads.literal ⟨⟨hset, hrun, hany, hopen⟩, hinside⟩⟩

section Steps

variable (top next : Frame) (outer rest : List Frame) (r : List Char)

theorem read_anyRun : read top outer ('*' :: r) = read (top.push .anyRun) outer r := by
  rw [read.eq_def]
  rfl

theorem read_anyChar : read top outer ('?' :: r) = read (top.push .anyChar) outer r := by
  rw [read.eq_def]
  rfl

theorem read_open : read top outer ('{' :: r) = read ⟨[], []⟩ (top :: outer) r := by
  rw [read.eq_def]
  rfl

theorem read_close : read top (next :: rest) ('}' :: r) = read (next.push (.group top.alternatives)) rest r := by
  rw [read.eq_def]
  rfl

theorem read_comma : read top (next :: rest) (',' :: r) = read ⟨top.alternatives, []⟩ (next :: rest) r := by
  rw [read.eq_def]
  rfl

theorem read_literal {inside : Bool} {c : Char} (h : Literal inside c) (hlevel : inside = false ↔ outer = []) :
    read top outer (c :: r) = read (top.push (.char c)) outer r := by
  obtain ⟨hset, hrun, hany, hopen⟩ := h.plain
  rw [read.eq_def]
  dsimp only
  rw [if_neg hset, if_neg hrun, if_neg hany, if_neg hopen]
  cases outer with
  | nil => rfl
  | cons next rest =>
    obtain ⟨hclose, hcomma⟩ := h.inside (by simpa using hlevel)
    dsimp only
    rw [if_neg hclose, if_neg hcomma]

end Steps

/-- what is read inside a group, one alternative after the other, becomes the group -/
theorem read_alternatives {alternatives : List (List Char × List Part)} (hne : alternatives ≠ [])
    (h : ∀ a ∈ alternatives, ∀ {complete : List Glob} {parts : Glob} {outer : List Frame} {rest : List Char},
      (true = false ↔ outer = []) → read ⟨complete, parts⟩ outer (a.1 ++ rest) = read ⟨complete, parts ++ a.2⟩ outer rest)
    (complete : List Glob) (next : Frame) (outer : List Frame) (rest : List Char) :
    read ⟨complete, []⟩ (next :: outer) ([','].intercalate (alternatives.map Prod.fst) ++ '}' :: rest) =
      read (next.push (.group (complete ++ alternatives.map Prod.snd))) outer rest := by
  induction alternatives generalizing complete with
  | nil => exact absurd rfl hne
  | cons a more ih =>
    obtain ⟨ha, hmore⟩ := List.forall_mem_cons.1 h
    cases more with
    | nil =>
      rw [List.map_singleton, List.intercalate_singleton, ha (by simp), read_close]
      rfl
    | cons b more =>
      have hsplit : [','].intercalate ((a :: b :: more).map Prod.fst) ++ '}' :: rest =
          a.1 ++ ',' :: ([','].intercalate ((b :: more).map Prod.fst) ++ '}' :: rest) := by
        simp [List.intercalate_cons_cons]
      rw [hsplit, ha (by simp), read_comma, ih (List.cons_ne_nil _ _) hmore]
      simp [Frame.alternatives]

/-- **A text adds the parts that it reads as to the innermost frame.** -/
theorem read_of_reads {inside : Bool} {s : List Char} {ps : List Part} (h : Reads inside s ps) :
    ∀ {complete : List Glob} {parts : Glob} {outer : List Frame} {rest : List Char}, (inside = false ↔ outer = []) →
      read ⟨complete, parts⟩ outer (s ++ rest) = read ⟨complete, parts ++ ps⟩ outer rest := by
  induction h with
  | nil =>
    intro complete parts outer rest _
    rw [List.append_nil, List.nil_append]
  | literal hc _ ih =>
    intro complete parts outer rest hlevel
    rw [List.cons_append, read_literal _ _ _ hc hlevel, Frame.push, ih hlevel, List.append_assoc]
    rfl
  | anyChar _ ih =>
    intro complete parts outer rest hlevel
    rw [List.cons_append, read_anyChar, Frame.push, ih hlevel, List.append_assoc]
    rfl
  | anyRun _ ih =>
    intro complete parts outer rest hlevel
    rw [List.cons_append, read_anyRun, Frame.push, ih hlevel, List.append_assoc]
    rfl
  | group hne _ _ ihs ih =>
    intro complete parts outer rest hlevel
    rw [List.cons_append, read_open, List.append_assoc, List.cons_append, read_alternatives hne ihs, Frame.push,
      ih hlevel, List.append_assoc]
    rfl

theorem parse_of_reads {text : String} {ps : List Part} (h : Reads false text.toList ps) : parse text = some ps := by
  have hread : read ⟨[], []⟩ [] (text.toList ++ []) = read ⟨[], [] ++ ps⟩ [] [] := read_of_reads h (by simp)
  rw [List.append_nil] at hread
  rw [parse, hread, read.eq_def]
  rfl

/-! ## Braces -/

/-- text in front of alternatives belongs to the first of them -/
theorem append_intercalate (s a : List Char) (more : List (List Char)) :
    s ++ [','].intercalate (a :: more) = [','].intercalate ((s ++ a) :: more) := by
  cases more with
  | nil => rw [List.intercalate_singleton, List.intercalate_singleton]
  | cons b more => rw [List.intercalate_cons_cons, List.intercalate_cons_cons, List.append_assoc, List.append_assoc,
      List.append_assoc]

/-- text in which every brace has its counterpart reads as alternatives of a group -/
theorem Balanced.exists_reads {s : List Char} (h : Balanced s) (hset : '[' ∉ s) :
    ∃ alternatives : List (List Char × List Part), alternatives ≠ [] ∧
      s = [','].intercalate (alternatives.map Prod.fst) ∧ ∀ a ∈ alternatives, Reads true a.1 a.2 := by
  induction h with
  | nil => exact ⟨[([], [])], List.cons_ne_nil _ _, rfl, by simpa using Reads.nil⟩
  | @char c r hopen hclose _ ih =>
    rw [List.mem_cons, not_or] at hset
    obtain ⟨alternatives, hne, rfl, hreads⟩ := ih hset.2
    obtain ⟨⟨a, ps⟩, more, rfl⟩ := List.exists_cons_of_ne_nil hne
    obtain ⟨ha, hmore⟩ := List.forall_mem_cons.1 hreads
    by_cases hcomma : c = ','
    · refine ⟨([], []) :: (a, ps) :: more, List.cons_ne_nil _ _, ?_, List.forall_mem_cons.2 ⟨Reads.nil, hreads⟩⟩
      rw [hcomma]
      simp [List.intercalate_cons_cons]
    · obtain ⟨p, hp⟩ := Reads.cons (Ne.symm hset.1) hopen fun _ : true = true => ⟨hclose, hcomma⟩
      refine ⟨(c :: a, p :: ps) :: more, List.cons_ne_nil _ _, ?_, List.forall_mem_cons.2 ⟨hp ha, hmore⟩⟩
      exact append_intercalate [c] a (more.map Prod.fst)
  | @group s r _ _ ihs ih =>
    have hset_s : '[' ∉ s := fun hmem => hset (by simp [hmem])
    have hset_r : '[' ∉ r := fun hmem => hset (by simp [hmem])
    obtain ⟨inner, hinner, rfl, hreads⟩ := ihs hset_s
    obtain ⟨alternatives, hne, rfl, hreads'⟩ := ih hset_r
    obtain ⟨⟨a, ps⟩, more, rfl⟩ := List.exists_cons_of_ne_nil hne
    obtain ⟨ha, hmore⟩ := List.forall_mem_cons.1 hreads'
    refine ⟨(_, _) :: more, List.cons_ne_nil _ _, ?_,
      List.forall_mem_cons.2 ⟨Reads.group hinner hreads ha, hmore⟩⟩
    rw [List.map_cons, List.map_cons]
    simpa using append_intercalate ('{' :: ([','].intercalate (inner.map Prod.fst) ++ ['}'])) a (more.map Prod.fst)

theorem Matched.of_append (s : List Char) {r : List Char} (h : Matched (s ++ r)) : Matched r := by
  rintro before rest rfl
  exact h (s ++ before) rest (List.append_assoc _ _ _).symm

/-- text with matched braces reads as parts -/
theorem Matched.exists_reads {s : List Char} (h : Matched s) (hset : '[' ∉ s) : ∃ ps, Reads false s ps := by
  induction hn : s.length using Nat.strong_induction_on generalizing s with
  | _ n ih =>
    subst hn
    cases s with
    | nil => exact ⟨[], Reads.nil⟩
    | cons c r =>
      have hset_r : '[' ∉ r := fun hmem => hset (List.mem_cons_of_mem c hmem)
      by_cases hopen : c = '{'
      · subst hopen
        obtain ⟨inner, behind, rfl, hinner⟩ := h [] r rfl
        have hset_inner : '[' ∉ inner := fun hmem => hset_r (by simp [hmem])
        have hset_behind : '[' ∉ behind := fun hmem => hset_r (by simp [hmem])
        obtain ⟨alternatives, hne, rfl, hreads⟩ := hinner.exists_reads hset_inner
        have hbehind : Matched behind := by
          refine Matched.of_append ('{' :: ([','].intercalate (alternatives.map Prod.fst) ++ ['}'])) ?_
          simpa using h
        obtain ⟨ps, hps⟩ := ih behind.length (by simp; omega) hbehind hset_behind rfl
        exact ⟨_, Reads.group hne hreads hps⟩
      · obtain ⟨ps, hps⟩ := ih r.length (by simp) (Matched.of_append [c] h) hset_r rfl
        obtain ⟨p, hp⟩ := Reads.cons (fun heq => hset (by simp [heq])) hopen (nofun : false = true → _)
        exact ⟨p :: ps, hp hps⟩

/-- a character inside a group that neither opens nor closes one -/
theorem exists_read_inside {c : Char} (hset : c ≠ '[') (hopen : c ≠ '{') (hclose : c ≠ '}') (top next : Frame)
    (outer : List Frame) (r : List Char) :
    ∃ top', read top (next :: outer) (c :: r) = read top' (next :: outer) r := by
  by_cases hcomma : c = ','
  · subst hcomma
    exact ⟨_, read_comma _ _ _ _⟩
  · obtain ⟨p, hp⟩ := Reads.cons hset hopen fun _ : true = true => ⟨hclose, hcomma⟩
    exact ⟨⟨top.complete, top.parts ++ [p]⟩, read_of_reads (hp Reads.nil) (by simp)⟩

/-- what is read inside a group runs up to the brace that closes it -/
theorem closes_of_read {top next : Frame} {outer : List Frame} {s : List Char} {g : Glob}
    (h : read top (next :: outer) s = some g) (hset : '[' ∉ s) :
    ∃ inner behind top', s = inner ++ '}' :: behind ∧ Balanced inner ∧ read top' outer behind = some g := by
  induction hn : s.length using Nat.strong_induction_on generalizing s top next outer with
  | _ n ih =>
    subst hn
    cases s with
    | nil =>
      rw [read.eq_def] at h
      cases h
    | cons c r =>
      rw [List.mem_cons, not_or] at hset
      by_cases hclose : c = '}'
      · subst hclose
        rw [read_close] at h
        exact ⟨[], r, _, rfl, Balanced.nil, h⟩
      · by_cases hopen : c = '{'
        · subst hopen
          rw [read_open] at h
          obtain ⟨inner, behind, top', rfl, hinner, hbehind⟩ := ih r.length (by simp) h hset.2 rfl
          have hset_behind : '[' ∉ behind := fun hmem => hset.2 (by simp [hmem])
          obtain ⟨inner', behind', top'', rfl, hinner', hrest⟩ :=
            ih behind.length (by simp; omega) hbehind hset_behind rfl
          exact ⟨'{' :: (inner ++ '}' :: inner'), behind', top'', by simp, Balanced.group hinner hinner', hrest⟩
        · obtain ⟨top', hstep⟩ := exists_read_inside (Ne.symm hset.1) hopen hclose top next outer r
          rw [hstep] at h
          obtain ⟨inner, behind, top'', rfl, hinner, hrest⟩ := ih r.length (by simp) h hset.2 rfl
          exact ⟨c :: inner, behind, top'', rfl, Balanced.char hopen hclose hinner, hrest⟩

/-- reading goes on behind every character -/
theorem exists_read_behind (top : Frame) (outer : List Frame) {before : List Char} (rest : List Char)
    (hset : '[' ∉ before) :
    ∃ top' outer', read top outer (before ++ rest) = read top' outer' rest := by
  induction before generalizing top outer with
  | nil => exact ⟨top, outer, rfl⟩
  | cons c r ih =>
    rw [List.mem_cons, not_or] at hset
    have hstep : ∃ top' outer', read top outer (c :: (r ++ rest)) = read top' outer' (r ++ rest) := by
      by_cases hopen : c = '{'
      · exact ⟨_, _, hopen ▸ read_open _ _ _⟩
      · cases outer with
        | nil =>
          obtain ⟨p, hp⟩ := Reads.cons (Ne.symm hset.1) hopen (nofun : false = true → _)
          exact ⟨⟨top.complete, top.parts ++ [p]⟩, [], read_of_reads (hp Reads.nil) (by simp)⟩
        | cons next outer =>
          by_cases hclose : c = '}'
          · exact ⟨_, _, hclose ▸ read_close _ _ _ _⟩
          · obtain ⟨top', h⟩ := exists_read_inside (Ne.symm hset.1) hopen hclose top next outer (r ++ rest)
            exact ⟨top', _, h⟩
    obtain ⟨top', outer', hstep⟩ := hstep
    obtain ⟨top'', outer'', hrest⟩ := ih top' outer' hset.2
    exact ⟨top'', outer'', hstep.trans hrest⟩

theorem matched_of_parse {text : String} (hset : '[' ∉ text.toList) {g : Glob} (h : parse text = some g) :
    Matched text.toList := by
  intro before rest heq
  rw [parse, heq] at h
  rw [heq] at hset
  have hset_before : '[' ∉ before := fun hmem => hset (by simp [hmem])
  have hset_rest : '[' ∉ rest := fun hmem => hset (by simp [hmem])
  obtain ⟨top, outer, hread⟩ := exists_read_behind ⟨[], []⟩ [] ('{' :: rest) hset_before
  rw [hread, read_open] at h
  obtain ⟨inner, behind, -, hrest, hinner, -⟩ := closes_of_read h hset_rest
  exact ⟨inner, behind, hrest, hinner⟩

/-- a text reads as the tree that it is parsed to -/
theorem parse_eq_some_iff {text : String} (hset : '[' ∉ text.toList) {g : Glob} :
    parse text = some g ↔ Reads false text.toList g := by
  constructor
  · intro h
    obtain ⟨ps, hps⟩ := (matched_of_parse hset h).exists_reads hset
    rw [parse_of_reads hps] at h
    cases h
    exact hps
  · exact parse_of_reads

/-- **A text without classes is a glob exactly if its braces match.** -/
theorem parse_isSome_iff_matched {text : String} (hset : '[' ∉ text.toList) :
    (parse text).isSome = true ↔ Matched text.toList := by
  constructor
  · intro h
    obtain ⟨g, hg⟩ := Option.isSome_iff_exists.1 h
    exact matched_of_parse hset hg
  · intro h
    obtain ⟨ps, hps⟩ := h.exists_reads hset
    rw [parse_of_reads hps]
    rfl

/-! ## Languages -/

theorem Reads.nested {inside : Bool} {s : List Char} {ps : List Part} (h : Reads inside s ps) (hinside : inside = true) :
    Nested s := by
  induction h with
  | nil => exact Nested.nil
  | literal hc _ ih =>
    obtain ⟨hset, -, -, hopen⟩ := hc.plain
    obtain ⟨hclose, hcomma⟩ := hc.inside hinside
    exact Nested.char hset hopen hclose hcomma (ih hinside)
  | anyChar _ ih => exact Nested.char (by decide) (by decide) (by decide) (by decide) (ih hinside)
  | anyRun _ ih => exact Nested.char (by decide) (by decide) (by decide) (by decide) (ih hinside)
  | group hne _ _ ihs ih =>
    refine Nested.group (by simpa using hne) (fun b hb => ?_) (ih hinside)
    obtain ⟨a, ha, rfl⟩ := List.mem_map.1 hb
    exact ihs a ha rfl

/-- a group whose alternatives are read by a function -/
theorem Reads.group_map {inside : Bool} {alternatives : List (List Char)} {parts : List Char → List Part}
    {r : List Char} {ps : List Part} (hne : alternatives ≠ []) (h : ∀ a ∈ alternatives, Reads true a (parts a))
    (hr : Reads inside r ps) :
    Reads inside ('{' :: ([','].intercalate alternatives ++ '}' :: r)) (.group (alternatives.map parts) :: ps) := by
  let pairs := alternatives.map fun a => (a, parts a)
  have hpairs : ∀ a ∈ pairs, Reads true a.1 a.2 := by
    intro a ha
    obtain ⟨b, hb, rfl⟩ := List.mem_map.1 ha
    exact h b hb
  have hgroup := Reads.group (show pairs ≠ [] by simpa [pairs] using hne) hpairs hr
  simpa [pairs, Function.comp_def] using hgroup

theorem Nested.exists_reads {s : List Char} (h : Nested s) : ∃ ps, Reads true s ps := by
  induction h with
  | nil => exact ⟨[], Reads.nil⟩
  | char hset hopen hclose hcomma _ ih =>
    obtain ⟨ps, hps⟩ := ih
    obtain ⟨p, hp⟩ := Reads.cons hset hopen fun _ : true = true => ⟨hclose, hcomma⟩
    exact ⟨p :: ps, hp hps⟩
  | group hne _ _ ihs ih =>
    obtain ⟨ps, hps⟩ := ih
    choose! parts hparts using ihs
    exact ⟨_, Reads.group_map hne hparts hps⟩

/-- a tree only takes what its text stands for -/
theorem Reads.stands {inside : Bool} {s : List Char} {ps : List Part} (h : Reads inside s ps) {u : List Char}
    (hu : Takes ps u) : Stands inside s u := by
  induction h generalizing u with
  | nil =>
    rw [takes_nil_iff.1 hu]
    exact Stands.nil
  | literal hc _ ih =>
    cases hu with
    | char _ hu => exact Stands.literal hc (ih hu)
  | anyChar _ ih =>
    cases hu with
    | anyChar hx hu => exact Stands.anyChar hx (ih hu)
  | anyRun _ ih =>
    cases hu with
    | anyRun hrun hu => exact Stands.anyRun hrun (ih hu)
  | group _ hreads _ ihs ih =>
    cases hu with
    | group hmem hv hu =>
      obtain ⟨a, ha, rfl⟩ := List.mem_map.1 hmem
      refine Stands.group (fun b hb => ?_) (List.mem_map_of_mem ha) (ihs a ha hv) (ih hu)
      obtain ⟨a', ha', rfl⟩ := List.mem_map.1 hb
      exact (hreads a' ha').nested rfl

/-- what a text stands for is taken by a tree of it -/
theorem Stands.exists_takes {inside : Bool} {s u : List Char} (h : Stands inside s u) :
    ∃ ps, Reads inside s ps ∧ Takes ps u := by
  induction h with
  | nil => exact ⟨[], Reads.nil, Takes.nil⟩
  | literal hc _ ih =>
    obtain ⟨ps, hps, hu⟩ := ih
    exact ⟨_, Reads.literal hc hps, Takes.char _ hu⟩
  | anyChar hx _ ih =>
    obtain ⟨ps, hps, hu⟩ := ih
    exact ⟨_, Reads.anyChar hps, Takes.anyChar hx hu⟩
  | anyRun hrun _ ih =>
    obtain ⟨ps, hps, hu⟩ := ih
    exact ⟨_, Reads.anyRun hps, Takes.anyRun hrun hu⟩
  | @group _ alternatives a v _ _ hnested hmem _ _ ihv ih =>
    obtain ⟨ps, hps, hu⟩ := ih
    have hreads : ∀ b ∈ alternatives, ∃ qs, Reads true b qs ∧ (b = a → Takes qs v) := by
      intro b hb
      by_cases hba : b = a
      · obtain ⟨qs, hqs, hv⟩ := ihv
        exact ⟨qs, hba ▸ hqs, fun _ => hv⟩
      · obtain ⟨qs, hqs⟩ := (hnested b hb).exists_reads
        exact ⟨qs, hqs, fun heq => absurd heq hba⟩
    choose! parts hparts using hreads
    exact ⟨_, Reads.group_map (List.ne_nil_of_mem hmem) (fun b hb => (hparts b hb).1) hps,
      Takes.group (List.mem_map_of_mem hmem) ((hparts a hmem).2 rfl) hu⟩

/-- **A glob takes what its text stands for.** -/
theorem takes_iff_stands {text : String} (hset : '[' ∉ text.toList) {g : Glob} (h : parse text = some g)
    {u : List Char} : Takes g u ↔ Stands false text.toList u := by
  constructor
  · exact ((parse_eq_some_iff hset).1 h).stands
  · intro hu
    obtain ⟨ps, hps, hu⟩ := hu.exists_takes
    rw [parse_of_reads hps] at h
    cases h
    exact hu

/-- **A glob matches its language.** A text without classes, within the limits, is a glob exactly if every brace that
opens is closed by one behind it, and then it matches exactly the names for which it stands as a whole. -/
theorem compile_language {text : String} (hset : '[' ∉ text.toList)
    (hlimits : ∀ g, parse text = some g → fits g = true) :
    ((compile text).isSome = true ↔ Matched text.toList) ∧
      ∀ g, compile text = some g → ∀ name : String, accepts g name = true ↔ Stands false text.toList name.toList := by
  have hcompile : compile text = parse text := by
    unfold compile
    cases hparse : parse text with
    | none => rfl
    | some g => exact if_pos (hlimits g hparse)
  rw [hcompile]
  refine ⟨parse_isSome_iff_matched hset, fun g hg name => ?_⟩
  rw [accepts_iff_takes, takes_iff_stands hset hg]

end MetricQuery.Glob
