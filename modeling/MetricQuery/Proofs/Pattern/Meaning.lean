/-
What a regular expression matches.

`Node.Matches` says which texts a node matches, given what stands before and behind them, since assertions ask for that.
The constructing functions keep trees in one form and do not change what they match: a sequence matches what its parts
match in a row (`sequence_alike`) and a choice what any of its branches matches (`choice_alike`), the latter also where
the branches are united to one set or where their common beginning is taken out.
-/
import MetricQuery.Pattern.Search
import MetricQuery.Proofs.Unicode.Ranges

namespace MetricQuery.Pattern

open Unicode (CodeSet)

namespace Node

/-- a node matches a text that stands between two others -/
inductive Matches : Node → List Char → List Char → List Char → Prop
  | empty {before behind : List Char} : Matches .empty before [] behind
  | text {cs before behind : List Char} : Matches (.text cs) before cs behind
  | oneOf {s : CodeSet} {c : Char} {before behind : List Char} : s.holds c = true → Matches (.oneOf s) before [c] behind
  | assert {a : Assertion} {before behind : List Char} :
      a.holds ⟨before.getLast?, behind, before.length⟩ = true → Matches (.assert a) before [] behind
  | group {index : Nat} {inner : Node} {before u behind : List Char} :
      Matches inner before u behind → Matches (.group index inner) before u behind
  | seqNil {before behind : List Char} : Matches (.seq []) before [] behind
  | seqCons {n : Node} {rest : List Node} {before u v behind : List Char} :
      Matches n before u (v ++ behind) → Matches (.seq rest) (before ++ u) v behind →
      Matches (.seq (n :: rest)) before (u ++ v) behind
  | alt {branches : List Node} {n : Node} {before u behind : List Char} :
      n ∈ branches → Matches n before u behind → Matches (.alt branches) before u behind
  | repNil {inner : Node} {most : Option Nat} {greedy : Bool} {before behind : List Char} :
      Matches (.rep inner 0 most greedy) before [] behind
  | repCons {inner : Node} {least : Nat} {most : Option Nat} {greedy : Bool} {before u v behind : List Char} :
      most ≠ some 0 → Matches inner before u (v ++ behind) →
      Matches (.rep inner (least - 1) (most.map (· - 1)) greedy) (before ++ u) v behind →
      Matches (.rep inner least most greedy) before (u ++ v) behind

/-- a node matches somewhere in a text -/
def Occurs (n : Node) (s : List Char) : Prop :=
  ∃ before u behind, s = before ++ u ++ behind ∧ n.Matches before u behind

/-- two nodes match the same -/
def Alike (m n : Node) : Prop :=
  ∀ before u behind, m.Matches before u behind ↔ n.Matches before u behind

theorem Alike.refl (n : Node) : n.Alike n :=
  fun _ _ _ => Iff.rfl

theorem Alike.symm {m n : Node} (h : m.Alike n) : n.Alike m :=
  fun before u behind => (h before u behind).symm

theorem Alike.trans {l m n : Node} (h : l.Alike m) (h' : m.Alike n) : l.Alike n :=
  fun before u behind => (h before u behind).trans (h' before u behind)

/-! ## Single nodes -/

section Single

variable {before u behind : List Char}

theorem matches_empty_iff : Node.empty.Matches before u behind ↔ u = [] := by
  constructor
  · rintro ⟨⟩
    rfl
  · rintro rfl
    exact .empty

theorem matches_text_iff {cs : List Char} : (Node.text cs).Matches before u behind ↔ u = cs := by
  constructor
  · rintro ⟨⟩
    rfl
  · rintro rfl
    exact .text

theorem matches_oneOf_iff {s : CodeSet} :
    (Node.oneOf s).Matches before u behind ↔ ∃ c, u = [c] ∧ s.holds c = true := by
  constructor
  · intro h
    cases h with
    | oneOf hc => exact ⟨_, rfl, hc⟩
  · rintro ⟨c, rfl, hc⟩
    exact .oneOf hc

theorem matches_assert_iff {a : Assertion} : (Node.assert a).Matches before u behind ↔
    u = [] ∧ a.holds ⟨before.getLast?, behind, before.length⟩ = true := by
  constructor
  · intro h
    cases h with
    | assert ha => exact ⟨rfl, ha⟩
  · rintro ⟨rfl, ha⟩
    exact .assert ha

theorem matches_seq_nil_iff : (Node.seq []).Matches before u behind ↔ u = [] := by
  constructor
  · rintro ⟨⟩
    rfl
  · rintro rfl
    exact .seqNil

theorem matches_seq_cons_iff {n : Node} {rest : List Node} : (Node.seq (n :: rest)).Matches before u behind ↔
    ∃ v w, u = v ++ w ∧ n.Matches before v (w ++ behind) ∧ (Node.seq rest).Matches (before ++ v) w behind := by
  constructor
  · intro h
    cases h with
    | seqCons hv hw => exact ⟨_, _, rfl, hv, hw⟩
  · rintro ⟨v, w, rfl, hv, hw⟩
    exact .seqCons hv hw

theorem matches_alt_iff {branches : List Node} :
    (Node.alt branches).Matches before u behind ↔ ∃ n ∈ branches, n.Matches before u behind := by
  constructor
  · intro h
    cases h with
    | alt hmem h => exact ⟨_, hmem, h⟩
  · rintro ⟨n, hmem, h⟩
    exact .alt hmem h

theorem matches_seq_append_iff {ms ns : List Node} : (Node.seq (ms ++ ns)).Matches before u behind ↔
    ∃ v w, u = v ++ w ∧ (Node.seq ms).Matches before v (w ++ behind) ∧
      (Node.seq ns).Matches (before ++ v) w behind := by
  induction ms generalizing before u with
  | nil => simp [matches_seq_nil_iff]
  | cons m ms ih =>
    rw [List.cons_append, matches_seq_cons_iff]
    constructor
    · rintro ⟨v, w, rfl, hv, hw⟩
      obtain ⟨x, y, rfl, hx, hy⟩ := ih.1 hw
      rw [List.append_assoc] at hv hy
      exact ⟨v ++ x, y, (List.append_assoc _ _ _).symm, .seqCons hv hx, hy⟩
    · rintro ⟨_, y, rfl, hhead, hy⟩
      obtain ⟨v, x, rfl, hv, hx⟩ := matches_seq_cons_iff.1 hhead
      rw [← List.append_assoc] at hv hy
      exact ⟨v, x ++ y, List.append_assoc _ _ _, hv, ih.2 ⟨x, y, rfl, hx, hy⟩⟩

theorem matches_seq_singleton_iff {n : Node} : (Node.seq [n]).Matches before u behind ↔ n.Matches before u behind := by
  rw [matches_seq_cons_iff]
  constructor
  · rintro ⟨v, w, rfl, hv, hw⟩
    rw [matches_seq_nil_iff.1 hw] at hv ⊢
    simpa using hv
  · intro h
    exact ⟨u, [], (List.append_nil u).symm, by simpa using h, .seqNil⟩

/-- any number of times what matches one character of a kind -/
theorem matches_star_iff {inner : Node} {greedy : Bool} {P : Char → Prop}
    (h : ∀ before u behind, inner.Matches before u behind ↔ ∃ x, u = [x] ∧ P x) :
    (Node.rep inner 0 none greedy).Matches before u behind ↔ ∀ x ∈ u, P x := by
  constructor
  · intro hm
    generalize hn : Node.rep inner 0 none greedy = n at hm
    induction hm with
    | repNil => nofun
    | repCons _ hfirst _ _ ih =>
      cases hn
      obtain ⟨x, rfl, hx⟩ := (h _ _ _).1 hfirst
      exact List.forall_mem_cons.2 ⟨hx, ih rfl⟩
    | _ => cases hn
  · intro hu
    induction u generalizing before with
    | nil => exact .repNil
    | cons x r ih =>
      obtain ⟨hx, hr⟩ := List.forall_mem_cons.1 hu
      exact .repCons (u := [x]) nofun ((h _ _ _).2 ⟨x, rfl, hx⟩) (ih hr)

end Single

/-! ## Sequences -/

theorem Alike.seq_cons {m n : Node} {ms ns : List Node} (h : m.Alike n) (hs : (Node.seq ms).Alike (.seq ns)) :
    (Node.seq (m :: ms)).Alike (.seq (n :: ns)) := by
  intro before u behind
  rw [matches_seq_cons_iff, matches_seq_cons_iff]
  simp only [h _ _ _, hs _ _ _]

theorem consPart_alike (n : Node) (rest : List Node) : (Node.seq (consPart n rest)).Alike (.seq (n :: rest)) := by
  fun_cases consPart n rest with
  | case1 a b rest =>
    intro before u behind
    simp only [matches_seq_cons_iff, matches_text_iff]
    constructor
    · rintro ⟨_, w, rfl, rfl, hw⟩
      exact ⟨a, b ++ w, List.append_assoc _ _ _, rfl, b, w, rfl, rfl, by rwa [List.append_assoc]⟩
    · rintro ⟨_, _, rfl, rfl, _, w, rfl, rfl, hw⟩
      exact ⟨_, w, (List.append_assoc _ _ _).symm, rfl, by rwa [← List.append_assoc]⟩
  | case2 => exact Alike.refl _

theorem foldr_consPart_alike (parts rest : List Node) :
    (Node.seq (parts.foldr consPart rest)).Alike (.seq (parts ++ rest)) := by
  induction parts with
  | nil => exact Alike.refl _
  | cons n parts ih => exact (consPart_alike n _).trans ((Alike.refl n).seq_cons ih)

theorem consNode_alike (n : Node) (rest : List Node) : (Node.seq (consNode n rest)).Alike (.seq (n :: rest)) := by
  fun_cases consNode n rest with
  | case1 =>
    intro before u behind
    rw [matches_seq_cons_iff]
    simp [matches_empty_iff]
  | case2 parts =>
    refine (foldr_consPart_alike parts rest).trans fun before u behind => ?_
    rw [matches_seq_append_iff, matches_seq_cons_iff]
  | case3 => exact consPart_alike n rest

theorem consPart_ne_nil (n : Node) (rest : List Node) : consPart n rest ≠ [] := by
  fun_cases consPart n rest <;> exact List.cons_ne_nil _ _

/-- a node never makes the parts behind it fewer than one -/
theorem consNode_ne_nil (n : Node) {rest : List Node} (h : rest ≠ []) : consNode n rest ≠ [] := by
  fun_cases consNode n rest with
  | case1 => exact h
  | case2 parts =>
    cases parts with
    | nil => exact h
    | cons m parts => exact consPart_ne_nil m _
  | case3 => exact consPart_ne_nil n rest

theorem foldr_consNode_alike (nodes : List Node) : (Node.seq (nodes.foldr consNode [])).Alike (.seq nodes) := by
  induction nodes with
  | nil => exact Alike.refl _
  | cons n nodes ih => exact (consNode_alike n _).trans ((Alike.refl n).seq_cons ih)

/-- **A sequence matches what its parts match in a row.** -/
theorem sequence_alike (nodes : List Node) : (sequence nodes).Alike (.seq nodes) := by
  refine Alike.trans ?_ (foldr_consNode_alike nodes)
  unfold sequence
  split
  · rename_i heq
    intro before u behind
    rw [heq, matches_empty_iff, matches_seq_nil_iff]
  · rename_i heq
    intro before u behind
    rw [heq, matches_seq_singleton_iff]
  · exact Alike.refl _

/-! ## Well-formed nodes -/

/-- all sets of a node have a form in which membership can be looked up -/
inductive Proper : Node → Prop
  | empty : Proper .empty
  | text (cs : List Char) : Proper (.text cs)
  | oneOf {s : CodeSet} : s.Proper → Proper (.oneOf s)
  | assert (a : Assertion) : Proper (.assert a)
  | group (index : Nat) {inner : Node} : Proper inner → Proper (.group index inner)
  | seq {parts : List Node} : (∀ n ∈ parts, Proper n) → Proper (.seq parts)
  | alt {branches : List Node} : (∀ n ∈ branches, Proper n) → Proper (.alt branches)
  | rep {inner : Node} (least : Nat) (most : Option Nat) (greedy : Bool) :
      Proper inner → Proper (.rep inner least most greedy)

theorem proper_oneOf_iff {s : CodeSet} : (Node.oneOf s).Proper ↔ s.Proper := by
  constructor
  · rintro ⟨⟩
    assumption
  · exact .oneOf

theorem proper_seq_iff {parts : List Node} : (Node.seq parts).Proper ↔ ∀ n ∈ parts, n.Proper := by
  constructor
  · rintro ⟨⟩
    assumption
  · exact .seq

theorem proper_alt_iff {branches : List Node} : (Node.alt branches).Proper ↔ ∀ n ∈ branches, n.Proper := by
  constructor
  · rintro ⟨⟩
    assumption
  · exact .alt

theorem proper_consPart {n : Node} {rest : List Node} (hn : n.Proper) (h : ∀ m ∈ rest, m.Proper) :
    ∀ m ∈ consPart n rest, m.Proper := by
  fun_cases consPart n rest with
  | case1 a b rest => exact List.forall_mem_cons.2 ⟨.text _, (List.forall_mem_cons.1 h).2⟩
  | case2 => exact List.forall_mem_cons.2 ⟨hn, h⟩

theorem proper_consNode {n : Node} {rest : List Node} (hn : n.Proper) (h : ∀ m ∈ rest, m.Proper) :
    ∀ m ∈ consNode n rest, m.Proper := by
  fun_cases consNode n rest with
  | case1 => exact h
  | case2 parts =>
    rw [proper_seq_iff] at hn
    induction parts with
    | nil => exact h
    | cons n parts ih =>
      obtain ⟨hn, hparts⟩ := List.forall_mem_cons.1 hn
      exact proper_consPart hn (ih hparts)
  | case3 => exact proper_consPart hn h

theorem proper_sequence {nodes : List Node} (h : ∀ n ∈ nodes, n.Proper) : (sequence nodes).Proper := by
  have hall : ∀ n ∈ nodes.foldr consNode [], n.Proper := by
    induction nodes with
    | nil => nofun
    | cons n nodes ih =>
      obtain ⟨hn, hnodes⟩ := List.forall_mem_cons.1 h
      exact proper_consNode hn (ih hnodes)
  unfold sequence
  split
  · exact .empty
  · rename_i heq
    exact hall _ (heq ▸ List.mem_singleton_self _)
  · exact .seq hall

/-! ## Sets -/

theorem ofSet_alike {s : CodeSet} (h : s.Proper) : (ofSet s).Alike (.oneOf s) := by
  unfold ofSet
  split
  · rename_i lo hi heq
    split
    · rename_i hlo
      subst hlo
      have hvalid : lo.isValidChar := h.scalar (lo, lo) (heq ▸ List.mem_singleton_self _)
      intro before u behind
      rw [matches_text_iff, matches_oneOf_iff]
      have hholds : ∀ c, s.holds c = true ↔ c = Char.ofNat lo := by
        intro c
        rw [CodeSet.holds_iff h, heq, ← Char.toNat_inj, Char.toNat_ofNat, if_pos hvalid]
        simp only [List.mem_singleton, exists_eq_left, CodeSet.Within]
        omega
      simp [hholds]
    · exact Alike.refl _
  · exact Alike.refl _

theorem proper_ofSet {s : CodeSet} (h : s.Proper) : (ofSet s).Proper := by
  unfold ofSet
  split
  · split
    · exact .text _
    · exact .oneOf h
  · exact .oneOf h

/-- what a partial function makes of all elements of a list comes from a list of what it takes apart -/
theorem exists_of_mapM_eq_some {α β γ : Type} {f : α → Option β} (build : γ → α) (value : γ → β)
    (h : ∀ a b, f a = some b → ∃ c, a = build c ∧ b = value c) {l : List α} {bs : List β} (hl : l.mapM f = some bs) :
    ∃ cs : List γ, l = cs.map build ∧ bs = cs.map value := by
  induction l generalizing bs with
  | nil =>
    cases hl
    exact ⟨[], rfl, rfl⟩
  | cons a l ih =>
    rw [List.mapM_cons] at hl
    simp only [Option.bind_eq_bind, Option.bind_eq_some_iff] at hl
    obtain ⟨b, hb, bs, hbs, heq⟩ := hl
    cases heq
    obtain ⟨c, rfl, rfl⟩ := h a b hb
    obtain ⟨cs, rfl, rfl⟩ := ih hbs
    exact ⟨c :: cs, rfl, rfl⟩

theorem exists_of_code?_eq_some {n : Node} {code : Nat} (h : n.code? = some code) :
    ∃ c : Char, n = .text [c] ∧ code = c.toNat := by
  unfold code? at h
  split at h
  · cases h
    exact ⟨_, rfl, rfl⟩
  · cases h

theorem exists_of_set?_eq_some {n : Node} {s : CodeSet} (h : n.set? = some s) : ∃ t, n = .oneOf t ∧ s = t := by
  unfold set? at h
  split at h
  · cases h
    exact ⟨_, rfl, rfl⟩
  · cases h

theorem exists_of_parts?_eq_some {n : Node} {parts : List Node} (h : n.parts? = some parts) :
    ∃ l, n = .seq l ∧ parts = l := by
  unfold parts? at h
  split at h
  · cases h
    exact ⟨_, rfl, rfl⟩
  · cases h

/-! ## Common beginnings -/

mutual

theorem eq_of_same : ∀ {a b : Node}, a.same b = true → a = b
  | .empty, b, h => by cases b <;> first | rfl | cases h
  | .text _, b, h => by cases b <;> first | exact congrArg _ (eq_of_beq h) | cases h
  | .oneOf _, b, h => by cases b <;> first | exact congrArg _ (eq_of_beq h) | cases h
  | .assert _, b, h => by cases b <;> first | exact congrArg _ (eq_of_beq h) | cases h
  | .group _ inner, b, h => by
    cases b with
    | group _ inner' =>
      rw [same, Bool.and_eq_true] at h
      rw [eq_of_beq h.1, eq_of_same h.2]
    | _ => cases h
  | .seq parts, b, h => by
    cases b with
    | seq parts' => rw [eq_of_allSame h]
    | _ => cases h
  | .alt branches, b, h => by
    cases b with
    | alt branches' => rw [eq_of_allSame h]
    | _ => cases h
  | .rep inner _ _ _, b, h => by
    cases b with
    | rep inner' _ _ _ =>
      simp only [same, Bool.and_eq_true, beq_iff_eq] at h
      obtain ⟨⟨⟨rfl, rfl⟩, rfl⟩, h⟩ := h
      rw [eq_of_same h]
    | _ => cases h

theorem eq_of_allSame : ∀ {as bs : List Node}, allSame as bs = true → as = bs
  | [], bs, h => by
    cases bs with
    | nil => rfl
    | cons _ _ => cases h
  | a :: as, bs, h => by
    cases bs with
    | nil => cases h
    | cons b bs =>
      rw [allSame, Bool.and_eq_true] at h
      rw [eq_of_same h.1, eq_of_allSame h.2]

end

theorem commonStart_prefix (as bs : List Node) : commonStart as bs <+: as ∧ commonStart as bs <+: bs := by
  fun_induction commonStart as bs with
  | case1 a as b bs hsame ih =>
    rw [eq_of_same hsame]
    exact ⟨List.cons_prefix_cons.2 ⟨rfl, ih.1⟩, List.cons_prefix_cons.2 ⟨rfl, ih.2⟩⟩
  | case2 => exact ⟨List.nil_prefix, List.nil_prefix⟩
  | case3 => exact ⟨List.nil_prefix, List.nil_prefix⟩

theorem foldl_commonStart_prefix (first : List Node) (others : List (List Node)) :
    ∀ parts ∈ first :: others, others.foldl commonStart first <+: parts := by
  induction others generalizing first with
  | nil => simp
  | cons other others ih =>
    obtain ⟨hfirst, hother⟩ := commonStart_prefix first other
    obtain ⟨hhead, htail⟩ := List.forall_mem_cons.1 (ih (commonStart first other))
    rw [List.foldl_cons]
    exact List.forall_mem_cons.2 ⟨hhead.trans hfirst, List.forall_mem_cons.2 ⟨hhead.trans hother, htail⟩⟩

/-! ## Choices -/

theorem branches_alike (n : Node) : (Node.alt n.branches).Alike n := by
  intro before u behind
  fun_cases branches n with
  | case1 => exact Iff.rfl
  | case2 => rw [matches_alt_iff]; simp

theorem flatMap_branches_alike (nodes : List Node) : (Node.alt (nodes.flatMap branches)).Alike (.alt nodes) := by
  intro before u behind
  have hbranches : ∀ n : Node, (∃ m ∈ n.branches, m.Matches before u behind) ↔ n.Matches before u behind :=
    fun n => matches_alt_iff.symm.trans (branches_alike n before u behind)
  rw [matches_alt_iff, matches_alt_iff]
  constructor
  · rintro ⟨m, hm, h⟩
    obtain ⟨n, hn, hm⟩ := List.mem_flatMap.1 hm
    exact ⟨n, hn, (hbranches n).1 ⟨m, hm, h⟩⟩
  · rintro ⟨n, hn, h⟩
    obtain ⟨m, hm, h⟩ := (hbranches n).2 h
    exact ⟨m, List.mem_flatMap.2 ⟨n, hn, hm⟩, h⟩

theorem proper_branches {n : Node} (h : n.Proper) : ∀ m ∈ n.branches, m.Proper := by
  fun_cases branches n with
  | case1 => exact proper_alt_iff.1 h
  | case2 => simpa using h

/-- a well-formed node that matches what any of some nodes matches -/
structure Chooses (n : Node) (nodes : List Node) : Prop where
  proper : n.Proper
  alike : n.Alike (.alt nodes)

theorem chooses_alt {nodes : List Node} (h : ∀ n ∈ nodes, n.Proper) : (Node.alt nodes).Chooses nodes :=
  ⟨.alt h, Alike.refl _⟩

theorem chooses_nil : (Node.oneOf .empty).Chooses [] where
  proper := .oneOf CodeSet.proper_empty
  alike before u behind := by
    rw [matches_oneOf_iff, matches_alt_iff]
    simp [CodeSet.empty, CodeSet.holds, CodeSet.holdsCode, CodeSet.inRanges]

theorem chooses_singleton {n : Node} (h : n.Proper) : n.Chooses [n] where
  proper := h
  alike before u behind := by
    rw [matches_alt_iff]
    simp

theorem chooses_codes (cs : List Char) :
    (ofSet (.ofCodes (cs.map Char.toNat))).Chooses (cs.map fun c => .text [c]) := by
  refine ⟨proper_ofSet CodeSet.proper_ofCodes, (ofSet_alike CodeSet.proper_ofCodes).trans fun before u behind => ?_⟩
  rw [matches_oneOf_iff, matches_alt_iff]
  simp [CodeSet.holds_ofCodes, matches_text_iff, and_comm]

theorem chooses_sets {sets : List CodeSet} (h : ∀ s ∈ sets, s.Proper) :
    (ofSet (.ofRanges (sets.flatMap CodeSet.ranges))).Chooses (sets.map .oneOf) := by
  have hproper := CodeSet.proper_ofSets h
  refine ⟨proper_ofSet hproper, (ofSet_alike hproper).trans fun before u behind => ?_⟩
  rw [matches_oneOf_iff, matches_alt_iff]
  simp only [CodeSet.holds_ofSets h, List.mem_map, exists_exists_and_eq_and, matches_oneOf_iff]
  constructor
  · rintro ⟨c, rfl, s, hs, hc⟩
    exact ⟨s, hs, c, rfl, hc⟩
  · rintro ⟨s, hs, c, rfl, hc⟩
    exact ⟨c, rfl, s, hs, hc⟩

/-- nodes that are united to a set -/
theorem chooses_union {nodes : List Node} {s : CodeSet} (h : ∀ n ∈ nodes, n.Proper) (hs : union? nodes = some s) :
    (ofSet s).Chooses nodes := by
  unfold union? at hs
  rw [Option.or_eq_some_iff] at hs
  simp only [Option.map_eq_some_iff, Option.map_eq_none_iff] at hs
  rcases hs with ⟨codes, hcodes, rfl⟩ | ⟨-, sets, hsets, rfl⟩
  · obtain ⟨cs, rfl, rfl⟩ := exists_of_mapM_eq_some (fun c : Char => Node.text [c]) Char.toNat
      (fun _ _ => exists_of_code?_eq_some) hcodes
    exact chooses_codes cs
  · obtain ⟨sets, rfl, rfl⟩ := exists_of_mapM_eq_some Node.oneOf id (fun _ _ => exists_of_set?_eq_some) hsets
    simp only [List.forall_mem_map, proper_oneOf_iff] at h
    rw [List.map_id]
    exact chooses_sets h

/-- sequences that begin alike: their beginning, and then a choice of what comes behind it -/
theorem chooses_common {start : List Node} {lists : List (List Node)} (hstart : ∀ n ∈ start, n.Proper)
    (h : ∀ parts ∈ lists, start <+: parts) {rest : Node}
    (hrest : rest.Chooses (lists.map fun parts => sequence (parts.drop start.length))) :
    (sequence (start ++ [rest])).Chooses (lists.map .seq) := by
  refine ⟨proper_sequence (List.forall_mem_append.2 ⟨hstart, by simpa using hrest.proper⟩),
    (sequence_alike _).trans fun before u behind => ?_⟩
  have hsplit : ∀ parts ∈ lists, ∀ before u behind, (Node.seq parts).Matches before u behind ↔
      ∃ v w, u = v ++ w ∧ (Node.seq start).Matches before v (w ++ behind) ∧
        (sequence (parts.drop start.length)).Matches (before ++ v) w behind := by
    intro parts hparts before u behind
    obtain ⟨tail, rfl⟩ := h parts hparts
    rw [matches_seq_append_iff, List.drop_left]
    simp only [sequence_alike tail _ _ _]
  rw [matches_seq_append_iff]
  simp only [matches_seq_singleton_iff, hrest.alike _ _ _, matches_alt_iff, List.mem_map, exists_exists_and_eq_and]
  constructor
  · rintro ⟨v, w, rfl, hv, parts, hparts, hw⟩
    exact ⟨parts, hparts, (hsplit parts hparts _ _ _).2 ⟨v, w, rfl, hv, hw⟩⟩
  · rintro ⟨parts, hparts, h⟩
    obtain ⟨v, w, rfl, hv, hw⟩ := (hsplit parts hparts _ _ _).1 h
    exact ⟨v, w, rfl, hv, parts, hparts, hw⟩

/-- a choice is made one level further in each time a common beginning is taken out -/
theorem chooses_choiceWith (fuel : Nat) {nodes : List Node} (h : ∀ n ∈ nodes, n.Proper) :
    (choiceWith fuel nodes).Chooses nodes := by
  induction fuel using Nat.strong_induction_on generalizing nodes with
  | _ fuel ih =>
    have hall : ∀ n ∈ nodes.flatMap branches, n.Proper := by
      intro n hn
      obtain ⟨m, hm, hn⟩ := List.mem_flatMap.1 hn
      exact proper_branches (h m hm) n hn
    suffices hchooses : (choiceWith fuel nodes).Chooses (nodes.flatMap branches) from
      ⟨hchooses.proper, hchooses.alike.trans (flatMap_branches_alike nodes)⟩
    rw [choiceWith.eq_def]
    generalize nodes.flatMap branches = all at hall ⊢
    split
    · exact chooses_nil
    · exact chooses_singleton (hall _ (List.mem_singleton_self _))
    · split
      · rename_i s hs
        exact chooses_union hall hs
      · split
        · rename_i _ _ fuel first others hparts
          obtain ⟨lists, rfl, heq⟩ := exists_of_mapM_eq_some Node.seq id (fun _ _ => exists_of_parts?_eq_some) hparts
          rw [List.map_id] at heq
          subst heq
          split
          · exact chooses_alt hall
          · simp only [List.forall_mem_map, proper_seq_iff] at hall
            have hcommon := foldl_commonStart_prefix first others
            generalize others.foldl commonStart first = start at hcommon
            have hstart : ∀ n ∈ start, n.Proper := fun n hn =>
              hall first List.mem_cons_self n ((hcommon first List.mem_cons_self).mem hn)
            refine chooses_common hstart hcommon (ih fuel (Nat.lt_succ_self fuel) ?_)
            rw [List.forall_mem_map]
            exact fun parts hmem => proper_sequence fun n hn => hall parts hmem n (List.mem_of_mem_drop hn)
        · exact chooses_alt hall

/-- **A choice matches what any of its branches matches.** -/
theorem choice_alike {nodes : List Node} (h : ∀ n ∈ nodes, n.Proper) : (choice nodes).Alike (.alt nodes) :=
  (chooses_choiceWith nodes.length h).alike

theorem proper_choice {nodes : List Node} (h : ∀ n ∈ nodes, n.Proper) : (choice nodes).Proper :=
  (chooses_choiceWith nodes.length h).proper

end Node

end MetricQuery.Pattern
