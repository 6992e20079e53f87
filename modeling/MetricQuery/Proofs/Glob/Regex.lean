/-
Globs and their regular expressions match the same names.

Part by part, the tree by which a glob is measured matches the texts that the part takes (`Part.Means`). Between the two
ends of a text the whole tree occurs in a name only as the whole of it, and so exactly if the glob takes the name
(`regexNode_occurs_iff`). With what the text of a glob is read as, both as a glob and as the regular expression that it
becomes, this is the language of the text (`regexText_language`).
-/
import MetricQuery.Proofs.Glob.Translation

namespace MetricQuery.Glob

open Pattern (Node)
open Unicode (CodeSet)

/-! ## Parts -/

theorem matches_notPoint_iff {before u behind : List Char} :
    notPoint.Matches before u behind ↔ ∃ x, u = [x] ∧ x ≠ '.' := by
  have hnode : notPoint = .oneOf ⟨[(0, 0x2D), (0x2F, 0x10FFFF)]⟩ := rfl
  have hholds : ∀ x : Char, CodeSet.holds ⟨[(0, 0x2D), (0x2F, 0x10FFFF)]⟩ x = true ↔ x ≠ '.' := by
    intro x
    have hlast : x.toNat ≤ 0x10FFFF := by
      have hvalid := CodeSet.toNat_isValidChar x
      unfold Nat.isValidChar at hvalid
      omega
    rw [ne_eq, ← Char.toNat_inj, show '.'.toNat = 0x2E from rfl]
    simp only [CodeSet.holds, CodeSet.holdsCode, CodeSet.inRanges]
    split_ifs <;> simp <;> omega
  rw [hnode, Node.matches_oneOf_iff]
  simp only [hholds]

/-- the regular expression of a part matches what the part takes, wherever it stands -/
structure Part.Means (p : Part) : Prop where
  proper : p.node.Proper
  matches_iff : ∀ before u behind, p.node.Matches before u behind ↔ Takes [p] u

theorem matches_partNodes_iff {ps : List Part} (h : ∀ p ∈ ps, p.Means) {before u behind : List Char} :
    (Node.seq (partNodes ps)).Matches before u behind ↔ Takes ps u := by
  induction ps generalizing before u with
  | nil => exact Node.matches_seq_nil_iff.trans takes_nil_iff.symm
  | cons p ps ih =>
    obtain ⟨hp, hps⟩ := List.forall_mem_cons.1 h
    rw [partNodes, Node.matches_seq_cons_iff, takes_cons_iff]
    simp only [hp.matches_iff, ih hps]

theorem proper_partNodes {ps : List Part} (h : ∀ p ∈ ps, p.Means) : ∀ n ∈ partNodes ps, n.Proper := by
  rw [partNodes_eq, List.forall_mem_map]
  exact fun p hp => (h p hp).proper

theorem means_char (c : Char) : (Part.char c).Means where
  proper := .text [c]
  matches_iff before u behind := by
    rw [Part.node, Node.matches_text_iff, takes_char_iff]
    simp

theorem means_anyChar : Part.anyChar.Means where
  proper := .oneOf ⟨by decide, by decide⟩
  matches_iff before u behind := by
    rw [Part.node, matches_notPoint_iff, takes_anyChar_iff]
    simp

theorem means_anyRun : Part.anyRun.Means where
  proper := .rep 0 none true means_anyChar.proper
  matches_iff before u behind := by
    have hnode : Part.anyRun.node = .rep notPoint 0 none true := rfl
    rw [hnode, Node.matches_star_iff fun _ _ _ => matches_notPoint_iff, takes_anyRun_iff]

theorem means_group {alternatives : List (List Part)} (h : ∀ ps ∈ alternatives, ∀ p ∈ ps, p.Means) :
    (Part.group alternatives).Means := by
  have hproper : ∀ n ∈ alternativeNodes alternatives, n.Proper := by
    rw [alternativeNodes_eq, List.forall_mem_map]
    exact fun ps hps => Node.proper_sequence (proper_partNodes (h ps hps))
  refine ⟨Node.proper_choice hproper, fun before u behind => ?_⟩
  rw [Part.node, Node.choice_alike hproper, Node.matches_alt_iff, takes_group_iff, alternativeNodes_eq]
  simp only [List.mem_map, exists_exists_and_eq_and]
  refine exists_congr fun ps => and_congr_right fun hps => ?_
  rw [Node.sequence_alike, matches_partNodes_iff (h ps hps)]

/-- text without classes reads as parts whose regular expressions match what they take -/
theorem Reads.means {inside : Bool} {s : List Char} {ps : List Part} (h : Reads inside s ps) : ∀ p ∈ ps, p.Means := by
  induction h with
  | nil => nofun
  | literal _ _ ih => exact List.forall_mem_cons.2 ⟨means_char _, ih⟩
  | anyChar _ ih => exact List.forall_mem_cons.2 ⟨means_anyChar, ih⟩
  | anyRun _ ih => exact List.forall_mem_cons.2 ⟨means_anyRun, ih⟩
  | group _ _ _ ihs ih =>
    refine List.forall_mem_cons.2 ⟨means_group fun ps hps => ?_, ih⟩
    obtain ⟨a, ha, rfl⟩ := List.mem_map.1 hps
    exact ihs a ha

/-! ## Whole globs -/

/-- the ends of a text on either side make a match the whole of it -/
theorem matches_regexNode_iff {g : Glob} (h : ∀ p ∈ g, p.Means) {before u behind : List Char} :
    (regexNode g).Matches before u behind ↔ before = [] ∧ behind = [] ∧ Takes g u := by
  rw [regexNode, Node.sequence_alike, List.cons_append, Node.matches_seq_cons_iff]
  have hstart : ∀ place : Pattern.Place, Pattern.Assertion.textStart.holds place = true ↔ place.prev = none :=
    fun place => Option.isNone_iff_eq_none
  have hend : ∀ place : Pattern.Place, Pattern.Assertion.textEnd.holds place = true ↔ place.rest.head? = none :=
    fun place => Option.isNone_iff_eq_none
  simp only [Node.matches_assert_iff, Node.matches_seq_append_iff, Node.matches_seq_singleton_iff,
    matches_partNodes_iff h, hstart, hend, List.getLast?_eq_none_iff, List.head?_eq_none_iff]
  constructor
  · rintro ⟨_, _, rfl, ⟨rfl, rfl⟩, v, _, rfl, hv, rfl, rfl⟩
    exact ⟨rfl, rfl, by simpa using hv⟩
  · rintro ⟨rfl, rfl, hu⟩
    exact ⟨[], u, rfl, ⟨rfl, rfl⟩, u, [], by simp, hu, rfl, rfl⟩

/-- **The regular expression of a glob occurs in the names that the glob takes.** -/
theorem regexNode_occurs_iff {g : Glob} (h : ∀ p ∈ g, p.Means) {s : List Char} :
    (regexNode g).Occurs s ↔ Takes g s := by
  unfold Node.Occurs
  simp only [matches_regexNode_iff h]
  constructor
  · rintro ⟨_, u, _, rfl, rfl, rfl, hu⟩
    simpa using hu
  · intro hs
    exact ⟨[], s, [], by simp, rfl, rfl, hs⟩

/-- **A glob and the regular expression that its text becomes match the language of the text.** Text without classes,
within the limits, is a glob, and becomes a regular expression, exactly if every brace that opens is closed by one behind
it; and then both match exactly the names for which the text stands as a whole. -/
theorem regexText_language {text : String} (hset : '[' ∉ text.toList)
    (hlimits : ∀ g, parse text = some g → fits g = true) :
    ((∃ regex, Pattern.compile (regexText text) = .ok regex) ↔ Matched text.toList) ∧
      (∀ regex, Pattern.compile (regexText text) = .ok regex →
        ∃ tree, Pattern.parse (regexText text) = .ok tree ∧ regex = tree.regex ∧
          ∀ name : String, tree.root.Occurs name.toList ↔ Stands false text.toList name.toList) ∧
      ((compile text).isSome = true ↔ Matched text.toList) ∧
      ∀ g, compile text = some g → ∀ name : String, accepts g name = true ↔ Stands false text.toList name.toList := by
  obtain ⟨hcompiles, haccepts⟩ := compile_language hset hlimits
  refine ⟨(compile_regexText_iff hset).trans hcompiles, fun regex hregex => ?_, hcompiles, haccepts⟩
  obtain ⟨tree, htree, -, heq⟩ := Pattern.compile_eq_ok_iff.1 hregex
  refine ⟨tree, htree, heq, fun name => ?_⟩
  have hglob : (compile text).isSome = true := (compile_regexText_iff hset).1 ⟨regex, hregex⟩
  obtain ⟨g, hg⟩ := Option.isSome_iff_exists.1 ((parse_isSome_iff_matched hset).2 (hcompiles.1 hglob))
  have hreads := (parse_eq_some_iff hset).1 hg
  have hroot : tree.root = regexNode g := by
    rw [parse_regexText hreads] at htree
    split at htree
    · cases htree
      rfl
    · cases htree
  rw [hroot, regexNode_occurs_iff hreads.means, takes_iff_stands hset hg]

/-- groups within each other with an empty alternative, and a comma outside them -/
theorem regexText_language_nested :
    let text := "a.{b,c{1,}},x"
    regexText text = "^a\\.(?:b|c(?:1|)),x$" ∧ Matched text.toList ∧
      (∃ regex, Pattern.compile (regexText text) = .ok regex) ∧ Stands false text.toList "a.c1,x".toList ∧
      Stands false text.toList "a.c,x".toList ∧ ¬Stands false text.toList "a.1,x".toList := by
  intro text
  have hparse : parse text = some [.char 'a', .char '.', .group [[.char 'b'], [.char 'c', .group [[.char '1'], []]]],
      .char ',', .char 'x'] := by cbv
  have hlimits : ∀ g, parse text = some g → fits g = true := by
    intro g hg
    cases hparse.symm.trans hg
    decide +kernel
  obtain ⟨hregex, -, hmatched, hlanguage⟩ := regexText_language (show '[' ∉ text.toList by decide) hlimits
  have hcompile : compile text = parse text := by
    rw [compile, hparse, Option.filter_some, if_pos (hlimits _ hparse)]
  rw [hparse] at hcompile
  have hclosed : Matched text.toList := hmatched.1 (by rw [hcompile]; rfl)
  refine ⟨by decide +kernel, hclosed, hregex.2 hclosed, (hlanguage _ hcompile _).1 (by decide +kernel),
    (hlanguage _ hcompile _).1 (by decide +kernel), fun h => ?_⟩
  exact absurd ((hlanguage _ hcompile _).2 h) (by decide +kernel)

end MetricQuery.Glob
