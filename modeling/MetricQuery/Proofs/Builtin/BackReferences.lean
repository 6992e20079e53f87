/-
Back references and the templates that they become.

In a replacement a backslash with digits behind it stands for the text of a group, and all else for itself; in a template
`${…}` stands for a group and a dollar sign is written twice. A replacement is turned into a template character by
character, and the template is then read on its own, where a dollar sign, a brace and digits that come from different
places must not be taken for one reference.

- `BackReferenced`: what a replacement stands for.
- `BackReferenced.expand_eq`: its template is read as it was put together. The induction is on how the replacement is made
  up, and each part of it begins where a part of the template does.
- `expand_templateOf`: for the groups of a match the template stands for just what the replacement does.
-/
import MetricQuery.Builtin.Alias
import MetricQuery.Proofs.Pattern.GroupNames

namespace MetricQuery.Builtin

open Decimal (digitsValue)
open Pattern (Match Regex expand expandPieces readReference readTemplate)

/-- no digit stands at the start of a text -/
def NoDigit (s : List Char) : Prop :=
  ∀ c ∈ s.head?, c.isDigit = false

theorem noDigit_iff {s : List Char} : NoDigit s ↔ ¬(s.head?.map Char.isDigit).getD false = true := by
  cases s <;> simp [NoDigit]

theorem noDigit_dropWhile (s : List Char) : NoDigit (s.dropWhile Char.isDigit) := by
  intro c hc
  have hhead := List.head?_dropWhile_not Char.isDigit s
  rw [Option.mem_def.1 hc] at hhead
  exact hhead

/-! ## What a replacement stands for -/

/-- what a replacement stands for, where `text` gives the text of each group: a backslash and all the digits behind it
stand for the text of the group with that number, every other character for itself -/
inductive BackReferenced (text : Nat → List Char) : List Char → List Char → Prop
  | nil : BackReferenced text [] []
  | reference {digits r out : List Char} (hne : digits ≠ []) (hdigits : ∀ d ∈ digits, d.isDigit = true) (hall : NoDigit r)
    (h : BackReferenced text r out) : BackReferenced text ('\\' :: (digits ++ r)) (text (digitsValue digits) ++ out)
  | char {c : Char} {r out : List Char} (hc : c = '\\' → NoDigit r) (h : BackReferenced text r out) :
    BackReferenced text (c :: r) (c :: out)

theorem exists_backReferenced (text : Nat → List Char) (replace : List Char) :
    ∃ out, BackReferenced text replace out := by
  induction hlen : replace.length using Nat.strong_induction_on generalizing replace with
  | _ n ih =>
    subst hlen
    cases replace with
    | nil => exact ⟨[], .nil⟩
    | cons c r =>
      by_cases hc : c = '\\' → NoDigit r
      · obtain ⟨out, hout⟩ := ih r.length (Nat.lt_succ_self _) r rfl
        exact ⟨c :: out, .char hc hout⟩
      · obtain ⟨rfl, hr⟩ := Classical.not_imp.1 hc
        have hsplit := List.takeWhile_append_dropWhile (p := Char.isDigit) (l := r)
        have hshorter := (List.dropWhile_sublist Char.isDigit (l := r)).length_le
        obtain ⟨out, hout⟩ := ih _ (Nat.lt_succ_of_le hshorter) (r.dropWhile Char.isDigit) rfl
        have hne : r.takeWhile Char.isDigit ≠ [] := by
          intro hnil
          rw [hnil, List.nil_append] at hsplit
          exact hr (hsplit ▸ noDigit_dropWhile r)
        have hreference := hout.reference hne (List.all_eq_true.1 List.all_takeWhile) (noDigit_dropWhile r)
        rw [hsplit] at hreference
        exact ⟨_, hreference⟩

/-! ## The template of a replacement -/

theorem templateOf_digits {digits : List Char} (h : ∀ d ∈ digits, d.isDigit = true) (read r : List Char) :
    templateOf (some read) (digits ++ r) = templateOf (some (read ++ digits)) r := by
  induction digits generalizing read with
  | nil => simp
  | cons d digits ih =>
    obtain ⟨hd, hdigits⟩ := List.forall_mem_cons.1 h
    rw [List.cons_append, templateOf, if_pos hd, ih hdigits]
    simp

/-- a reference ends where no digit follows -/
theorem templateOf_some {r : List Char} (h : NoDigit r) (digits : List Char) :
    templateOf (some digits) r = '$' :: '{' :: (digits ++ '}' :: templateOf none r) := by
  cases r with
  | nil => simp [templateOf, templateOf.closeReference]
  | cons c r =>
    rw [templateOf, templateOf, h c rfl, if_neg (by decide), templateOf.closeReference]
    simp

theorem templateOf_reference {digits r : List Char} (hne : digits ≠ []) (hdigits : ∀ d ∈ digits, d.isDigit = true)
    (hall : NoDigit r) :
    templateOf none ('\\' :: (digits ++ r)) = '$' :: '{' :: (digits ++ '}' :: templateOf none r) := by
  have hstart : ((digits ++ r).head?.map Char.isDigit).getD false = true := by
    obtain ⟨d, digits, rfl⟩ := List.exists_cons_of_ne_nil hne
    exact hdigits d List.mem_cons_self
  rw [templateOf, templateOf.outside, if_pos ⟨rfl, hstart⟩, templateOf_digits hdigits, List.nil_append,
    templateOf_some hall]

theorem templateOf_dollar (r : List Char) : templateOf none ('$' :: r) = '$' :: '$' :: templateOf none r := by
  rw [templateOf, templateOf.outside, if_neg (by simp), if_pos rfl]

theorem templateOf_char {c : Char} {r : List Char} (hc : c = '\\' → NoDigit r) (hdollar : c ≠ '$') :
    templateOf none (c :: r) = c :: templateOf none r := by
  rw [templateOf, templateOf.outside, if_neg fun h => noDigit_iff.1 (hc h.1) h.2, if_neg hdollar]

/-! ## Reading templates -/

theorem length_readReference_le {s reference rest : List Char} (h : readReference s = some (reference, rest)) :
    rest.length ≤ s.length := by
  unfold readReference at h
  split at h
  · rename_i r
    split at h
    · rename_i c rest' hdrop
      cases h
      have hshorter := (List.dropWhile_sublist (· ≠ '}') (l := r)).length_le
      rw [hdrop] at hshorter
      simp only [List.length_cons] at hshorter ⊢
      omega
    · cases h
  · dsimp only at h
    split_ifs at h
    cases h
    exact (List.drop_sublist _ _).length_le

/-- any fuel that is enough for a template reads it alike -/
theorem readTemplate_fuel {s : List Char} {fuel fuel' : Nat} (h : s.length ≤ fuel) (h' : s.length ≤ fuel') :
    readTemplate fuel s = readTemplate fuel' s := by
  induction fuel generalizing s fuel' with
  | zero =>
    rw [List.length_eq_zero_iff.1 (Nat.le_zero.1 h)]
    cases fuel' <;> rfl
  | succ fuel ih =>
    cases s with
    | nil => cases fuel' <;> rfl
    | cons c r =>
      obtain ⟨fuel', rfl⟩ := Nat.exists_eq_add_of_le' (show 1 ≤ fuel' by rw [List.length_cons] at h'; omega)
      have hrest : ∀ t : List Char, t.length ≤ r.length → readTemplate fuel t = readTemplate fuel' t := by
        intro t ht
        rw [List.length_cons] at h h'
        exact ih (by omega) (by omega)
      unfold readTemplate
      split_ifs
      · split
        · rw [hrest _ (Nat.le_succ _)]
        · split
          · rename_i hread
            rw [hrest _ (length_readReference_le hread)]
          · rw [hrest _ le_rfl]
      · rw [hrest _ le_rfl]

section Expand

variable (group : List Char → List Char)

theorem expand_nil : expand group [] = [] := rfl

/-- what stands in braces behind a dollar sign is one reference, whatever is in it but a closing brace -/
theorem expand_reference {reference : List Char} (h : '}' ∉ reference) (t : List Char) :
    expand group ('$' :: '{' :: (reference ++ '}' :: t)) = group reference ++ expand group t := by
  have hrun : ∀ c ∈ reference, decide (c ≠ '}') = true := fun c hc => decide_eq_true fun heq => h (heq ▸ hc)
  have hread : readReference ('{' :: (reference ++ '}' :: t)) = some (reference, t) := by
    simp only [readReference]
    rw [List.dropWhile_append_of_pos hrun, List.takeWhile_append_of_pos hrun]
    simp
  rw [expand, List.length_cons, readTemplate, if_pos rfl]
  · have hfuel : t.length ≤ ('{' :: (reference ++ '}' :: t)).length := by
      simp only [List.length_cons, List.length_append]
      omega
    simp only [hread]
    rw [readTemplate_fuel hfuel le_rfl]
    rfl
  · rintro r ⟨⟩

theorem expand_dollar (t : List Char) : expand group ('$' :: '$' :: t) = '$' :: expand group t := by
  have hfuel : t.length ≤ ('$' :: t).length := Nat.le_succ _
  rw [expand, List.length_cons, readTemplate, if_pos rfl, readTemplate_fuel hfuel le_rfl]
  rfl

theorem expand_char {c : Char} (h : c ≠ '$') (t : List Char) : expand group (c :: t) = c :: expand group t := by
  rw [expand, List.length_cons]
  unfold readTemplate
  rw [if_neg h]
  rfl

end Expand

/-- **A template is read as it was put together**, if each reference by number has the text of its group. -/
theorem BackReferenced.expand_eq {text : Nat → List Char} {replace out : List Char} (h : BackReferenced text replace out)
    {group : List Char → List Char}
    (hgroup : ∀ digits, digits ≠ [] → (∀ d ∈ digits, d.isDigit = true) → group digits = text (digitsValue digits)) :
    expand group (templateOf none replace) = out := by
  induction h with
  | nil =>
    rw [templateOf, templateOf.closeReference, expand_nil]
  | @reference digits r out hne hdigits hall _ ih =>
    have hbrace : '}' ∉ digits := fun hmem => absurd (hdigits '}' hmem) (by decide)
    calc expand group (templateOf none ('\\' :: (digits ++ r)))
        = expand group ('$' :: '{' :: (digits ++ '}' :: templateOf none r)) := by
          rw [templateOf_reference hne hdigits hall]
      _ = group digits ++ expand group (templateOf none r) := expand_reference group hbrace _
      _ = text (digitsValue digits) ++ out := by rw [hgroup digits hne hdigits, ih]
  | @char c r out hc _ ih =>
    by_cases hdollar : c = '$'
    · rw [hdollar, templateOf_dollar, expand_dollar, ih]
    · rw [templateOf_char hc hdollar, expand_char group hdollar, ih]

/-! ## Groups of a match -/

theorem group?_eq_none {m : Match} {index : Nat} (hindex : index ≠ 0) (h : ∀ mark ∈ m.marks, mark.group ≠ index)
    (s : List Char) : m.group? s index = none := by
  have hmark : m.mark? index false = none := by
    rw [Match.mark?, Option.map_eq_none_iff, List.find?_eq_none]
    intro mark hmem
    simp [h mark hmem]
  rw [Match.group?, if_neg hindex, hmark]

/-- digits are the number of a group, and where there is no such group they stand for nothing -/
theorem groupText_digits {search : String} {regex : Regex} (h : Pattern.compile search = .ok regex) {m : Match}
    (hm : ∀ mark ∈ m.marks, mark.group < 2 ^ 64) (s : List Char) {digits : List Char} (hne : digits ≠ [])
    (hdigits : ∀ d ∈ digits, d.isDigit = true) :
    regex.groupText s m digits = (m.group? s (digitsValue digits)).getD [] := by
  rw [Regex.groupText]
  by_cases hword : digitsValue digits < Nat.pow 2 64
  · rw [if_pos ⟨hne, List.all_eq_true.2 hdigits, hword⟩]
    rfl
  · -- digits that do not fit in a word are taken for a name, and there is neither such a name nor such a group
    have hzero : digitsValue digits ≠ 0 := fun hzero => hword (by rw [hzero]; decide)
    have hnone : ∀ mark ∈ m.marks, mark.group ≠ digitsValue digits := fun mark hmem heq => hword (heq ▸ hm mark hmem)
    rw [if_neg fun hnumber => hword hnumber.2.2, Pattern.lookup_names_digits h hdigits, group?_eq_none hzero hnone]
    rfl

/-- **Back references are rewritten faithfully.** For each pattern, and each match with groups that are numbered by words
of 64 bits, the template of a replacement stands for just one text: the replacement with each backslash and all the digits
behind it replaced by the text of that group, which is empty if there is no such group, and with every other character as
it is. -/
theorem expand_templateOf {search : String} {regex : Regex} (h : Pattern.compile search = .ok regex) {m : Match}
    (hm : ∀ mark ∈ m.marks, mark.group < 2 ^ 64) (s replace out : List Char) :
    expand (regex.groupText s m) (templateOf none replace) = out ↔
      BackReferenced (fun index => (m.group? s index).getD []) replace out := by
  have hgroup : ∀ digits, digits ≠ [] → (∀ d ∈ digits, d.isDigit = true) →
      regex.groupText s m digits = (m.group? s (digitsValue digits)).getD [] :=
    fun digits hne hdigits => groupText_digits h hm s hne hdigits
  constructor
  · intro hout
    obtain ⟨out', h'⟩ := exists_backReferenced (fun index => (m.group? s index).getD []) replace
    rw [h'.expand_eq hgroup] at hout
    exact hout ▸ h'
  · exact fun hout => hout.expand_eq hgroup

/-- dollar signs, braces and backslashes next to references, one of a group that took no part and one of no group -/
theorem expand_templateOf_mixed :
    let tree : Pattern.Tree :=
      ⟨.seq [.text ['a'], .group 1 (.text ['b']), .rep (.group 2 (.text ['c'])) 0 (some 1) true], 2, []⟩
    let m : Match := ⟨1, 3, [⟨1, true, 3⟩, ⟨1, false, 2⟩]⟩
    let replace := "$\\1\x7b2\x7d\\\\2$$1\\x\\99999999999999999999"
    Pattern.compile "a(b)(c)?" = .ok tree.regex ∧ (∀ mark ∈ m.marks, mark.group < 2 ^ 64) ∧
      expand (tree.regex.groupText "xab".toList m) (templateOf none replace.toList) = "$b\x7b2\x7d\\$$1\\x".toList ∧
      BackReferenced (fun index => (m.group? "xab".toList index).getD []) replace.toList
        "$b\x7b2\x7d\\$$1\\x".toList := by
  intro tree m replace
  have hparse : Pattern.parse "a(b)(c)?" = .ok tree := by cbv
  have hcompile : Pattern.compile "a(b)(c)?" = .ok tree.regex :=
    Pattern.compile_eq_ok_iff.2 ⟨tree, hparse, by decide +kernel, rfl⟩
  have hmarks : ∀ mark ∈ m.marks, mark.group < 2 ^ 64 := by decide
  have htemplate : templateOf none replace.toList =
      "$$$\x7b1\x7d\x7b2\x7d\\$\x7b2\x7d$$$$1\\x$\x7b99999999999999999999\x7d".toList := by
    cbv
  have hexpand : expand (tree.regex.groupText "xab".toList m) (templateOf none replace.toList) =
      "$b\x7b2\x7d\\$$1\\x".toList := by
    rw [htemplate]
    decide +kernel
  exact ⟨hcompile, hmarks, hexpand, (expand_templateOf hcompile hmarks _ _ _).1 hexpand⟩

end MetricQuery.Builtin
