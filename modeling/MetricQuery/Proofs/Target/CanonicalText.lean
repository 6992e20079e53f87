/-
Texts in canonical form as arguments.

A `CanonicalText` is a text that is read as an expression which is shown as just that text. As an argument it is kept
as it stands, so a call of such texts is read as the call of what they are, with the texts for the text of its
arguments (`parse_call`). Numbers are canonical as they are written, and so is every name of a reducer in quotes: neither
a word nor a percentile holds a quote or a backslash (`Reducer.not_mem_name`).
-/
import MetricQuery.Proofs.Target.Application
import MetricQuery.Proofs.Target.ArgumentList
import MetricQuery.Proofs.Time.Interval
import MetricQuery.Reducer

namespace MetricQuery

/-! ## Characters of numerals -/

namespace Decimal

/-- a character that no numeral has, as a digit, a sign, a point or an exponent, or in one of its words -/
structure Foreign (c : Char) : Prop where
  digit : c.isDigit = false
  mark : c ∉ ['-', '+', '.', 'e', 'E']
  word : c.toLower ∉ ['i', 'n', 'f', 't', 'y', 'a']

theorem Foreign.readSign {c : Char} (hc : Foreign c) {s : List Char} (h : c ∈ s) : c ∈ (readSign s).2 := by
  have hmark := hc.mark
  unfold Decimal.readSign
  split
  · rcases List.mem_cons.1 h with rfl | h
    · exact absurd (by simp) hmark
    · exact h
  · rcases List.mem_cons.1 h with rfl | h
    · exact absurd (by simp) hmark
    · exact h
  · exact h

theorem Foreign.spanDigits {c : Char} (hc : Foreign c) {s : List Char} (h : c ∈ s) : c ∈ (spanDigits s).2 := by
  rw [← List.takeWhile_append_dropWhile (p := Char.isDigit) (l := s), List.mem_append] at h
  refine h.resolve_left fun htake => ?_
  have hdigit := List.all_eq_true.1 List.all_takeWhile c htake
  rw [hc.digit] at hdigit
  cases hdigit

theorem Foreign.readExponent {c : Char} (hc : Foreign c) {s : List Char} (h : c ∈ s) : readExponent s = none := by
  cases s with
  | nil => cases h
  | cons d r =>
    rw [Decimal.readExponent]
    split_ifs with hd
    · have hr : c ∈ r := by
        refine (List.mem_cons.1 h).resolve_left fun hcd => ?_
        rcases hd with rfl | rfl <;> exact hc.mark (by simp [hcd])
      have hrest : (Decimal.readSign r).2.any (!·.isDigit) = true :=
        List.any_eq_true.2 ⟨c, hc.readSign hr, by simp [hc.digit]⟩
      simp [hrest]
    · rfl

/-- **A text with a foreign character is no numeral.** -/
theorem Foreign.readNumeral {c : Char} (hc : Foreign c) {s : List Char} (h : c ∈ s) : readNumeral s = none := by
  have hbody := hc.readSign h
  rw [Decimal.readNumeral]
  generalize Decimal.readSign s = signed at hbody ⊢
  obtain ⟨negative, body⟩ := signed
  have hlower : c.toLower ∈ body.map Char.toLower := List.mem_map_of_mem hbody
  have hword : ∀ word : List Char, word ⊆ ['i', 'n', 'f', 't', 'y', 'a'] → body.map Char.toLower ≠ word :=
    fun word hsub heq => hc.word (hsub (heq ▸ hlower))
  have hspan := hc.spanDigits hbody
  dsimp only
  rw [if_neg (not_or.2 ⟨hword _ (by simp), hword _ (by simp)⟩), if_neg (hword _ (by simp))]
  generalize Decimal.spanDigits body = span at hspan ⊢
  obtain ⟨whole, r⟩ := span
  cases r with
  | nil => cases hspan
  | cons d r =>
    by_cases hd : d = '.'
    · subst hd
      have hr : c ∈ r := (List.mem_cons.1 hspan).resolve_left fun hdot => hc.mark (by simp [hdot])
      simp [hc.readExponent (hc.spanDigits hr)]
    · simp [hd, hc.readExponent hspan]

end Decimal

/-! ## Names of reducers -/

namespace Reducer

/-- a reducer is named by one of the words, or as a percentile -/
theorem ofName?_cases {f : String} {r : Reducer} (h : ofName? f = some r) :
    f ∈ names ∨ ∃ share p, f.toList = 'p' :: share ∧ Decimal.readFloat share = some p := by
  by_cases hf : f ∈ names
  · exact Or.inl hf
  · right
    unfold ofName? at h
    split at h
    case h_16 =>
      split at h
      · rename_i share hshare
        obtain ⟨p, hp, -⟩ := Option.bind_eq_some_iff.1 h
        exact ⟨share, p, hshare, hp⟩
      · cases h
    all_goals exact absurd (by decide) hf

theorem exists_of_mem_names : ∀ f ∈ names, ∃ r, ofName? f = some r := by simp [names, ofName?]

theorem isAlpha_of_mem_names : ∀ f ∈ names, ∀ c ∈ f.toList, c.isAlpha = true := by simp [names]

/-- **No name of a reducer holds a character that is neither a letter nor in a numeral.** -/
theorem not_mem_name {c : Char} (hc : Decimal.Foreign c) (hletter : c.isAlpha = false) {f : String} {r : Reducer}
    (h : ofName? f = some r) : c ∉ f.toList := by
  intro hmem
  rcases ofName?_cases h with hf | ⟨share, p, hshare, hp⟩
  · rw [isAlpha_of_mem_names f hf c hmem] at hletter
    cases hletter
  · rw [hshare] at hmem
    have hin : c ∈ share := by
      refine (List.mem_cons.1 hmem).resolve_left ?_
      rintro rfl
      cases hletter
    rw [Decimal.readFloat, hc.readNumeral hin] at hp
    cases hp

end Reducer

namespace Target

open Text

/-! ## Texts in canonical form -/

/-- a text that is read as an expression which is shown as that text -/
structure CanonicalText where
  text : String
  expr : Expr
  parse : parse text = .ok expr
  render : expr.render = text

/-- a word of letters is read as a name in front of any arguments -/
theorem heads_of_letters {n : String} (hne : n ≠ "") (h : ∀ c ∈ n.toList, c.isAlpha = true) : Heads n.toList := by
  have hname : ∀ c ∈ n.toList, isNameChar c = true := fun c hc => by
    simp [isNameChar, Char.isAlphanum, h c hc]
  have hscans : ∀ (s t : List Char), (∀ c ∈ s, isNameChar c = true) → Scans 0 (s ++ '(' :: t) s ('(' :: t) := by
    intro s t hs
    induction s with
    | nil => exact .stop rfl fun r hr => by cases hr
    | cons c s ih => exact .char (hs c List.mem_cons_self) (ih fun d hd => hs d (List.mem_cons_of_mem c hd))
  obtain ⟨c, r, hn⟩ := List.exists_cons_of_ne_nil (mt String.toList_eq_nil_iff.1 hne)
  have hc : c.isAlpha = true := h c (by rw [hn]; exact List.mem_cons_self)
  refine fun t => ⟨c, r ++ '(' :: t, ?_, ?_, ?_, ?_, ?_⟩
  · rw [skipSpaces_callText hname, hn]
    rfl
  · refine ⟨?_, ?_, ?_, ?_⟩ <;> rintro rfl <;> cases hc
  · intro hstart
    exfalso
    rcases hstart with hdigit | rfl | rfl
    · rw [Time.isAlpha_eq_false_of_isDigit hdigit] at hc
      cases hc
    · cases hc
    · cases hc
  · have := hscans n.toList t hname
    rw [hn] at this ⊢
    exact this
  · simp [hn]

/-- a text without the quote or a backslash is read up to the quote -/
theorem scanString_plain {q : Char} {v : List Char} (hquote : q ∉ v) (hbackslash : '\\' ∉ v) (k : List Char) :
    scanString q (v ++ q :: k) = some (v, k) := by
  induction v with
  | nil => exact scanString_quote q k
  | cons c v ih =>
    obtain ⟨hc, hv⟩ := not_or.1 (mt List.mem_cons.2 hquote)
    obtain ⟨hc', hv'⟩ := not_or.1 (mt List.mem_cons.2 hbackslash)
    have hscan := ih hv hv'
    obtain ⟨d, r, hd⟩ := List.exists_cons_of_ne_nil (show v ++ q :: k ≠ [] by simp)
    rw [hd] at hscan
    rw [List.cons_append, hd, scanString, if_neg (Ne.symm hc), if_neg fun h => hc' h.1.symm, hscan]
    rfl

theorem escapeQuote_plain {q : Char} {v : List Char} (h : q ∉ v) : escapeQuote q v = v := by
  induction v with
  | nil => rfl
  | cons c v ih =>
    obtain ⟨hc, hv⟩ := not_or.1 (mt List.mem_cons.2 h)
    rw [escapeQuote, if_neg (Ne.symm hc), ih hv]

namespace CanonicalText

/-- what a text is as an argument of a call -/
def value (x : CanonicalText) : Expr :=
  positionalValue x.expr

def toArg (x : CanonicalText) : ArgText where
  text := x.text
  arg := .positional x.value x.text
  reads _ hk := by
    obtain ⟨p, hread⟩ := reads_of_parse_own x.parse x.render
    exact hread.own_arg x.render hk

/-- where a text stands for series as an argument, it does so as what it is by itself -/
theorem value_of_isSeries {x : CanonicalText} (h : x.value.isSeries = true) : x.value = x.expr := by
  obtain ⟨text, e, hparse, hrender⟩ := x
  cases e with
  | name path =>
    change (positionalValue (.name path)).isSeries = true at h
    change positionalValue (.name path) = .name path
    by_cases htruth : isTruthWord path = true
    · simp [positionalValue, htruth, Expr.isSeries] at h
    · simp [positionalValue, htruth]
  | _ => rfl

/-- **A call of canonical texts is read as the call of what they are as arguments**, and keeps their texts. -/
theorem parse_call {n : String} (hn : Heads n.toList) {l : List CanonicalText} (hl : l ≠ []) :
    Target.parse (callText n (",".intercalate (l.map text))) =
      .ok (.call n (l.map value) [] (",".intercalate (l.map text))) := by
  have hargs : ((l.map toArg).map ArgText.arg).flatMap Arg.args = l.map value := by
    rw [List.flatMap_map, List.flatMap_map]
    exact List.map_eq_flatMap.symm
  have hpairs : ((l.map toArg).map ArgText.arg).flatMap Arg.pairs = [] := by
    rw [List.flatMap_map, List.flatMap_map]
    exact List.flatMap_eq_nil_iff.2 fun _ _ => rfl
  have hpieces : ((l.map toArg).map ArgText.arg).map Arg.piece = l.map text := by simp [toArg, Arg.piece]
  have htexts : (l.map toArg).map ArgText.text = l.map text := by simp [toArg]
  have hnew : NewKeys (l.map toArg) ({} : ArgList).named := by
    rw [newKeys_iff, keysOf, ← List.flatMap_map, hpairs]
    simp
  have hcall := hn.reads_call (reads_texts (by simpa using hl) hnew [])
  rw [htexts, ← toList_callText, String.ofList_toList, ArgList.pushAll_eq, hargs, hpairs, hpieces] at hcall
  exact parse_of_reads (.piped hcall (Reads.stop_of_stops trivial))

/-- a number, as it is written -/
def number {c : Char} {v : List Char} {x : Float} (hc : StartsNumber c) (hv : ∀ d ∈ c :: v, isNumberChar d = true)
    (hx : Decimal.readFloat (c :: v) = some x) : CanonicalText where
  text := String.ofList (c :: v)
  expr := .number x (String.ofList (c :: v))
  parse := by
    have hspace : isSpace c = false := by
      refine Bool.eq_false_iff.2 fun hspace => ?_
      simp only [isSpace, Bool.or_eq_true, beq_iff_eq] at hspace
      rcases hspace with ((rfl | rfl) | rfl) | rfl <;> cases hc.isNameChar
    have hread := readNumber_run hv (b := []) rfl
    rw [hx, List.append_nil] at hread
    refine parse_of_reads (.piped (.number ?_ hc hread) (Reads.stop_of_stops trivial))
    rw [String.toList_ofList, skipSpaces_cons hspace]
  render := rfl

/-- a text in quotes, if neither a quote nor a backslash is in it -/
def quoted (f : String) (hquote : '\'' ∉ f.toList) (hbackslash : '\\' ∉ f.toList) : CanonicalText where
  text := s!"'{f}'"
  expr := .string f .single
  parse := by
    have htext : s!"'{f}'".toList = '\'' :: (f.toList ++ ['\'']) := by simp [toString]
    have hread : Reads (.operand (.string (String.ofList f.toList) .single)) s!"'{f}'".toList [] := by
      rw [htext]
      exact .string .single (skipSpaces_cons rfl _) (scanString_plain hquote hbackslash [])
    rw [String.ofList_toList] at hread
    exact parse_of_reads (.piped hread (Reads.stop_of_stops trivial))
  render := by
    rw [Expr.render, renderString, Quote.char, escapeQuote_plain hquote, ← String.toList_inj]
    simp [toString]

/-- the name of a reducer in quotes -/
def quotedReducer {f : String} {r : Reducer} (h : Reducer.ofName? f = some r) : CanonicalText :=
  have hquote : Decimal.Foreign '\'' := ⟨rfl, by decide, by decide⟩
  have hbackslash : Decimal.Foreign '\\' := ⟨rfl, by decide, by decide⟩
  quoted f (Reducer.not_mem_name hquote rfl h) (Reducer.not_mem_name hbackslash rfl h)

@[simp] theorem text_quotedReducer {f : String} {r : Reducer} (h : Reducer.ofName? f = some r) :
    (quotedReducer h).text = s!"'{f}'" := rfl

end CanonicalText

end Target

end MetricQuery
