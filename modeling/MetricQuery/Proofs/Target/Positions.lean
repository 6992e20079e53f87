/-
What stands at the position of a fault.

A fault is reported at a byte of the text. All the readers have of it is the text that was left, and that is always the
rest of the whole text from some character on: every place that reading comes to is inside the text
(`within_of_steps`), and what fails there fails at a rest of it that shows what the fault says (`Fails.fits`). So the
position is a place between two characters, and the text from there on fits the error (`parse_error_fits`).
-/
import MetricQuery.Proofs.Target.CallText
import MetricQuery.Proofs.Target.Faults

namespace MetricQuery.Target

open Text

/-! ## Byte positions -/

theorem byteLength_eq (s : List Char) : byteLength s = (String.ofList s).utf8ByteSize := by
  have hfold (n : Nat) : s.foldl (fun n c => n + c.utf8Size) n = n + String.utf8Len s := by
    induction s generalizing n with
    | nil => rfl
    | cons c s ih =>
      rw [List.foldl_cons, ih, String.utf8Len_cons]
      omega
  rw [byteLength, hfold, String.utf8ByteSize_ofList, Nat.zero_add]

theorem byteLength_append (s t : List Char) : byteLength (s ++ t) = byteLength s + byteLength t := by
  rw [byteLength_eq, byteLength_eq, byteLength_eq, String.ofList_append, String.utf8ByteSize_append]

/-- a failure is located behind what stands in front of the text left -/
theorem Failure.position_locate (front : List Char) (f : Failure) :
    (f.locate (front ++ f.rest)).position = byteLength front := by
  have hlen : byteLength (front ++ f.rest) - byteLength f.rest = byteLength front := by
    rw [byteLength_append]
    omega
  unfold Failure.locate
  rw [hlen]
  split <;> rfl

/-! ## Rests of a text -/

theorem skipSpaces_suffix (s : List Char) : skipSpaces s <:+ s :=
  List.dropWhile_suffix isSpace

/-- what is behind a character that a text starts with, spaces apart -/
theorem suffix_of_skipSpaces {s r : List Char} {c : Char} (h : skipSpaces s = c :: r) : r <:+ s :=
  (List.suffix_cons c r).trans (h ▸ skipSpaces_suffix s)

theorem Bare.suffix {s r name rest : List Char} {c : Char} (h : Bare s c r name rest) : rest <:+ s := by
  obtain ⟨v, hv, -⟩ := h.replace
  exact ⟨v, hv.symm⟩

theorem Reads.suffix {i : Item} {s a : List Char} (h : Reads i s a) : a <:+ s := by
  obtain ⟨v, hv, -⟩ := h.replace
  exact ⟨v, hv.symm⟩

/-- the braces left open by a name were open before or are braces of the text -/
theorem mem_opened {opened : List (List Char)} {s rest : List Char} (h : rest ∈ (scanName opened s).opened) :
    rest ∈ opened ∨ rest <:+ s ∧ rest.head? = some '{' := by
  have hcons {c : Char} {r : List Char} {opened : List (List Char)}
      (h : rest ∈ opened ∨ rest <:+ r ∧ rest.head? = some '{') :
      rest ∈ opened ∨ rest <:+ c :: r ∧ rest.head? = some '{' :=
    h.imp_right fun ⟨hsuffix, hbrace⟩ => ⟨hsuffix.trans (List.suffix_cons c r), hbrace⟩
  fun_induction scanName opened s with
  | case1 opened => exact Or.inl h
  | case2 opened => exact Or.inl h
  | case3 opened c r ih => exact hcons (hcons (ih h))
  | case4 opened c r _ _ _ ih => exact hcons (ih h)
  | case5 opened r _ _ _ ih =>
    rcases ih h with hmem | hrest
    · rcases List.mem_cons.1 hmem with rfl | hmem
      · exact Or.inr ⟨List.suffix_rfl, rfl⟩
      · exact Or.inl hmem
    · exact hcons (Or.inr hrest)
  | case6 opened c r _ _ _ _ _ ih =>
    rcases ih h with hmem | hrest
    · exact Or.inl (List.mem_of_mem_tail hmem)
    · exact hcons (Or.inr hrest)
  | case7 opened c r _ _ _ _ _ _ ih => exact hcons (ih h)
  | case8 opened c r _ _ _ _ _ _ _ ih => exact hcons (ih h)
  | case9 opened c r => exact Or.inl h

/-! ## Places inside a text -/

/-- what is to be read is a rest of the text, and so is what starts with the parenthesis to be closed -/
def Place.Within (text : List Char) : Place → Prop
  | .expr s | .pipes s | .operand s | .arg _ s => s <:+ text
  | .args opening _ s => s <:+ text ∧ opening <:+ text ∧ opening.head? = some '('

theorem Step.within {text : List Char} {p q : Place} (h : Step p q) (hp : p.Within text) : q.Within text := by
  cases h with
  | operand => exact hp
  | pipes he => exact he.suffix.trans hp
  | bar hs => exact (suffix_of_skipSpaces hs).trans hp
  | again hs hc => exact (hc.suffix.trans (suffix_of_skipSpaces hs)).trans hp
  | args h hopen =>
    have hopening := h.suffix.trans hp
    exact ⟨(List.suffix_cons _ _).trans hopening, hopening, rfl⟩
  | arg hs => exact hp.1
  | next h hs => exact ⟨((suffix_of_skipSpaces hs).trans h.suffix).trans hp.1, hp.2⟩
  | key => exact hp
  | value hkey => exact ((List.suffix_cons _ _).trans hkey.suffix).trans hp

/-- **Reading stays inside the text.** -/
theorem within_of_steps {text : List Char} {p : Place} (h : Relation.ReflTransGen Step (.expr text) p) :
    p.Within text := by
  induction h with
  | refl => exact List.suffix_rfl
  | tail _ hstep ih => exact hstep.within ih

/-! ## What stands there -/

/-- a key that reading the text comes to: it is the name scanned from the first character of an argument on, and `=` is
behind it -/
structure KeyAt (text rest : List Char) (key : String) : Prop where
  argument : ∃ acc s, Relation.ReflTransGen Step (.expr text) (.arg acc s) ∧ skipSpaces s = rest
  scanned : ∃ behind v, readName rest = .ok (key.toList, behind) ∧ skipSpaces behind = '=' :: v

/-- what the error says is what the text shows from its position on -/
def ReadError.Fits (text rest : List Char) : ReadError → Prop
  | .missingExpr _ => Stops rest
  | .unexpectedCharacter _ c | .missingComma _ c => rest.head? = some c
  | .missingQuote _ q => rest.head? = some q.char
  | .missingParen _ => rest.head? = some '('
  | .unmatchedBrace _ => rest.head? = some '{'
  | .badNamedArgument _ key | .duplicateNamedArgument _ key => KeyAt text rest key
  | .pipeTarget _ => rest.head? = some '|'

/-- the key of an argument is the name scanned from its first character on -/
theorem Reads.scanned_key {key : String} {b : Bool} {s v : List Char} (h : Reads (.piped (.name key) b) s ('=' :: v)) :
    ∃ behind v, readName (skipSpaces s) = .ok (key.toList, behind) ∧ skipSpaces behind = '=' :: v := by
  rcases h.piped_cases with ⟨-, mid, hname, hmid⟩ | ⟨-, c, hc⟩
  · cases hname with
    | number hs hc h =>
      obtain ⟨x, w, hnumber, -⟩ := readNumber_start hc h
      cases hnumber
    | name h hparen =>
      refine ⟨mid, v, ?_, hmid.symm⟩
      rw [h.starts, String.toList_ofList]
      exact readName_eq_ok.2 h.scans
  · cases hc

theorem Fails.fits {text : List Char} {p : Place} {f : Failure} (h : Fails p f)
    (hsteps : Relation.ReflTransGen Step (.expr text) p) : f.rest <:+ text ∧ (f.locate text).Fits text f.rest := by
  have hp := within_of_steps hsteps
  have hskip {s t : List Char} (hs : skipSpaces s = t) (h : s <:+ text) : t <:+ text :=
    (hs ▸ skipSpaces_suffix s).trans h
  cases h with
  | missingExpr hs h => exact ⟨hskip hs hp, h⟩
  | missingQuote q hs h => exact ⟨hskip hs hp, rfl⟩
  | unmatchedBrace h hopen =>
    obtain hnil | ⟨hrest, hbrace⟩ := mem_opened (List.mem_of_getLast? hopen)
    · cases hnil
    · exact ⟨hrest.trans (hskip h.starts hp), hbrace⟩
  | noName h hname => exact ⟨hskip h.starts hp, rfl⟩
  | pipeTarget hs h he => exact ⟨hskip hs hp, rfl⟩
  | badNamedArgument hkey hvalue hv => exact ⟨hskip rfl hp, ⟨_, _, hsteps, rfl⟩, hkey.scanned_key⟩
  | duplicateNamedArgument hkey hvalue hv hold => exact ⟨hskip rfl hp, ⟨_, _, hsteps, rfl⟩, hkey.scanned_key⟩
  | noArgument hs => exact ⟨hp.2.1, hp.2.2⟩
  | unclosed h hs => exact ⟨hp.2.1, hp.2.2⟩
  | missingComma h hs hc => exact ⟨hskip hs (h.suffix.trans hp.1), rfl⟩
  | unexpected h hs hc hstart => exact ⟨hskip hs (h.suffix.trans hp.1), rfl⟩

/-! ## Whole texts -/

/-- a text is no target because reading it fails, or because of what is left behind an expression -/
theorem failure_of_parse {text : String} {e : ReadError} (h : parse text = .error e) :
    ∃ f : Failure, e = f.locate text.toList ∧ (FailsFrom (.expr text.toList) f ∨
      ∃ c r, c :: r <:+ text.toList ∧ f = ⟨c :: r, .unexpected⟩) := by
  unfold parse at h
  split at h
  · rename_i f hread
    cases h
    exact ⟨f, rfl, Or.inl (failsFrom_of_readExpr hread)⟩
  · rename_i e' rest hread
    obtain ⟨p, hreads⟩ := reads_of_readExpr hread
    split at h
    · cases h
    · rename_i hne
      cases h
      obtain ⟨c, r, hc⟩ := List.exists_cons_of_ne_nil hne
      have hsuffix : c :: r <:+ rest := hc ▸ List.dropWhile_suffix isBlank
      exact ⟨_, rfl, Or.inr ⟨c, r, hsuffix.trans hreads.suffix, by rw [hc]⟩⟩

/-- **A fault is where its error says.** The position is one between two characters of the text, in bytes, and what
stands there is what the error speaks of. -/
theorem parse_error_fits {text : String} {e : ReadError} (h : parse text = .error e) :
    e.position ≤ text.utf8ByteSize ∧ String.Pos.Raw.IsValid text ⟨e.position⟩ ∧
      ∃ front rest : String, text = front ++ rest ∧ front.utf8ByteSize = e.position ∧
        e.Fits text.toList rest.toList := by
  obtain ⟨f, rfl, hf⟩ := failure_of_parse h
  have hfits : f.rest <:+ text.toList ∧ (f.locate text.toList).Fits text.toList f.rest := by
    rcases hf with ⟨p, hsteps, hfails⟩ | ⟨c, r, hrest, rfl⟩
    · exact hfails.fits hsteps
    · exact ⟨hrest, rfl⟩
  obtain ⟨⟨front, hfront⟩, hfits⟩ := hfits
  have htext : text = String.ofList front ++ String.ofList f.rest := by
    rw [← String.toList_inj, ← hfront]
    simp
  have hposition : (f.locate text.toList).position = (String.ofList front).utf8ByteSize := by
    rw [← hfront, f.position_locate, byteLength_eq]
  have hvalid : String.Pos.Raw.IsValid text ⟨(f.locate text.toList).position⟩ := by
    rw [String.Pos.Raw.isValid_iff_exists_append]
    exact ⟨_, _, htext, by rw [hposition]; rfl⟩
  exact ⟨hvalid.le_rawEndPos, hvalid, _, _, htext, hposition.symm, by rwa [String.toList_ofList]⟩

/-- the key of a call stands behind two characters, one of two bytes -/
theorem parse_error_fits_key :
    parse "f('é', k=g(y))" = .error (.badNamedArgument 8 "k") ∧ 8 ≤ "f('é', k=g(y))".utf8ByteSize ∧
      String.Pos.Raw.IsValid "f('é', k=g(y))" ⟨8⟩ ∧
        ∃ front rest : String, "f('é', k=g(y))" = front ++ rest ∧ front.utf8ByteSize = 8 ∧
          (ReadError.badNamedArgument 8 "k").Fits "f('é', k=g(y))".toList rest.toList := by
  have h : parse "f('é', k=g(y))" = .error (.badNamedArgument 8 "k") := by cbv
  exact ⟨h, parse_error_fits h⟩

end MetricQuery.Target
