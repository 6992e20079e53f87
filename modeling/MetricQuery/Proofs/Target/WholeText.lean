/-
Texts read to their end.

`parsePart` leaves what it does not read of a text, `parse` wants nothing but white space there. `parsePart_eq_ok` and
`parse_eq_ok` say in terms of the grammar what the two read. What is left starts with neither a space nor a bar
(`Reads.at_rest`), and what was taken is a target of its own: in front of the end of a text it is read as it was in
front of the rest (`parse_taken`).
-/
import MetricQuery.Proofs.Target.Context

namespace MetricQuery.Target

open Text

/-- one expression is read from the start of a text if the grammar reads it -/
theorem parsePart_eq_ok {text rest : String} {e : Expr} :
    parsePart text = .ok (e, rest) ↔ ∃ p, Reads (.piped e p) text.toList rest.toList := by
  constructor
  · intro h
    unfold parsePart at h
    split at h
    · rename_i e' rest' hread
      cases h
      rw [String.toList_ofList]
      exact reads_of_readExpr hread
    · cases h
  · rintro ⟨p, hreads⟩
    rw [parsePart, readExpr_of_reads hreads]
    simp only [String.ofList_toList]

/-- a text is a target if an expression is read from it that leaves nothing but white space -/
theorem parse_eq_ok {text : String} {e : Expr} :
    parse text = .ok e ↔ ∃ p rest, Reads (.piped e p) text.toList rest ∧ trimStart rest = [] := by
  constructor
  · intro h
    unfold parse at h
    split at h
    · cases h
    · rename_i e' rest hread
      obtain ⟨p, hreads⟩ := reads_of_readExpr hread
      split at h
      · rename_i htrim
        cases h
        exact ⟨p, rest, hreads, htrim⟩
      · cases h
  · rintro ⟨p, rest, hreads, htrim⟩
    rw [parse, readExpr_of_reads hreads]
    simp only [htrim]

theorem parse_of_reads {text : String} {e : Expr} {p : Bool} (h : Reads (.piped e p) text.toList []) :
    parse text = .ok e :=
  parse_eq_ok.2 ⟨p, [], h, rfl⟩

/-- no white space is left behind a text that ends in another character -/
theorem eq_nil_of_trimStart {s v rest : List Char} {c : Char} (h : s ++ [c] = v ++ rest) (hc : isBlank c = false)
    (htrim : trimStart rest = []) : rest = [] := by
  by_contra hne
  have hlast : (s ++ [c]).getLast? = rest.getLast? := by rw [h, List.getLast?_append_of_ne_nil _ hne]
  rw [List.getLast?_concat] at hlast
  have hblank := List.dropWhile_eq_nil_iff.1 htrim c (List.mem_of_getLast? hlast.symm)
  rw [hc] at hblank
  cases hblank

/-- what applications leave starts with neither a space nor a bar -/
theorem Reads.at_rest {lhs e : Expr} {p q : Bool} {s a : List Char} (h : Reads (.pipes lhs p e q) s a) :
    skipSpaces a = a ∧ ∀ r, a ≠ '|' :: r := by
  generalize hi : Item.pipes lhs p e q = i at h
  induction h generalizing lhs p with
  | stop h => exact ⟨skipSpaces_idem _, h⟩
  | bar hs hc h _ ih =>
    cases hi
    exact ih rfl
  | _ => cases hi

/-- **What is taken from a text is a target of its own.** -/
theorem parse_taken {text rest : String} {e : Expr} (h : parsePart text = .ok (e, rest)) :
    ∃ taken : String, text = taken ++ rest ∧ parse taken = .ok e ∧
      ∀ c, rest.toList.head? = some c → isSpace c = false ∧ c ≠ '|' := by
  obtain ⟨p, hread⟩ := parsePart_eq_ok.1 h
  obtain ⟨v, hv, hagain⟩ := hread.replace
  have hend : Follows rest.toList [] := ⟨fun _ => rfl, Or.inl trivial⟩
  have htaken : Reads (.piped e p) (String.ofList v).toList [] := by simpa using hagain [] hend
  refine ⟨String.ofList v, ?_, parse_of_reads htaken, fun c hc => ?_⟩
  · rw [← String.toList_inj, hv]
    simp
  · obtain ⟨r, hr⟩ := List.head?_eq_some_iff.1 hc
    cases hread with
    | piped _ hpipes =>
      obtain ⟨hspaces, hbar⟩ := hpipes.at_rest
      rw [hr] at hspaces hbar
      exact ⟨isSpace_of_skipSpaces hspaces, fun hc => hbar r (by rw [hc])⟩

/-- a last `=` stays with the name though nothing follows it any more -/
theorem parse_taken_equals :
    parsePart "a==b" = .ok (.name "a=", "=b") ∧ ∃ taken : String, "a==b" = taken ++ "=b" ∧
      parse taken = .ok (.name "a=") ∧ ∀ c, "=b".toList.head? = some c → isSpace c = false ∧ c ≠ '|' := by
  have h : parsePart "a==b" = .ok (.name "a=", "=b") := by cbv
  exact ⟨h, parse_taken h⟩

end MetricQuery.Target
