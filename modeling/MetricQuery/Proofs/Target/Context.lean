/-
Targets read in another place.

What an item takes from a text it takes again wherever that text stands in front of a text that follows it as well
(`Reads.replace`). No rule looks further than the first character behind the item, or two where that is `=`, so it is
enough that the texts start alike or that the new one stops any expression. A call closes its own parenthesis and a
string its own quote, so any text may stand behind them (`Reads.replace_closed`).
-/
import MetricQuery.Proofs.Target.Grammar

namespace MetricQuery.Target

open Text

theorem before_append (v a : List Char) : before (v ++ a) a = v := by
  simp [before]

/-- a text put in front of both that follow each other -/
theorem Follows.prepend {c : Char} {v a b : List Char} (h : c ≠ '=' ∨ v ≠ []) :
    Follows (c :: (v ++ a)) (c :: (v ++ b)) := by
  refine ⟨fun hnil => (List.cons_ne_nil _ _ hnil).elim, Or.inr ⟨c, v ++ a, v ++ b, rfl, rfl, fun hc => ?_⟩⟩
  cases v with
  | nil => exact absurd hc (h.resolve_right fun hv => hv rfl)
  | cons d v => rfl

/-- spaces in front of what starts with a character -/
theorem split_of_skipSpaces {s t : List Char} (h : skipSpaces s = t) :
    ∃ u, (∀ c ∈ u, isSpace c = true) ∧ s = u ++ t := by
  rw [← h]
  exact skipSpaces_split s

/-- a text that follows one without spaces and bar in front has none either -/
theorem Follows.head_ne {a b : List Char} (h : Follows a b) {d : Char} (hd : d ≠ ',' ∧ d ≠ ')') (ha : ∀ r, a ≠ d :: r) :
    ∀ r, b ≠ d :: r := by
  intro r hr
  rcases h.ends with hb | ⟨c, x, y, rfl, rfl, -⟩
  · rw [hr] at hb
    rcases hb with hc | hc
    · exact hd.1 hc
    · exact hd.2 hc
  · cases hr
    exact ha x rfl

theorem Follows.skipSpaces {a b : List Char} (h : Follows a b) (ha : Target.skipSpaces a = a) :
    Target.skipSpaces b = b := by
  cases b with
  | nil => rfl
  | cons c y =>
    refine skipSpaces_cons ?_ y
    rcases h.ends with hb | ⟨c', x, y', rfl, hy, -⟩
    · rcases hb with rfl | rfl <;> rfl
    · cases hy
      exact isSpace_of_skipSpaces ha

theorem skipSpaces_idem (s : List Char) : skipSpaces (skipSpaces s) = skipSpaces s := by
  cases h : skipSpaces s with
  | nil => rfl
  | cons c r => exact skipSpaces_cons (isSpace_of_skipSpaces h) r

/-- a name is read again in another place -/
theorem Bare.replace {s r name a : List Char} {c : Char} (h : Bare s c r name a) :
    ∃ v, s = v ++ a ∧ ∀ b, Ends a b → (a = [] → b = [] ∨ '\\' ∉ v) → ∃ r', Bare (v ++ b) c r' name b := by
  obtain ⟨u, hu, rfl⟩ := split_of_skipSpaces h.starts
  obtain ⟨v, hv, hscan⟩ := h.scans.append
  cases v with
  | nil =>
    -- nothing was taken, so there was no name
    have hlen := h.scans.length_le
    rw [hv] at hlen
    have := List.length_pos_iff.2 h.nonempty
    simp only [List.nil_append] at hlen
    omega
  | cons d v =>
    obtain ⟨rfl, rfl⟩ := List.cons.inj hv
    refine ⟨u ++ c :: v, by simp, fun b hb hnil => ⟨v ++ b, ?_⟩⟩
    have hstarts := skipSpaces_behind hu (isSpace_of_skipSpaces h.starts) (v ++ b)
    have hnil' : a = [] → b = [] ∨ '\\' ∉ c :: v := fun ha => (hnil ha).imp_right fun hu hv => hu (by simp [hv])
    refine ⟨by simpa using hstarts, h.plain, fun hc => ?_, hscan b hb hnil', h.nonempty⟩
    exact readNumber_none (v := c :: v) h.scans.goesOn (hb.goesOn h.scans.goesOn) (h.number hc)

/-- no application stands where an argument ends -/
theorem Reads.stop_of_stops {e : Expr} {p : Bool} {k : List Char} (hk : Stops k) : Reads (.pipes e p e p) k k := by
  have hstop : Reads (.pipes e p e p) k (Target.skipSpaces k) := by
    refine .stop fun r => ?_
    rw [skipSpaces_of_stops hk]
    exact ne_cons_of_stops hk ⟨by decide, by decide⟩ r
  rwa [skipSpaces_of_stops hk] at hstop

/-- applications take nothing from a text that starts with neither a space nor a bar -/
theorem Reads.pipes_of_cons {lhs e : Expr} {p p' : Bool} {c : Char} {s a : List Char}
    (h : Reads (.pipes lhs p e p') (c :: s) a) (hspace : isSpace c = false) (hbar : c ≠ '|') :
    a = c :: s ∧ e = lhs ∧ p' = p := by
  have hs : Target.skipSpaces (c :: s) = c :: s := skipSpaces_cons hspace s
  generalize ht : c :: s = t at h hs
  cases h with
  | stop _ => exact ⟨hs, rfl, rfl⟩
  | bar hbar' _ _ =>
    rw [hs, ← ht] at hbar'
    exact absurd (List.cons.inj hbar').1 hbar

/-- what applications take starts with a space or a bar, so it makes texts follow each other -/
theorem Reads.follows_of_pipes {lhs e : Expr} {p p' : Bool} {s a v b : List Char} (h : Reads (.pipes lhs p e p') s a)
    (hv : s = v ++ a) (hab : Follows a b) : Follows s (v ++ b) := by
  subst hv
  cases v with
  | nil => exact hab
  | cons c v =>
    refine Follows.cons ?_ _ _
    rintro rfl
    rw [List.cons_append] at h
    have hlen := congrArg List.length (h.pipes_of_cons rfl (by decide)).1
    simp only [List.length_cons, List.length_append] at hlen
    omega

/-- whether the text behind an item has a say in where it ends; what closes its own parenthesis or quote is not open -/
def Item.Open : Item → Prop
  | .operand (.call ..) | .operand (.string ..) | .args .. => False
  | _ => True

/-- **An item is read again in another place**, in front of any text if it closes its own parenthesis or quote. -/
theorem Reads.moved {i : Item} {s a : List Char} (h : Reads i s a) :
    ∃ v, s = v ++ a ∧ ∀ b, (i.Open → Follows a b) → Reads i (v ++ b) b := by
  induction h with
  | string q hs h =>
    obtain ⟨u, hu, rfl⟩ := split_of_skipSpaces hs
    obtain ⟨v, rfl, hv⟩ := scanString_append h
    refine ⟨u ++ q.char :: v, by simp, fun b _ => ?_⟩
    have hstarts := skipSpaces_behind hu (isSpace_of_skipSpaces hs) (v ++ b)
    exact .string q (by simpa using hstarts) (hv b)
  | @number s c r e rest hs hc h =>
    obtain ⟨u, hu, rfl⟩ := split_of_skipSpaces hs
    obtain ⟨x, v, rfl, rfl, -, hgo, hv⟩ := readNumber_start hc h
    refine ⟨u ++ c :: v, by simp, fun b hb => ?_⟩
    have hstarts := skipSpaces_behind hu (isSpace_of_skipSpaces hs) (v ++ b)
    exact .number (by simpa using hstarts) hc (hv b ((hb trivial).ends.goesOn hgo))
  | name h hparen =>
    obtain ⟨v, rfl, hv⟩ := h.replace
    refine ⟨v, rfl, fun b hb => ?_⟩
    obtain ⟨r', hbare⟩ := hv b (hb trivial).ends fun ha => Or.inl ((hb trivial).nil ha)
    exact .name hbare ((hb trivial).head_ne ⟨by decide, by decide⟩ hparen)
  | @emptyCall s c r name inner after h hclose =>
    obtain ⟨v, rfl, hv⟩ := h.replace
    obtain ⟨u, hu, rfl⟩ := split_of_skipSpaces hclose
    refine ⟨v ++ '(' :: (u ++ [')']), by simp, fun b _ => ?_⟩
    obtain ⟨r', hbare⟩ := hv ('(' :: (u ++ ')' :: b)) (Follows.cons (by decide) _ _).ends (by simp)
    simpa using Reads.emptyCall hbare (skipSpaces_behind hu rfl b)
  | @call s c r name inner acc after h hopen hargs ih =>
    obtain ⟨v, rfl, hv⟩ := h.replace
    obtain ⟨w, rfl, hw⟩ := ih
    refine ⟨v ++ '(' :: w, by simp, fun b _ => ?_⟩
    obtain ⟨r', hbare⟩ := hv ('(' :: (w ++ b)) (Follows.cons (by decide) _ _).ends (by simp)
    have hargs' := hw b False.elim
    obtain ⟨d, t, ht, -, hd⟩ := hargs'.starts
    have hopen' : ∀ after, skipSpaces (w ++ b) ≠ ')' :: after := by
      intro after hafter
      rw [ht] at hafter
      exact hd (List.cons.inj hafter).1
    simpa using Reads.call hbare hopen' hargs'
  | @stop s e p h =>
    obtain ⟨u, hu, hs⟩ := skipSpaces_split s
    refine ⟨u, hs, fun b hb => ?_⟩
    have hskip : skipSpaces (u ++ b) = b := by
      rw [skipSpaces_append hu]
      exact (hb trivial).skipSpaces (skipSpaces_idem s)
    have hbar : ∀ r, skipSpaces (u ++ b) ≠ '|' :: r := by
      rw [hskip]
      exact (hb trivial).head_ne ⟨by decide, by decide⟩ h
    have hstop := Reads.stop (e := e) (b := p) hbar
    rw [hskip] at hstop
    exact hstop
  | @bar s r c mid lhs p e p' rest hs hc h ihc ih =>
    obtain ⟨u, hu, rfl⟩ := split_of_skipSpaces hs
    obtain ⟨v, rfl, hv⟩ := ihc
    obtain ⟨w, hw, hpipes⟩ := ih
    refine ⟨u ++ '|' :: (v ++ w), by simp [hw], fun b hb => ?_⟩
    have hbar := skipSpaces_behind (c := '|') hu rfl (v ++ (w ++ b))
    simpa using Reads.bar hbar (hv (w ++ b) False.elim) (hpipes b hb)
  | @piped s e mid e' p rest he h ihe ih =>
    obtain ⟨v, rfl, hv⟩ := ihe
    obtain ⟨w, hw, hpipes⟩ := ih
    refine ⟨v ++ w, by simp [hw], fun b hb => ?_⟩
    simpa using Reads.piped (hv (w ++ b) fun _ => h.follows_of_pipes hw (hb trivial)) (hpipes b hb)
  | @named acc s key p t value p' after value' hkey hvalue hv hnew ihkey ihvalue =>
    obtain ⟨v, rfl, hv'⟩ := ihkey
    obtain ⟨w, rfl, hw⟩ := ihvalue
    have hne : w ≠ [] := by
      rintro rfl
      have := hvalue.length_le
      simp [Item.least] at this
    refine ⟨v ++ '=' :: w, by simp, fun b hb => ?_⟩
    have hnamed : Reads (.arg acc _) _ b :=
      .named (hv' ('=' :: (w ++ b)) fun _ => Follows.prepend (Or.inr hne)) (hw b hb) hv hnew
    have hpiece : before (v ++ '=' :: (w ++ after)) after = before (v ++ '=' :: (w ++ b)) b := by
      rw [← List.cons_append, ← List.append_assoc, before_append, ← List.cons_append, ← List.append_assoc,
        before_append]
    rw [hpiece]
    simpa using hnamed
  | @positional acc s e p rest h hkey ih =>
    obtain ⟨v, rfl, hv⟩ := ih
    refine ⟨v, rfl, fun b hb => ?_⟩
    have hpiece : pieceOf e p (v ++ rest) rest = pieceOf e p (v ++ b) b := by
      rw [pieceOf, pieceOf, before_append, before_append]
    rw [hpiece]
    exact .positional (hv b hb) fun key t he => (hb trivial).head_ne ⟨by decide, by decide⟩ (hkey key · he) t
  | @last acc acc' s rest after h hs ih =>
    obtain ⟨v, rfl, hv⟩ := ih
    obtain ⟨u, hu, rfl⟩ := split_of_skipSpaces hs
    refine ⟨v ++ (u ++ [')']), by simp, fun b _ => ?_⟩
    have hfollows : Follows (u ++ ')' :: after) (u ++ ')' :: b) := (Follows.cons (by decide) _ _).spaces hu
    simpa using Reads.last (hv (u ++ ')' :: b) fun _ => hfollows) (skipSpaces_behind hu rfl b)
  | @more acc acc' acc'' s rest mid after h hs hmore ih ihmore =>
    obtain ⟨v, rfl, hv⟩ := ih
    obtain ⟨u, hu, rfl⟩ := split_of_skipSpaces hs
    obtain ⟨w, rfl, hw⟩ := ihmore
    refine ⟨v ++ (u ++ ',' :: w), by simp, fun b hb => ?_⟩
    have hcomma := skipSpaces_behind (c := ',') hu rfl (w ++ b)
    have hfollows : Follows (u ++ ',' :: (w ++ after)) (u ++ ',' :: (w ++ b)) :=
      (Follows.cons (by decide) _ _).spaces hu
    simpa using Reads.more (hv (u ++ ',' :: (w ++ b)) fun _ => hfollows) hcomma (hw b hb)

theorem Reads.replace {i : Item} {s a : List Char} (h : Reads i s a) :
    ∃ v, s = v ++ a ∧ ∀ b, Follows a b → Reads i (v ++ b) b := by
  obtain ⟨v, hv, hread⟩ := h.moved
  exact ⟨v, hv, fun b hb => hread b fun _ => hb⟩

/-- what closes its own parenthesis or quote is read again in front of any text -/
theorem Reads.replace_closed {i : Item} {s a : List Char} (h : Reads i s a) (hi : ¬ i.Open) :
    ∃ v, s = v ++ a ∧ ∀ b, Reads i (v ++ b) b := by
  obtain ⟨v, hv, hread⟩ := h.moved
  exact ⟨v, hv, fun b => hread b fun hopen => absurd hopen hi⟩

end MetricQuery.Target
