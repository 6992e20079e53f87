/-
The grammar of intervals and their value.

An interval is an optional sign and components behind it, each as many digits and then as many letters as there are
(`Spelled`). Its components are added up from the left; one adds to the total before it if its letters name a unit and
its count, its seconds and the new total fit in 64 bits (`Component.Adds`). `parseInterval_grammar` says that an interval
of which every component adds has the signed total as its value, and which of two errors every other text has.
-/
import MetricQuery.Proofs.Result
import MetricQuery.Time.Interval

namespace MetricQuery.Time

/-! ## Units -/

/-- letters in any case that begin as the unit does; those of a month are no minutes -/
def TimeUnit.NamedBy (u : TimeUnit) (letters : List Char) : Prop :=
  let lower := letters.map Char.toLower
  match u with
  | .seconds => ['s'] <+: lower
  | .minutes => ['m'] <+: lower ∧ ¬['m', 'o', 'n'] <+: lower
  | .hours => ['h'] <+: lower
  | .days => ['d'] <+: lower
  | .weeks => ['w'] <+: lower
  | .months => ['m', 'o', 'n'] <+: lower
  | .years => ['y'] <+: lower

theorem TimeUnit.ofLetters_eq_some_iff {letters : List Char} {u : TimeUnit} :
    ofLetters letters = some u ↔ u.NamedBy letters := by
  unfold ofLetters NamedBy
  generalize letters.map Char.toLower = lower
  split <;> cases u <;> simp_all [List.IsPrefix, eq_comm]

theorem TimeUnit.ofLetters_eq_none_iff {letters : List Char} :
    ofLetters letters = none ↔ ∀ u : TimeUnit, ¬u.NamedBy letters := by
  simp only [← ofLetters_eq_some_iff, Option.eq_none_iff_forall_ne_some, ne_eq]

/-! ## Components -/

namespace Component

/-- a component as it is written -/
def text (p : Component) : List Char := p.digits ++ p.letters

/-- digits, at least one, and then letters -/
structure WellFormed (p : Component) : Prop where
  counted : p.digits ≠ []
  digits : ∀ c ∈ p.digits, c.isDigit = true
  letters : ∀ c ∈ p.letters, c.isAlpha = true

end Component

/-- components in a row; one without letters would go on with the digits of the next, so it stands at the end -/
structure Row (parts : List Component) : Prop where
  wellFormed : ∀ p ∈ parts, p.WellFormed
  greedy : parts.IsChain fun p _ => p.letters ≠ []

theorem isAlpha_eq_false_of_isDigit {c : Char} (h : c.isDigit = true) : c.isAlpha = false := by
  simp only [Char.isDigit, Bool.and_eq_true, decide_eq_true_eq, UInt32.le_iff_toNat_le, ge_iff_le] at h
  rw [Bool.eq_false_iff]
  intro halpha
  simp only [Char.isAlpha, Char.isUpper, Char.isLower, Bool.or_eq_true, Bool.and_eq_true, decide_eq_true_eq,
    UInt32.le_iff_toNat_le, ge_iff_le] at halpha
  have hnine : '9'.val.toNat = 57 := rfl
  have hA : 'A'.val.toNat = 65 := rfl
  have ha : 'a'.val.toNat = 97 := rfl
  omega

theorem Row.nil : Row [] := ⟨by simp, List.IsChain.nil⟩

/-- a digit in front of components begins one more, or the first one has no letters missing in front of it -/
theorem splitComponents_sound {s letters : List Char} {parts : List Component}
    (h : splitComponents s = some (letters, parts)) :
    s = letters ++ parts.flatMap Component.text ∧ (∀ c ∈ letters, c.isAlpha = true) ∧ Row parts := by
  induction s generalizing letters parts with
  | nil =>
    cases h
    exact ⟨rfl, by simp, Row.nil⟩
  | cons c r ih =>
    unfold splitComponents at h
    split at h
    · cases h
    · rename_i ls ps hr
      obtain ⟨rfl, hletters, hrow⟩ := ih hr
      split at h
      · rename_i halpha
        cases h
        exact ⟨rfl, List.forall_mem_cons.2 ⟨halpha, hletters⟩, hrow⟩
      · split at h
        · rename_i hdigit
          split at h
          · -- the digit goes in front of those of the first component
            rename_i ds ls more
            cases h
            obtain ⟨hp, hmore⟩ := List.forall_mem_cons.1 hrow.wellFormed
            have hp' : Component.WellFormed ⟨c :: ds, ls⟩ :=
              ⟨by simp, List.forall_mem_cons.2 ⟨hdigit, hp.digits⟩, hp.letters⟩
            refine ⟨by simp [Component.text], by simp, List.forall_mem_cons.2 ⟨hp', hmore⟩, ?_⟩
            have hchain := hrow.greedy
            rw [List.isChain_cons] at hchain ⊢
            exact hchain
          · -- the digit is the whole count of a new component
            rename_i hnot
            cases h
            have hp' : Component.WellFormed ⟨[c], ls⟩ := ⟨by simp, by simpa using hdigit, hletters⟩
            refine ⟨by simp [Component.text], by simp, List.forall_mem_cons.2 ⟨hp', hrow.wellFormed⟩, ?_⟩
            rw [List.isChain_cons]
            refine ⟨fun q hq => ?_, hrow.greedy⟩
            rintro rfl
            obtain ⟨more, rfl⟩ := List.head?_eq_some_iff.1 hq
            exact hnot q.digits q.letters more rfl rfl
        · cases h

/-- digits in front of letters that are not missing, or of nothing, are the count of one component -/
theorem splitComponents_count {ds ls r : List Char} {parts : List Component} (hne : ds ≠ [])
    (hds : ∀ c ∈ ds, c.isDigit = true) (hr : splitComponents r = some (ls, parts)) (hgreedy : ls ≠ [] ∨ parts = []) :
    splitComponents (ds ++ r) = some ([], ⟨ds, ls⟩ :: parts) := by
  induction ds with
  | nil => exact absurd rfl hne
  | cons d ds ih =>
    obtain ⟨hd, hds⟩ := List.forall_mem_cons.1 hds
    have hd' := isAlpha_eq_false_of_isDigit hd
    rw [List.cons_append, splitComponents]
    cases ds with
    | nil =>
      rw [List.nil_append, hr]
      rcases hgreedy with hls | rfl
      · obtain ⟨l, ls, rfl⟩ := List.exists_cons_of_ne_nil hls
        simp [hd, hd']
      · simp [hd, hd']
    | cons e ds =>
      rw [ih (List.cons_ne_nil e ds) hds]
      simp [hd, hd']

theorem splitComponents_letters {letters r : List Char} {parts : List Component}
    (hletters : ∀ c ∈ letters, c.isAlpha = true) (hr : splitComponents r = some ([], parts)) :
    splitComponents (letters ++ r) = some (letters, parts) := by
  induction letters with
  | nil => exact hr
  | cons c letters ih =>
    obtain ⟨hc, hletters⟩ := List.forall_mem_cons.1 hletters
    rw [List.cons_append, splitComponents, ih hletters]
    simp [hc]

/-- a row of components is split as it is -/
theorem splitComponents_complete {parts : List Component} (hrow : Row parts) :
    splitComponents (parts.flatMap Component.text) = some ([], parts) := by
  induction parts with
  | nil => rfl
  | cons p parts ih =>
    obtain ⟨hp, hparts⟩ := List.forall_mem_cons.1 hrow.wellFormed
    obtain ⟨hgreedy, hchain⟩ := List.isChain_cons.1 hrow.greedy
    rw [List.flatMap_cons, Component.text, List.append_assoc]
    refine splitComponents_count hp.counted hp.digits (splitComponents_letters hp.letters (ih ⟨hparts, hchain⟩)) ?_
    cases parts with
    | nil => exact Or.inr rfl
    | cons q parts => exact Or.inl (hgreedy q rfl)

/-- **A text is split into components exactly as a row of them is written.** -/
theorem components_eq_some_iff {s : List Char} {parts : List Component} :
    components s = some parts ↔ parts ≠ [] ∧ Row parts ∧ s = parts.flatMap Component.text := by
  unfold components
  constructor
  · intro h
    split at h
    · rename_i p ps hsplit
      cases h
      obtain ⟨htext, -, hrow⟩ := splitComponents_sound hsplit
      exact ⟨by simp, hrow, htext⟩
    · cases h
  · rintro ⟨hne, hrow, rfl⟩
    rw [splitComponents_complete hrow]
    obtain ⟨p, ps, rfl⟩ := List.exists_cons_of_ne_nil hne
    rfl

/-! ## Totals -/

namespace Component

/-- number of units that a component counts -/
def count (p : Component) : Int := Decimal.digitsValue p.digits

/-- seconds that a component stands for; one of no unit stands for none -/
def seconds (p : Component) : Int :=
  p.count * ((TimeUnit.ofLetters p.letters).elim 0 TimeUnit.span)

/-- a component of a unit, with a count, seconds and a new total that fit in 64 bits -/
structure Adds (total : Int) (p : Component) : Prop where
  named : ∃ u : TimeUnit, u.NamedBy p.letters
  count : inRange p.count = true
  seconds : inRange p.seconds = true
  total : inRange (total + p.seconds) = true

end Component

/-- seconds that components stand for together -/
def totalOf (parts : List Component) : Int :=
  (parts.map Component.seconds).sum

/-- every component adds to the total of those before it, from a total on -/
def AllAdd (start : Int) (parts : List Component) : Prop :=
  ∀ before p after, parts = before ++ p :: after → p.Adds (start + totalOf before)

theorem totalOf_cons (p : Component) (parts : List Component) : totalOf (p :: parts) = p.seconds + totalOf parts := rfl

theorem allAdd_cons {start : Int} {p : Component} {parts : List Component} :
    AllAdd start (p :: parts) ↔ p.Adds start ∧ AllAdd (start + p.seconds) parts := by
  constructor
  · intro h
    refine ⟨by simpa [totalOf] using h [] p parts rfl, fun before q after hparts => ?_⟩
    have hq := h (p :: before) q after (by rw [hparts, List.cons_append])
    rwa [totalOf_cons, ← add_assoc] at hq
  · rintro ⟨hp, h⟩ before q after hparts
    cases before with
    | nil =>
      cases hparts
      simpa [totalOf] using hp
    | cons b before =>
      rw [List.cons_append] at hparts
      cases hparts
      rw [totalOf_cons, ← add_assoc]
      exact h before q after rfl

theorem checked_eq_some_iff {n m : Int} : checked n = some m ↔ inRange n = true ∧ n = m := by
  unfold checked
  split <;> simp_all

/-- what becomes of a total when one more component is to be added -/
theorem addComponent_cases (text : String) (total : Int) (p : Component) :
    (p.Adds total ∧ addComponent text total p = .ok (total + p.seconds)) ∨
    ((∀ u : TimeUnit, ¬u.NamedBy p.letters) ∧ addComponent text total p = .error (.unknownUnits text)) ∨
    ((∃ u : TimeUnit, u.NamedBy p.letters) ∧ ¬p.Adds total ∧ addComponent text total p = .error (.invalid text)) := by
  unfold addComponent
  cases hunit : TimeUnit.ofLetters p.letters with
  | none => exact Or.inr (Or.inl ⟨TimeUnit.ofLetters_eq_none_iff.1 hunit, rfl⟩)
  | some u =>
    have hnamed : ∃ u : TimeUnit, u.NamedBy p.letters := ⟨u, TimeUnit.ofLetters_eq_some_iff.1 hunit⟩
    have hseconds : p.seconds = p.count * u.span := by rw [Component.seconds, hunit, Option.elim_some]
    have hsum : ∀ t, (do
        let count ← checked (Decimal.digitsValue p.digits)
        let part ← checked (count * u.span)
        checked (total + part)) = some t ↔ p.Adds total ∧ total + p.seconds = t := by
      intro t
      have hadds : p.Adds total ↔
          inRange p.count = true ∧ inRange p.seconds = true ∧ inRange (total + p.seconds) = true :=
        ⟨fun h => ⟨h.count, h.seconds, h.total⟩, fun ⟨h1, h2, h3⟩ => ⟨hnamed, h1, h2, h3⟩⟩
      simp [hadds, Option.bind_eq_some_iff, checked_eq_some_iff, hseconds, Component.count, and_assoc]
    dsimp only
    split
    · rename_i t ht
      obtain ⟨hadds, rfl⟩ := (hsum t).1 ht
      exact Or.inl ⟨hadds, rfl⟩
    · rename_i hnone
      refine Or.inr (Or.inr ⟨hnamed, fun hadds => ?_, rfl⟩)
      rw [(hsum _).2 ⟨hadds, rfl⟩] at hnone
      cases hnone

section Total

variable {text : String} {start : Int} {p : Component} {parts : List Component}

theorem addComponent_eq_ok {t : Int} : addComponent text start p = .ok t ↔ p.Adds start ∧ t = start + p.seconds := by
  rcases addComponent_cases text start p with ⟨hadds, h⟩ | ⟨hnone, h⟩ | ⟨-, hnot, h⟩
  · simp [h, hadds, eq_comm]
  · simp only [h, reduceCtorEq, false_iff]
    rintro ⟨⟨⟨u, hu⟩, -⟩, -⟩
    exact hnone u hu
  · simp [h, hnot]

theorem addComponent_eq_unknown :
    addComponent text start p = .error (.unknownUnits text) ↔ ∀ u : TimeUnit, ¬u.NamedBy p.letters := by
  rcases addComponent_cases text start p with ⟨⟨⟨u, hu⟩, -⟩, h⟩ | ⟨hnone, h⟩ | ⟨⟨u, hu⟩, -, h⟩
  · simp only [h, reduceCtorEq, false_iff]
    exact fun hnone => hnone u hu
  · simp [h, hnone]
  · simp only [h, Except.error.injEq, reduceCtorEq, false_iff]
    exact fun hnone => hnone u hu

/-- **Components come to their total exactly if each one adds.** -/
theorem foldlM_addComponent_eq_ok {t : Int} :
    parts.foldlM (addComponent text) start = .ok t ↔ AllAdd start parts ∧ t = start + totalOf parts := by
  induction parts generalizing start with
  | nil =>
    have hnil : AllAdd start [] := fun before p after h => by simp at h
    simp [hnil, totalOf, pure, Except.pure, eq_comm]
  | cons p parts ih =>
    rw [List.foldlM_cons, bind_eq_ok, allAdd_cons, totalOf_cons]
    simp only [addComponent_eq_ok, ih]
    constructor
    · rintro ⟨_, ⟨hp, rfl⟩, hparts, rfl⟩
      exact ⟨⟨hp, hparts⟩, add_assoc _ _ _⟩
    · rintro ⟨⟨hp, hparts⟩, rfl⟩
      exact ⟨_, ⟨hp, rfl⟩, hparts, (add_assoc _ _ _).symm⟩

/-- **The unit is at fault where the first component that does not add has none.** -/
theorem foldlM_addComponent_eq_unknown :
    parts.foldlM (addComponent text) start = .error (.unknownUnits text) ↔
      ∃ before p after, parts = before ++ p :: after ∧ AllAdd start before ∧ ∀ u : TimeUnit, ¬u.NamedBy p.letters := by
  induction parts generalizing start with
  | nil => simp [pure, Except.pure]
  | cons p parts ih =>
    rw [List.foldlM_cons, bind_eq_error, addComponent_eq_unknown]
    simp only [addComponent_eq_ok, ih]
    constructor
    · rintro (hnone | ⟨_, ⟨hp, rfl⟩, before, q, after, rfl, hbefore, hnone⟩)
      · exact ⟨[], p, parts, rfl, fun before q after h => by simp at h, hnone⟩
      · exact ⟨p :: before, q, after, rfl, allAdd_cons.2 ⟨hp, hbefore⟩, hnone⟩
    · rintro ⟨before, q, after, hparts, hbefore, hnone⟩
      cases before with
      | nil =>
        cases hparts
        exact Or.inl hnone
      | cons b before =>
        cases hparts
        obtain ⟨hb, hbefore⟩ := allAdd_cons.1 hbefore
        exact Or.inr ⟨_, ⟨hb, rfl⟩, before, q, after, rfl, hbefore, hnone⟩

theorem foldlM_addComponent_error {e : IntervalError} (h : parts.foldlM (addComponent text) start = .error e) :
    e = .unknownUnits text ∨ e = .invalid text := by
  induction parts generalizing start with
  | nil => cases h
  | cons p parts ih =>
    rw [List.foldlM_cons, bind_eq_error] at h
    rcases h with h | ⟨t, -, h⟩
    · rcases addComponent_cases text start p with ⟨-, hp⟩ | ⟨-, hp⟩ | ⟨-, -, hp⟩
      · rw [hp] at h
        cases h
      · rw [hp] at h
        cases h
        exact Or.inl rfl
      · rw [hp] at h
        cases h
        exact Or.inr rfl
    · exact ih h

theorem totalOf_bounds (h : AllAdd 0 parts) : 0 ≤ totalOf parts ∧ totalOf parts ≤ greatest := by
  have hseconds : ∀ p : Component, 0 ≤ p.seconds := by
    intro p
    refine Int.mul_nonneg (Int.natCast_nonneg _) ?_
    cases TimeUnit.ofLetters p.letters with
    | none => exact le_refl 0
    | some u => cases u <;> decide
  refine ⟨List.sum_nonneg (by simpa [totalOf] using fun p _ => hseconds p), ?_⟩
  rcases List.eq_nil_or_concat parts with rfl | ⟨before, p, rfl⟩
  · decide
  · have hlast := (h before p [] (by simp)).total
    simp only [inRange, Bool.and_eq_true, decide_eq_true_eq, zero_add] at hlast
    simpa [totalOf] using hlast.2

end Total

/-! ## Intervals -/

/-- a sign, or none, and components behind it, at least one, with white space around them -/
structure Spelled (text : String) (sign : List Char) (parts : List Component) : Prop where
  trimmed : Text.trim text.toList = sign ++ parts.flatMap Component.text
  signs : sign = [] ∨ sign = ['-'] ∨ sign = ['+']
  nonempty : parts ≠ []
  row : Row parts

/-- a total with the sign that an interval carries, or else with that of a default -/
def signed (sign : List Char) (defaultSign total : Int) : Int :=
  if sign = ['-'] ∨ (sign = [] ∧ defaultSign < 0) then -total else total

theorem components_of_digit {c : Char} {r : List Char} {parts : List Component}
    (h : components (c :: r) = some parts) : c.isDigit = true := by
  obtain ⟨hne, hrow, htext⟩ := components_eq_some_iff.1 h
  obtain ⟨p, ps, rfl⟩ := List.exists_cons_of_ne_nil hne
  have hp := hrow.wellFormed p List.mem_cons_self
  obtain ⟨d, ds, hds⟩ := List.exists_cons_of_ne_nil hp.counted
  rw [List.flatMap_cons, Component.text, hds] at htext
  cases htext
  exact hp.digits c (hds ▸ List.mem_cons_self)

theorem spelled_iff {text : String} {sign : List Char} {parts : List Component} :
    Spelled text sign parts ↔ (sign = [] ∨ sign = ['-'] ∨ sign = ['+']) ∧
      ∃ body, Text.trim text.toList = sign ++ body ∧ components body = some parts := by
  constructor
  · rintro ⟨htrim, hsigns, hne, hrow⟩
    exact ⟨hsigns, _, htrim, components_eq_some_iff.2 ⟨hne, hrow, rfl⟩⟩
  · rintro ⟨hsigns, body, htrim, hbody⟩
    obtain ⟨hne, hrow, rfl⟩ := components_eq_some_iff.1 hbody
    exact ⟨htrim, hsigns, hne, hrow⟩

/-- a text has one sign if it is not taken for a part of what follows -/
theorem sign_unique {s sign body : List Char} (hs : s = sign ++ body) (hsign : sign = [] ∨ sign = ['-'] ∨ sign = ['+'])
    (hbody : sign = [] → ∀ c ∈ body.head?, c ≠ '-' ∧ c ≠ '+') {sign' : List Char} {parts : List Component} :
    ((sign' = [] ∨ sign' = ['-'] ∨ sign' = ['+']) ∧ ∃ body', s = sign' ++ body' ∧ components body' = some parts) ↔
      sign' = sign ∧ components body = some parts := by
  constructor
  · rintro ⟨hsign', body', hs', hparts⟩
    -- a sign that is left over begins the components of the other reading, or is ruled out
    subst hs
    rcases hsign with rfl | rfl | rfl <;> rcases hsign' with rfl | rfl | rfl
    all_goals simp only [List.nil_append, List.cons_append] at hs'
    · exact ⟨rfl, hs' ▸ hparts⟩
    · exact absurd rfl (hbody rfl '-' (by rw [hs']; rfl)).1
    · exact absurd rfl (hbody rfl '+' (by rw [hs']; rfl)).2
    · exact absurd (components_of_digit (hs' ▸ hparts)) (by decide)
    · exact ⟨rfl, (List.cons.inj hs').2 ▸ hparts⟩
    · exact absurd (List.cons.inj hs').1 (by decide)
    · exact absurd (components_of_digit (hs' ▸ hparts)) (by decide)
    · exact absurd (List.cons.inj hs').1 (by decide)
    · exact ⟨rfl, (List.cons.inj hs').2 ▸ hparts⟩
  · rintro ⟨rfl, hparts⟩
    exact ⟨hsign, body, hs, hparts⟩

/-- how an interval is read: its sign and the text behind it, of which components are made -/
theorem parseInterval_spelled (text : String) (defaultSign : Int) :
    ∃ sign body, (∀ {sign' parts}, Spelled text sign' parts ↔ sign' = sign ∧ components body = some parts) ∧
      parseInterval text defaultSign = (match components body with
        | none => .error (.invalid text)
        | some parts => do
          let total ← parts.foldlM (addComponent text) 0
          .ok (signed sign defaultSign total)) := by
  simp only [spelled_iff]
  unfold parseInterval
  generalize Text.trim text.toList = s
  by_cases hminus : ∃ r, s = '-' :: r
  · obtain ⟨r, rfl⟩ := hminus
    exact ⟨['-'], r, sign_unique rfl (Or.inr (Or.inl rfl)) fun h => absurd h (List.cons_ne_nil _ _), rfl⟩
  · by_cases hplus : ∃ r, s = '+' :: r
    · obtain ⟨r, rfl⟩ := hplus
      exact ⟨['+'], r, sign_unique rfl (Or.inr (Or.inr rfl)) fun h => absurd h (List.cons_ne_nil _ _), rfl⟩
    · refine ⟨[], s, sign_unique rfl (Or.inl rfl) fun _ c hc => ?_, ?_⟩
      · obtain ⟨r, rfl⟩ := List.head?_eq_some_iff.1 hc
        exact ⟨fun h => hminus ⟨r, by rw [h]⟩, fun h => hplus ⟨r, by rw [h]⟩⟩
      · -- with these two the match falls through to its last branch
        have hminus' : ∀ r, s = '-' :: r → False := fun r h => hminus ⟨r, h⟩
        have hplus' : ∀ r, s = '+' :: r → False := fun r h => hplus ⟨r, h⟩
        have hsigned : ∀ t, signed [] defaultSign t = if decide (defaultSign < 0) = true then -t else t := by
          intro t
          simp [signed]
        cases hbody : components s with
        | none => simp only [hbody]
        | some parts => simp only [hbody, hsigned]

section Parse

variable {text : String} {defaultSign : Int}

theorem parseInterval_eq_ok {v : Int} :
    parseInterval text defaultSign = .ok v ↔
      ∃ sign parts, Spelled text sign parts ∧ AllAdd 0 parts ∧ v = signed sign defaultSign (totalOf parts) := by
  obtain ⟨sign, body, hspelled, hread⟩ := parseInterval_spelled text defaultSign
  rw [hread]
  cases hbody : components body with
  | none => simp [hspelled, hbody]
  | some parts =>
    simp only [bind_eq_ok, foldlM_addComponent_eq_ok, hspelled, hbody]
    constructor
    · rintro ⟨t, ⟨hadd, rfl⟩, hv⟩
      cases hv
      exact ⟨sign, parts, ⟨rfl, rfl⟩, hadd, by rw [zero_add]⟩
    · rintro ⟨_, _, ⟨rfl, hparts⟩, hadd, rfl⟩
      cases hparts
      exact ⟨_, ⟨hadd, rfl⟩, by rw [zero_add]⟩

theorem parseInterval_eq_unknown :
    parseInterval text defaultSign = .error (.unknownUnits text) ↔
      ∃ sign before p after, Spelled text sign (before ++ p :: after) ∧ AllAdd 0 before ∧
        ∀ u : TimeUnit, ¬u.NamedBy p.letters := by
  obtain ⟨sign, body, hspelled, hread⟩ := parseInterval_spelled text defaultSign
  rw [hread]
  cases hbody : components body with
  | none => simp [hspelled, hbody]
  | some parts =>
    simp only [bind_eq_error, foldlM_addComponent_eq_unknown, hspelled, hbody]
    constructor
    · rintro (⟨before, p, after, rfl, hadd, hnone⟩ | ⟨_, _, h⟩)
      · exact ⟨sign, before, p, after, ⟨rfl, rfl⟩, hadd, hnone⟩
      · cases h
    · rintro ⟨_, before, p, after, ⟨rfl, hparts⟩, hadd, hnone⟩
      cases hparts
      exact Or.inl ⟨before, p, after, rfl, hadd, hnone⟩

/-- an interval is refused for its units or as a whole -/
theorem parseInterval_error {e : IntervalError} (h : parseInterval text defaultSign = .error e) :
    e = .unknownUnits text ∨ e = .invalid text := by
  obtain ⟨sign, body, -, hread⟩ := parseInterval_spelled text defaultSign
  rw [hread] at h
  split at h
  · cases h
    exact Or.inr rfl
  · rw [bind_eq_error] at h
    rcases h with h | ⟨_, _, h⟩
    · exact foldlM_addComponent_error h
    · cases h

end Parse

/-- **The grammar of intervals and their value.** A text is an interval exactly if it is spelled as one and each of its
components adds; its value is then the total with its sign. If the first component that does not add is of no unit, the
units are unknown; every other text is invalid. -/
theorem parseInterval_grammar (text : String) (defaultSign : Int) :
    (∀ v, parseInterval text defaultSign = .ok v ↔
      ∃ sign parts, Spelled text sign parts ∧ AllAdd 0 parts ∧ v = signed sign defaultSign (totalOf parts)) ∧
    (∀ v, parseInterval text defaultSign = .ok v → -greatest ≤ v ∧ v ≤ greatest) ∧
    (parseInterval text defaultSign = .error (.unknownUnits text) ↔
      ∃ sign before p after, Spelled text sign (before ++ p :: after) ∧ AllAdd 0 before ∧
        ∀ u : TimeUnit, ¬u.NamedBy p.letters) ∧
    (parseInterval text defaultSign = .error (.invalid text) ↔
      (¬∃ sign parts, Spelled text sign parts ∧ AllAdd 0 parts) ∧
      ¬∃ sign before p after, Spelled text sign (before ++ p :: after) ∧ AllAdd 0 before ∧
        ∀ u : TimeUnit, ¬u.NamedBy p.letters) := by
  refine ⟨fun v => parseInterval_eq_ok, fun v hv => ?_, parseInterval_eq_unknown, ?_, ?_⟩
  · obtain ⟨sign, parts, -, hadd, rfl⟩ := parseInterval_eq_ok.1 hv
    obtain ⟨h0, h1⟩ := totalOf_bounds hadd
    unfold signed
    split <;> omega
  · intro hinvalid
    refine ⟨fun ⟨sign, parts, hspelled, hadd⟩ => ?_, fun hunknown => ?_⟩
    · cases hinvalid.symm.trans (parseInterval_eq_ok.2 ⟨sign, parts, hspelled, hadd, rfl⟩)
    · cases hinvalid.symm.trans (parseInterval_eq_unknown.2 hunknown)
  · rintro ⟨hsum, hunknown⟩
    cases hresult : parseInterval text defaultSign with
    | ok v =>
      obtain ⟨sign, parts, hspelled, hadd, -⟩ := parseInterval_eq_ok.1 hresult
      exact absurd ⟨sign, parts, hspelled, hadd⟩ hsum
    | error e =>
      rcases parseInterval_error hresult with rfl | rfl
      · exact absurd (parseInterval_eq_unknown.1 hresult) hunknown
      · rfl

example : parseInterval "-1mon30min" 1 = .ok (-2593800) := by decide +kernel

-- of a component with neither a unit nor a count that fits, the unit decides
example : parseInterval "1h99999999999999999999" 1 = .error (.unknownUnits "1h99999999999999999999") := by
  decide +kernel

end MetricQuery.Time
