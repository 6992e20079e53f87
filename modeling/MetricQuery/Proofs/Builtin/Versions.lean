/-
Versions in text.

A version is written as digits, an underscore and more digits. `Version.HeldBy` says which version a text holds: that of
the first place where one is written, with all the digits there, if both numbers fit in a word of 64 bits. The search
passes over one run of digits after the other; `WrittenAt.cases` says where a version can be written relative to a run,
so a run that is not followed by an underscore and more digits can be passed over as a whole (`versionIn?_eq_some_iff`).
-/
import Mathlib
import MetricQuery.Builtin.Shift

namespace MetricQuery.Builtin

open Text (isDecimalDigit)

/-! ## Where versions are written -/

/-- a version is written in a text behind `before`, with as many digits of the minor number as there are -/
structure WrittenAt (s before major minor behind : List Char) : Prop where
  text : s = before ++ (major ++ '_' :: (minor ++ behind))
  major_ne : major ≠ []
  minor_ne : minor ≠ []
  major : ∀ c ∈ major, isDecimalDigit c = true
  minor : ∀ c ∈ minor, isDecimalDigit c = true
  stops : ∀ c ∈ behind.head?, isDecimalDigit c = false

/-- the digits of the version that begins first in a text -/
def FirstWritten (s major minor : List Char) : Prop :=
  ∃ before behind, WrittenAt s before major minor behind ∧
    ∀ before' major' minor' behind', WrittenAt s before' major' minor' behind' → before.length ≤ before'.length

/-- the first run of digits in a text, with what is in front of it and behind it -/
structure FirstRun (s skip run rest : List Char) : Prop where
  text : s = skip ++ run ++ rest
  skip : ∀ c ∈ skip, isDecimalDigit c = false
  run : ∀ c ∈ run, isDecimalDigit c = true
  stops : ∀ c ∈ rest.head?, isDecimalDigit c = false

theorem stops_underscore (r : List Char) : ∀ c ∈ ('_' :: r).head?, isDecimalDigit c = false := by
  rintro c ⟨⟩
  decide

theorem takeWhile_run {run rest : List Char} (hrun : ∀ c ∈ run, isDecimalDigit c = true)
    (hstops : ∀ c ∈ rest.head?, isDecimalDigit c = false) : (run ++ rest).takeWhile isDecimalDigit = run := by
  rw [List.takeWhile_append_of_pos hrun]
  cases rest with
  | nil => simp
  | cons c r => simp [hstops c rfl]

theorem head?_dropWhile_digit (s : List Char) : ∀ c ∈ (s.dropWhile isDecimalDigit).head?, isDecimalDigit c = false := by
  intro c hc
  have h := List.head?_dropWhile_not isDecimalDigit s
  rw [Option.mem_def.1 hc] at h
  exact h

section Cases

variable {s skip run rest : List Char} (hrun : FirstRun s skip run rest)
include hrun

/-- what begins with a digit and ends with the first run is the end of it -/
theorem FirstRun.eq_append {before ds : List Char} {d : Char} (hd : isDecimalDigit d = true)
    (h : skip ++ run = before ++ d :: ds) : ∃ run', before = skip ++ run' ∧ run = run' ++ d :: ds := by
  rcases List.append_eq_append_iff.1 h with ⟨run', hbefore, hrun'⟩ | ⟨late, hlate, hds⟩
  · exact ⟨run', hbefore, hrun'⟩
  · cases late with
    | nil => exact ⟨[], by simpa using hlate.symm, by simpa using hds.symm⟩
    | cons e es =>
      rw [List.cons_append] at hds
      have hskip := hrun.skip e (by rw [hlate]; simp)
      rw [← (List.cons.inj hds).1, hd] at hskip
      cases hskip

/-- **A version is written at the first run of digits, or behind it.** -/
theorem WrittenAt.cases {before major minor behind : List Char} (h : WrittenAt s before major minor behind) :
    (∃ run', before = skip ++ run' ∧ rest = '_' :: (minor ++ behind)) ∨
      ∃ before', before = skip ++ run ++ before' ∧ WrittenAt rest before' major minor behind := by
  have htext : skip ++ run ++ rest = before ++ (major ++ '_' :: (minor ++ behind)) := hrun.text.symm.trans h.text
  rcases List.append_eq_append_iff.1 htext with ⟨before', hbefore, hrest⟩ | ⟨front, hfront, hmajor⟩
  · exact Or.inr ⟨before', hbefore, { h with text := hrest }⟩
  · cases front with
    | nil =>
      rw [List.append_nil] at hfront
      exact Or.inr ⟨[], by rw [hfront, List.append_nil], { h with text := hmajor.symm }⟩
    | cons d ds =>
      obtain ⟨e, es, hes⟩ := List.exists_cons_of_ne_nil h.major_ne
      have hd : isDecimalDigit d = true := by
        rw [hes] at hmajor
        exact (List.cons.inj hmajor).1 ▸ h.major e (hes ▸ List.mem_cons_self)
      obtain ⟨run', hbefore, hrun'⟩ := hrun.eq_append hd hfront
      -- the run ends where the digits of the major number do
      have hdigits : ∀ c ∈ d :: ds, isDecimalDigit c = true := fun c hc =>
        hrun.run c (hrun' ▸ List.mem_append_right run' hc)
      have hsame : d :: ds = major := by
        rw [← takeWhile_run hdigits hrun.stops, ← hmajor, takeWhile_run h.major (stops_underscore _)]
      rw [hsame] at hmajor
      exact Or.inl ⟨run', hbefore, (List.append_cancel_left hmajor).symm⟩

end Cases

/-! ## Finding the first -/

/-- what a search does at the first run of digits -/
theorem findVersion_step (fuel : Nat) (s : List Char) :
    ∃ skip run rest, FirstRun s skip run rest ∧ (rest ≠ [] → run ≠ []) ∧
      findVersion (fuel + 1) s = (match rest with
        | [] => none
        | c :: r =>
          if c = '_' ∧ r.takeWhile isDecimalDigit ≠ [] then some (run, r.takeWhile isDecimalDigit)
          else findVersion fuel (c :: r)) := by
  let found := s.dropWhile fun c => !isDecimalDigit c
  have hdrop : found.drop (found.takeWhile isDecimalDigit).length = found.dropWhile isDecimalDigit := by
    calc
      found.drop (found.takeWhile isDecimalDigit).length
      _ = (found.takeWhile isDecimalDigit ++ found.dropWhile isDecimalDigit).drop
          (found.takeWhile isDecimalDigit).length := by rw [List.takeWhile_append_dropWhile]
      _ = found.dropWhile isDecimalDigit := List.drop_left
  refine ⟨s.takeWhile fun c => !isDecimalDigit c, found.takeWhile isDecimalDigit, found.dropWhile isDecimalDigit,
    ⟨?_, ?_, ?_, head?_dropWhile_digit found⟩, ?_, ?_⟩
  · rw [List.append_assoc, List.takeWhile_append_dropWhile, List.takeWhile_append_dropWhile]
  · intro c hc
    simpa using List.mem_takeWhile_imp hc
  · exact fun c hc => List.mem_takeWhile_imp hc
  · -- what is left begins with a digit
    intro hne hnil
    have hhead := List.head?_dropWhile_not (fun c => !isDecimalDigit c) s
    cases hfound : found with
    | nil =>
      rw [hfound] at hne
      exact hne rfl
    | cons d ds =>
      rw [show s.dropWhile (fun c => !isDecimalDigit c) = d :: ds from hfound] at hhead
      rw [hfound, List.takeWhile_cons_of_pos (by simpa using hhead)] at hnil
      cases hnil
  · rw [← hdrop]
    rfl

theorem findVersion_spec {fuel : Nat} {s : List Char} (hfuel : s.length < fuel) :
    (∀ major minor, findVersion fuel s = some (major, minor) → FirstWritten s major minor) ∧
      (findVersion fuel s = none → ∀ before major minor behind, ¬WrittenAt s before major minor behind) := by
  induction fuel generalizing s with
  | zero => exact absurd hfuel (Nat.not_lt_zero _)
  | succ fuel ih =>
    obtain ⟨skip, run, rest, hrun, hne, hstep⟩ := findVersion_step fuel s
    rw [hstep]
    cases rest with
    | nil =>
      refine ⟨nofun, fun _ before major minor behind h => ?_⟩
      rcases h.cases hrun with ⟨_, _, hrest⟩ | ⟨_, _, hrest⟩
      · cases hrest
      · simpa using hrest.text
    | cons c r =>
      have hrun_ne := hne (List.cons_ne_nil c r)
      have hbehind := head?_dropWhile_digit r
      have hsplit : r = r.takeWhile isDecimalDigit ++ r.dropWhile isDecimalDigit := List.takeWhile_append_dropWhile.symm
      dsimp only
      split
      · rename_i hfound
        obtain ⟨rfl, hminor⟩ := hfound
        refine ⟨fun major minor h => ?_, nofun⟩
        cases h
        refine ⟨skip, r.dropWhile isDecimalDigit, ⟨?_, hrun_ne, hminor, hrun.run, ?_, hbehind⟩, ?_⟩
        · rw [← hsplit, hrun.text, List.append_assoc]
        · exact fun c hc => List.mem_takeWhile_imp hc
        · intro before' major' minor' behind' h
          rcases h.cases hrun with ⟨run', rfl, -⟩ | ⟨b, rfl, -⟩ <;> simp
      · rename_i hnot
        -- no version is written at this run
        have hlater : ∀ {before major minor behind}, WrittenAt s before major minor behind →
            ∃ b, before = skip ++ run ++ b ∧ WrittenAt (c :: r) b major minor behind := by
          intro before major minor behind h
          rcases h.cases hrun with ⟨_, _, hrest⟩ | hlater
          · obtain ⟨rfl, rfl⟩ := List.cons.inj hrest
            exact absurd ⟨rfl, by rw [takeWhile_run h.minor h.stops]; exact h.minor_ne⟩ hnot
          · exact hlater
        have hlength : (c :: r).length < fuel := by
          have := congrArg List.length hrun.text
          have := List.length_pos_of_ne_nil hrun_ne
          simp only [List.length_append] at *
          omega
        obtain ⟨hfirst, hnone⟩ := ih hlength
        refine ⟨fun major minor h => ?_, fun h before major minor behind hwritten => ?_⟩
        · obtain ⟨before, behind, hwritten, hmin⟩ := hfirst major minor h
          refine ⟨skip ++ run ++ before, behind, { hwritten with text := ?_ }, ?_⟩
          · rw [hrun.text, hwritten.text, ← List.append_assoc]
          · intro before' major' minor' behind' h'
            obtain ⟨b, rfl, hb⟩ := hlater h'
            have := hmin b major' minor' behind' hb
            simp only [List.length_append]
            omega
        · obtain ⟨b, -, hwritten⟩ := hlater hwritten
          exact hnone h b major minor behind hwritten

theorem WrittenAt.first_unique {s major minor major' minor' : List Char} (h : FirstWritten s major minor)
    (h' : FirstWritten s major' minor') : major = major' ∧ minor = minor' := by
  obtain ⟨before, behind, hw, hmin⟩ := h
  obtain ⟨before', behind', hw', hmin'⟩ := h'
  have hlength : before.length = before'.length :=
    le_antisymm (hmin _ _ _ _ hw') (hmin' _ _ _ _ hw)
  obtain ⟨-, hrest⟩ := List.append_inj (hw.text.symm.trans hw'.text) hlength
  have hmajor : major = major' := by
    rw [← takeWhile_run hw.major (stops_underscore _), hrest, takeWhile_run hw'.major (stops_underscore _)]
  subst hmajor
  have hbehind := (List.cons.inj (List.append_cancel_left hrest)).2
  exact ⟨rfl, by rw [← takeWhile_run hw.minor hw.stops, hbehind, takeWhile_run hw'.minor hw'.stops]⟩

/-- **The search finds the first version that is written.** -/
theorem findVersion_eq_some_iff {s major minor : List Char} :
    findVersion (s.length + 1) s = some (major, minor) ↔ FirstWritten s major minor := by
  obtain ⟨hfirst, hnone⟩ := findVersion_spec (Nat.lt_succ_self s.length)
  refine ⟨hfirst major minor, fun h => ?_⟩
  cases hfound : findVersion (s.length + 1) s with
  | none =>
    obtain ⟨before, behind, hw, -⟩ := h
    exact absurd hw (hnone hfound before major minor behind)
  | some found =>
    obtain ⟨rfl, rfl⟩ := WrittenAt.first_unique (hfirst found.1 found.2 hfound) h
    rfl

/-! ## Versions held by text -/

/-- digits of a number that fits in a word -/
structure Spells (ds : List Char) (n : Nat) : Prop where
  ascii : ∀ c ∈ ds, c.isDigit = true
  value : Decimal.digitsValue ds = n
  fits : n < Nat.pow 2 64

/-- the first version that is written in a text -/
def Version.HeldBy (v : Version) (text : String) : Prop :=
  ∃ major minor, FirstWritten text.toList major minor ∧ Spells major v.major ∧ Spells minor v.minor

theorem versionNumber?_eq_some_iff {ds : List Char} {n : Nat} : versionNumber? ds = some n ↔ Spells ds n := by
  unfold versionNumber?
  constructor
  · intro h
    dsimp only at h
    split at h
    · rename_i hds
      cases h
      exact ⟨List.all_eq_true.1 hds.1, rfl, hds.2⟩
    · cases h
  · rintro ⟨hascii, rfl, hfits⟩
    exact if_pos ⟨List.all_eq_true.2 hascii, hfits⟩

/-- **A text is read as the version that it holds.** -/
theorem versionIn?_eq_some_iff {text : String} {v : Version} : versionIn? text = some v ↔ v.HeldBy text := by
  have hbind : versionIn? text = (findVersion (text.toList.length + 1) text.toList).bind fun p =>
      (versionNumber? p.1).bind fun a => (versionNumber? p.2).bind fun b => some ⟨a, b⟩ := rfl
  rw [hbind]
  constructor
  · intro h
    obtain ⟨⟨major, minor⟩, hfound, h⟩ := Option.bind_eq_some_iff.1 h
    obtain ⟨a, ha, h⟩ := Option.bind_eq_some_iff.1 h
    obtain ⟨b, hb, h⟩ := Option.bind_eq_some_iff.1 h
    cases h
    exact ⟨major, minor, findVersion_eq_some_iff.1 hfound, versionNumber?_eq_some_iff.1 ha,
      versionNumber?_eq_some_iff.1 hb⟩
  · rintro ⟨major, minor, hfirst, ha, hb⟩
    rw [findVersion_eq_some_iff.2 hfirst, Option.bind_some, versionNumber?_eq_some_iff.2 ha, Option.bind_some,
      versionNumber?_eq_some_iff.2 hb, Option.bind_some]

end MetricQuery.Builtin
