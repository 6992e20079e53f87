/-
Releases that are lined up.

A mark series stands for a release (`Released`): its last node holds the version, and the release is at the last point at
which it fires. The mark of a major version (`IsMark`) is the release of the largest minor version, that of the first
series where several stand for it. `latestMarks` sorts the releases with the newest first, which keeps releases of one
version in order of the input, and keeps the first of each major version, so what it keeps are these marks
(`mem_latestMarks`). Each series then goes to the newest mark from its own (`timeShiftByMetric_lines_up`).

How far it goes is a number of points times a step, which is not checked. `linedUp64` are the same series with every
number on the way checked (`Checks`).
-/
import MetricQuery.Proofs.Builtin.Versions
import MetricQuery.Proofs.Engine.Regime
import MetricQuery.Proofs.Series.Range

namespace MetricQuery.Builtin

open Target (Call)
open Time (Window)

/-! ## Releases -/

/-- a sample is present and not zero -/
def Fires (xs : List Float) (i : Nat) : Prop :=
  ∃ x, xs[i]? = some x ∧ x.isNaN = false ∧ (x != 0.0) = true

/-- a mark series stands for a release -/
structure Released (s : Series) (m : Mark) : Prop where
  version : ∃ node, (Text.split '.' s.name).getLast? = some node ∧ m.version.HeldBy node
  fires : Fires s.values m.position
  last : ∀ i, m.position < i → ¬Fires s.values i

/-- a release is the mark of its major version: of the largest minor version, and of the first series for that -/
structure IsMark (marks : List Series) (m : Mark) : Prop where
  newest : ∀ s ∈ marks, ∀ n, Released s n → n.version.major = m.version.major → n.version.minor ≤ m.version.minor
  first : ∃ before s after, marks = before ++ s :: after ∧ Released s m ∧
    ∀ s' ∈ before, ∀ n, Released s' n → n.version ≠ m.version

theorem fires_append_singleton {xs : List Float} {x : Float} {i : Nat} :
    Fires (xs ++ [x]) i ↔ Fires xs i ∨ i = xs.length ∧ x.isNaN = false ∧ (x != 0.0) = true := by
  unfold Fires
  rcases Nat.lt_trichotomy i xs.length with hi | rfl | hi
  · simp [List.getElem?_append_left hi, Nat.ne_of_lt hi]
  · simp
  · have hxs : xs.length ≤ i := hi.le
    have hout : (xs ++ [x])[i]? = none := by
      rw [List.getElem?_eq_none]
      simpa using hi
    simp [hout, List.getElem?_eq_none hxs, Nat.ne_of_gt hi]

theorem lastFiring_append_singleton (xs : List Float) (x : Float) :
    lastFiring (xs ++ [x]) = if (!x.isNaN && x != 0.0) = true then some xs.length else lastFiring xs := by
  unfold lastFiring
  rw [List.zipIdx_append, List.reverse_append]
  simp only [List.zipIdx_cons, List.zipIdx_nil, Nat.zero_add, List.reverse_singleton, List.singleton_append,
    List.find?_cons]
  split <;> simp_all

theorem lastFiring_eq_some_iff {xs : List Float} {p : Nat} :
    lastFiring xs = some p ↔ Fires xs p ∧ ∀ i, p < i → ¬Fires xs i := by
  induction xs using List.reverseRecOn with
  | nil => simp [lastFiring, Fires]
  | append_singleton xs x ih =>
    rw [lastFiring_append_singleton]
    split
    · rename_i hx
      rw [Bool.and_eq_true, Bool.not_eq_true'] at hx
      have hlast : Fires (xs ++ [x]) xs.length := fires_append_singleton.2 (Or.inr ⟨rfl, hx⟩)
      constructor
      · intro h
        cases h
        refine ⟨hlast, fun i hi hfires => ?_⟩
        obtain ⟨y, hy, -⟩ := hfires
        obtain ⟨hlength, -⟩ := List.getElem?_eq_some_iff.1 hy
        rw [List.length_append, List.length_singleton] at hlength
        omega
      · rintro ⟨⟨y, hy, -⟩, hmax⟩
        obtain ⟨hlength, -⟩ := List.getElem?_eq_some_iff.1 hy
        rw [List.length_append, List.length_singleton] at hlength
        by_contra hne
        exact hmax xs.length (by grind) hlast
    · rename_i hx
      rw [Bool.and_eq_true, Bool.not_eq_true'] at hx
      simp only [fires_append_singleton, hx, and_false, or_false, ih]

theorem markOf_eq_some_iff {s : Series} {m : Mark} : markOf s = some m ↔ Released s m := by
  obtain ⟨v, p⟩ := m
  have hne : Text.split '.' s.name ≠ [] := by simp [Text.split, Text.splitAt_ne_nil]
  have hnode : (Text.split '.' s.name).getLast? = some ((Text.split '.' s.name).getLastD "") := by
    rw [List.getLastD_eq_getLast?, List.getLast?_eq_some_getLast hne, Option.getD_some]
  have hbind : markOf s = (versionIn? ((Text.split '.' s.name).getLastD "")).bind fun version =>
      (lastFiring s.values).bind fun position => some ⟨version, position⟩ := rfl
  rw [hbind]
  constructor
  · intro h
    obtain ⟨v, hv, h⟩ := Option.bind_eq_some_iff.1 h
    obtain ⟨p, hp, h⟩ := Option.bind_eq_some_iff.1 h
    cases h
    obtain ⟨hfires, hlast⟩ := lastFiring_eq_some_iff.1 hp
    exact ⟨⟨_, hnode, versionIn?_eq_some_iff.1 hv⟩, hfires, hlast⟩
  · rintro ⟨⟨node, hlast, hv⟩, hfires, hmax⟩
    rw [hnode] at hlast
    cases hlast
    rw [versionIn?_eq_some_iff.2 hv, Option.bind_some, lastFiring_eq_some_iff.2 ⟨hfires, hmax⟩, Option.bind_some]

/-- the first series that stands for a version, among the releases that can be read -/
theorem first_released_iff {marks : List Series} {m : Mark} :
    (∃ before s after, marks = before ++ s :: after ∧ Released s m ∧
      ∀ s' ∈ before, ∀ n, Released s' n → n.version ≠ m.version) ↔
    ∃ before after, marks.filterMap markOf = before ++ m :: after ∧ ∀ n ∈ before, n.version ≠ m.version := by
  constructor
  · rintro ⟨before, s, after, rfl, hs, hbefore⟩
    refine ⟨before.filterMap markOf, after.filterMap markOf, ?_, fun n hn => ?_⟩
    · rw [List.filterMap_append, List.filterMap_cons_some (markOf_eq_some_iff.2 hs)]
    · obtain ⟨s', hs', hn⟩ := List.mem_filterMap.1 hn
      exact hbefore s' hs' n (markOf_eq_some_iff.1 hn)
  · rintro ⟨before, after, hread, hbefore⟩
    obtain ⟨l₁, l₂, rfl, rfl, hl₂⟩ := List.filterMap_eq_append_iff.1 hread
    obtain ⟨skipped, s, l₃, rfl, hskipped, hs, -⟩ := List.filterMap_eq_cons_iff.1 hl₂
    refine ⟨l₁ ++ skipped, s, l₃, by rw [List.append_assoc], markOf_eq_some_iff.1 hs, fun s' hs' n hn => ?_⟩
    rcases List.mem_append.1 hs' with h | h
    · exact hbefore n (List.mem_filterMap.2 ⟨s', h, markOf_eq_some_iff.2 hn⟩)
    · rw [← markOf_eq_some_iff, hskipped s' h] at hn
      cases hn

/-! ## The latest of each major version -/

theorem newerOrSame_iff {a b : Mark} : a.newerOrSame b = true ↔
    b.version.major < a.version.major ∨ a.version.major = b.version.major ∧ b.version.minor ≤ a.version.minor := by
  simp [Mark.newerOrSame]

/-- newest first, with releases of one version in order of the input -/
structure NewestFirst (found sorted : List Mark) : Prop where
  ordered : sorted.Pairwise fun a b => a.newerOrSame b = true
  perm : sorted.Perm found
  stable : ∀ v, (sorted.filter fun m => m.version = v) = found.filter fun m => m.version = v

theorem newestFirst_mergeSort (found : List Mark) : NewestFirst found (found.mergeSort Mark.newerOrSame) := by
  have htrans : ∀ a b c : Mark, a.newerOrSame b = true → b.newerOrSame c = true → a.newerOrSame c = true := by
    intro a b c
    simp only [newerOrSame_iff]
    omega
  have htotal : ∀ a b : Mark, (a.newerOrSame b || b.newerOrSame a) = true := by
    intro a b
    rw [Bool.or_eq_true, newerOrSame_iff, newerOrSame_iff]
    omega
  have hperm := List.mergeSort_perm found Mark.newerOrSame
  refine ⟨List.pairwise_mergeSort htrans htotal found, hperm, fun v => ?_⟩
  -- releases of one version stand in any order, so the sort keeps theirs
  have hsame : (found.filter fun m => m.version = v).Pairwise fun a b => a.newerOrSame b = true := by
    refine List.pairwise_of_forall_mem_list fun a ha b hb => ?_
    have ha' := (List.mem_filter.1 ha).2
    have hb' := (List.mem_filter.1 hb).2
    simp only [decide_eq_true_eq] at ha' hb'
    exact newerOrSame_iff.2 (Or.inr ⟨by rw [ha', hb'], by rw [ha', hb']⟩)
  have hsub := (List.sublist_mergeSort htrans htotal hsame List.filter_sublist).filter fun m => m.version = v
  rw [List.filter_filter, List.filter_congr fun m _ => Bool.and_self _] at hsub
  exact (hsub.eq_of_length (hperm.filter _).length_eq.symm).symm

/-- the mark of the newest release, and those of the releases behind it with other major versions -/
theorem firstOfMajor_cons {m : Mark} {rest : List Mark}
    (hrest : (firstOfMajor rest).Pairwise fun a b => b.version.major < a.version.major)
    (hm : ∀ n ∈ firstOfMajor rest, n.version.major ≤ m.version.major) :
    firstOfMajor (m :: rest) = m :: (firstOfMajor rest).filter fun n => n.version.major ≠ m.version.major := by
  rw [firstOfMajor]
  split
  · rename_i hnil
    rw [hnil]
    rfl
  · rename_i n more hcons
    rw [hcons] at hrest hm ⊢
    obtain ⟨hmore, -⟩ := List.pairwise_cons.1 hrest
    have hn := hm n List.mem_cons_self
    have hkeep : (more.filter fun n => n.version.major ≠ m.version.major) = more := by
      refine List.filter_eq_self.2 fun k hk => ?_
      have := hmore k hk
      simp only [decide_eq_true_eq]
      omega
    split
    · rename_i heq
      rw [List.filter_cons_of_neg (by simp [heq]), hkeep]
    · rename_i hne
      rw [List.filter_cons_of_pos (by simp [hne]), hkeep]

/-- **Of releases with falling major versions, the first of each major version is kept.** -/
theorem firstOfMajor_spec {l : List Mark} (h : l.Pairwise fun a b => b.version.major ≤ a.version.major) :
    (firstOfMajor l).Pairwise (fun a b => b.version.major < a.version.major) ∧
      ∀ m, m ∈ firstOfMajor l ↔
        ∃ before after, l = before ++ m :: after ∧ ∀ n ∈ before, n.version.major ≠ m.version.major := by
  induction l with
  | nil => simp [firstOfMajor]
  | cons a rest ih =>
    obtain ⟨ha, hrest⟩ := List.pairwise_cons.1 h
    obtain ⟨hdecreasing, hmem⟩ := ih hrest
    have hle : ∀ n ∈ firstOfMajor rest, n.version.major ≤ a.version.major := by
      intro n hn
      obtain ⟨before, after, rfl, -⟩ := (hmem n).1 hn
      exact ha n (List.mem_append_right before List.mem_cons_self)
    rw [firstOfMajor_cons hdecreasing hle]
    constructor
    · refine List.pairwise_cons.2 ⟨fun n hn => ?_, hdecreasing.filter _⟩
      obtain ⟨hn, hne⟩ := List.mem_filter.1 hn
      have := hle n hn
      simp only [decide_eq_true_eq] at hne
      omega
    · intro m
      rw [List.mem_cons, List.mem_filter, hmem, decide_eq_true_eq]
      constructor
      · rintro (rfl | ⟨⟨before, after, rfl, hbefore⟩, hne⟩)
        · exact ⟨[], rest, rfl, nofun⟩
        · exact ⟨a :: before, after, rfl, List.forall_mem_cons.2 ⟨fun heq => hne heq.symm, hbefore⟩⟩
      · rintro ⟨before, after, hsplit, hbefore⟩
        cases before with
        | nil => exact Or.inl (List.cons.inj hsplit).1.symm
        | cons b before =>
          obtain ⟨rfl, rfl⟩ := List.cons.inj hsplit
          obtain ⟨hne, hbefore⟩ := List.forall_mem_cons.1 hbefore
          exact Or.inr ⟨⟨before, after, rfl, hbefore⟩, fun heq => hne heq.symm⟩

/-- a release is the first of its major version among the sorted ones exactly if it is of the largest minor version and
the first of its version among the listed ones -/
theorem NewestFirst.first_iff {found sorted : List Mark} (h : NewestFirst found sorted) {m : Mark} :
    (∃ before after, sorted = before ++ m :: after ∧ ∀ n ∈ before, n.version.major ≠ m.version.major) ↔
    (∀ n ∈ found, n.version.major = m.version.major → n.version.minor ≤ m.version.minor) ∧
      ∃ before after, found = before ++ m :: after ∧ ∀ n ∈ before, n.version ≠ m.version := by
  have hfirst : ∀ {l : List Mark}, (∃ before after, l = before ++ m :: after ∧ ∀ n ∈ before, n.version ≠ m.version) ↔
      ∃ more, (l.filter fun n => n.version = m.version) = m :: more := by
    intro l
    constructor
    · rintro ⟨before, after, rfl, hbefore⟩
      refine ⟨_, List.filter_eq_cons_iff.2 ⟨before, after, rfl, ?_, by simp, rfl⟩⟩
      intro n hn
      simpa using hbefore n hn
    · rintro ⟨more, hmore⟩
      obtain ⟨before, after, rfl, hbefore, -, -⟩ := List.filter_eq_cons_iff.1 hmore
      exact ⟨before, after, rfl, fun n hn => by simpa using hbefore n hn⟩
  have hordered := h.ordered
  constructor
  · rintro ⟨before, after, rfl, hbefore⟩
    constructor
    · intro n hn hmajor
      rcases List.mem_append.1 (h.perm.mem_iff.2 hn) with hn | hn
      · exact absurd hmajor (hbefore n hn)
      · rcases List.mem_cons.1 hn with rfl | hn
        · exact le_rfl
        · have hle := (List.pairwise_cons.1 (List.pairwise_append.1 hordered).2.1).1 n hn
          rw [newerOrSame_iff] at hle
          omega
    · rw [hfirst, ← h.stable]
      exact hfirst.1 ⟨before, after, rfl, fun n hn heq => hbefore n hn (congrArg Version.major heq)⟩
  · rintro ⟨hmax, hfound⟩
    rw [hfirst, ← h.stable, ← hfirst] at hfound
    obtain ⟨before, after, rfl, hbefore⟩ := hfound
    refine ⟨before, after, rfl, fun n hn hmajor => hbefore n hn ?_⟩
    -- one before it with its major version has its version
    have hle := (List.pairwise_append.1 hordered).2.2 n hn m List.mem_cons_self
    have hge := hmax n (h.perm.mem_iff.1 (List.mem_append_left _ hn)) hmajor
    rw [newerOrSame_iff] at hle
    obtain ⟨⟨a, b⟩, p⟩ := n
    obtain ⟨⟨a', b'⟩, p'⟩ := m
    simp only at hmajor hle hge
    simp only [Version.mk.injEq]
    omega

/-- **The latest releases are the marks of the major versions, newest first.** -/
theorem latestMarks_spec (marks : List Series) :
    (latestMarks marks).Pairwise (fun a b => b.version.major < a.version.major) ∧
      ∀ m, m ∈ latestMarks marks ↔ IsMark marks m := by
  have hsorted := newestFirst_mergeSort (marks.filterMap markOf)
  obtain ⟨hdecreasing, hmem⟩ := firstOfMajor_spec (hsorted.ordered.imp fun h => by
    rw [newerOrSame_iff] at h
    omega)
  refine ⟨hdecreasing, fun m => (hmem m).trans ?_⟩
  rw [hsorted.first_iff, ← first_released_iff]
  constructor
  · rintro ⟨hnewest, hfirst⟩
    exact ⟨fun s hs n hn => hnewest n (List.mem_filterMap.2 ⟨s, hs, markOf_eq_some_iff.2 hn⟩), hfirst⟩
  · rintro ⟨hnewest, hfirst⟩
    refine ⟨fun n hn => ?_, hfirst⟩
    obtain ⟨s, hs, hn⟩ := List.mem_filterMap.1 hn
    exact hnewest s hs n (markOf_eq_some_iff.1 hn)

theorem mem_latestMarks {marks : List Series} {m : Mark} : m ∈ latestMarks marks ↔ IsMark marks m :=
  (latestMarks_spec marks).2 m

/-- a major version has one mark -/
theorem IsMark.unique {marks : List Series} {m n : Mark} (hm : IsMark marks m) (hn : IsMark marks n)
    (h : m.version.major = n.version.major) : m = n := by
  have hdistinct : ((latestMarks marks).map fun m => m.version.major).Nodup :=
    List.pairwise_map.2 ((latestMarks_spec marks).1.imp fun hlt => (Nat.ne_of_lt hlt).symm)
  exact List.inj_on_of_nodup_map hdistinct (mem_latestMarks.2 hm) (mem_latestMarks.2 hn) h

theorem find?_latestMarks {marks : List Series} {major : Nat} {m : Mark} :
    (latestMarks marks).find? (fun m => m.version.major == major) = some m ↔
      IsMark marks m ∧ m.version.major = major := by
  constructor
  · intro h
    exact ⟨mem_latestMarks.1 (List.mem_of_find?_eq_some h), by simpa using List.find?_some h⟩
  · rintro ⟨hm, hmajor⟩
    cases hfind : (latestMarks marks).find? fun m => m.version.major == major with
    | none => exact absurd hmajor (by simpa using List.find?_eq_none.1 hfind m (mem_latestMarks.2 hm))
    | some n =>
      have hn := mem_latestMarks.1 (List.mem_of_find?_eq_some hfind)
      have hn_major : n.version.major = major := by simpa using List.find?_some hfind
      rw [hn.unique hm (hn_major.trans hmajor.symm)]

/-! ## Series lined up -/

/-- the mark by which a series moves: that of the major version held by its node at `rank` -/
structure Follows (marks : List Series) (rank : Nat) (s : Series) (m : Mark) : Prop where
  mark : IsMark marks m
  node : ∃ node v, (Text.split '.' s.name)[rank]? = some node ∧ Version.HeldBy v node ∧ v.major = m.version.major

/-- a series follows one mark -/
theorem Follows.unique {marks : List Series} {rank : Nat} {s : Series} {m n : Mark} (hm : Follows marks rank s m)
    (hn : Follows marks rank s n) : m = n := by
  obtain ⟨node, v, hnode, hv, hmajor⟩ := hm.node
  obtain ⟨node', v', hnode', hv', hmajor'⟩ := hn.node
  cases hnode.symm.trans hnode'
  cases (versionIn?_eq_some_iff.2 hv).symm.trans (versionIn?_eq_some_iff.2 hv')
  exact hm.mark.unique hn.mark (hmajor.symm.trans hmajor')

/-- a series moved so that the point of its mark comes to that of the newest mark -/
structure LinedUp (newest mark : Mark) (s out : Series) : Prop where
  name_eq : out.name = s!"timeShiftByMetric({s.name})"
  grid : out.start = s.start ∧ out.step = s.step ∧ out.stop = s.start + s.values.length * s.step
  length_eq : out.values.length = s.values.length
  moved : ∀ i j : Nat, (j : Int) = i - (newest.position - mark.position) → i < s.values.length → j < s.values.length →
    out.values[i]? = s.values[j]?
  missing : ∀ i : Nat, i < s.values.length →
    (∀ j : Nat, j < s.values.length → (j : Int) ≠ i - (newest.position - mark.position)) →
    out.values[i]? = some Decimal.nan
  tag : out.tags.get? "timeShiftByMetric" = some (toString ((newest.position - mark.position : Int) * s.step))
  tags : ∀ key ≠ "timeShiftByMetric", out.tags.get? key = s.tags.get? key

theorem length_shiftPoints (xs : List Float) (offset : Int) : (shiftPoints xs offset).length = xs.length := by
  unfold shiftPoints Series.missing
  split
  · simp
  · simp
    omega

/-- where a sample comes from -/
theorem getElem?_shiftPoints {xs : List Float} (offset : Int) {i : Nat} (hi : i < xs.length) :
    (shiftPoints xs offset)[i]? =
      some (if 0 ≤ i - offset then xs[(i - offset).toNat]?.getD Decimal.nan else Decimal.nan) := by
  unfold shiftPoints Series.missing
  split
  · rename_i hoffset
    obtain ⟨k, rfl⟩ := Int.eq_ofNat_of_zero_le hoffset
    rw [List.getElem?_take_of_lt hi, Int.toNat_natCast]
    by_cases hik : i < k
    · rw [List.getElem?_append_left (by simpa using hik), List.getElem?_replicate, if_pos hik, if_neg (by omega)]
    · have hback : ((i : Int) - k).toNat = i - k := by omega
      have hin : i - k < xs.length := by omega
      rw [List.getElem?_append_right (by simpa using hik), List.length_replicate, if_pos (by omega), hback,
        List.getElem?_eq_getElem hin, Option.getD_some]
  · rename_i hoffset
    have hahead : ((i : Int) - offset).toNat = offset.natAbs + i := by omega
    rw [if_pos (by omega), hahead]
    by_cases hin : offset.natAbs + i < xs.length
    · rw [List.getElem?_append_left (by rw [List.length_drop]; omega), List.getElem?_drop,
        List.getElem?_eq_getElem hin, Option.getD_some]
    · rw [List.getElem?_append_right (by rw [List.length_drop]; omega), List.getElem?_replicate,
        if_pos (by rw [List.length_drop]; omega), List.getElem?_eq_none (by omega), Option.getD_none]

/-- a series lined up by a mark -/
def moveTo (newest mark : Mark) (s : Series) : Series :=
  ((s.shell s!"timeShiftByMetric({s.name})").withValues
    (shiftPoints s.values (newest.position - mark.position))).withTag
    "timeShiftByMetric" (toString ((newest.position - mark.position : Int) * s.step))

/-- the mark found for a series, by the version that its node at `rank` holds -/
def markFor (latest : List Mark) (rank : Nat) (s : Series) : Option Mark :=
  ((Text.split '.' s.name)[rank]?).bind fun node => (versionIn? node).bind fun version =>
    latest.find? fun m => m.version.major == version.major

theorem lineUp_eq (latest : List Mark) (newest : Mark) (rank : Nat) (s : Series) :
    lineUp latest newest rank s = (markFor latest rank s).map fun m => moveTo newest m s := by
  have hbind : lineUp latest newest rank s =
      ((Text.split '.' s.name)[rank]?).bind fun node => (versionIn? node).bind fun version =>
        (latest.find? fun m => m.version.major == version.major).bind fun m => some (moveTo newest m s) := rfl
  rw [hbind, markFor, Option.map_eq_bind]
  simp only [Option.bind_assoc, Function.comp_def]

theorem markFor_eq_some_iff {marks : List Series} {rank : Nat} {s : Series} {m : Mark} :
    markFor (latestMarks marks) rank s = some m ↔ Follows marks rank s m := by
  constructor
  · intro h
    obtain ⟨node, hnode, h⟩ := Option.bind_eq_some_iff.1 h
    obtain ⟨v, hv, h⟩ := Option.bind_eq_some_iff.1 h
    obtain ⟨hmark, hmajor⟩ := find?_latestMarks.1 h
    exact ⟨hmark, node, v, hnode, versionIn?_eq_some_iff.1 hv, hmajor.symm⟩
  · rintro ⟨hmark, node, v, hnode, hv, hmajor⟩
    rw [markFor, hnode, Option.bind_some, versionIn?_eq_some_iff.2 hv, Option.bind_some]
    exact find?_latestMarks.2 ⟨hmark, hmajor.symm⟩

theorem lineUp_eq_some_iff {marks : List Series} {newest : Mark} {rank : Nat} {s out : Series} :
    lineUp (latestMarks marks) newest rank s = some out ↔ ∃ m, Follows marks rank s m ∧ out = moveTo newest m s := by
  rw [lineUp_eq, Option.map_eq_some_iff]
  exact exists_congr fun m => and_congr markFor_eq_some_iff eq_comm

theorem linedUp_moveTo (newest m : Mark) (s : Series) : LinedUp newest m s (moveTo newest m s) where
  name_eq := rfl
  grid := ⟨rfl, rfl, by rw [← length_shiftPoints s.values (newest.position - m.position)]; rfl⟩
  length_eq := length_shiftPoints _ _
  moved i j h hi hj := by
    show (shiftPoints s.values _)[i]? = _
    have hback : ((i : Int) - (newest.position - m.position)).toNat = j := by omega
    rw [getElem?_shiftPoints _ hi, if_pos (by omega), hback, List.getElem?_eq_getElem hj, Option.getD_some]
  missing i hi h := by
    show (shiftPoints s.values _)[i]? = _
    rw [getElem?_shiftPoints _ hi]
    split
    · rename_i hback
      have hout : s.values.length ≤ ((i : Int) - (newest.position - m.position)).toNat := by
        by_contra hin
        exact h _ (Nat.lt_of_not_le hin) (Int.toNat_of_nonneg hback)
      rw [List.getElem?_eq_none hout, Option.getD_none]
    · rfl
  tag := Keyed.get?_insert_self _ _ _
  tags key hkey := Keyed.get?_insert_of_ne _ _ hkey

open scoped Classical in
theorem forall₂_lineUp (marks : List Series) (newest : Mark) (rank : Nat) (metrics : List Series) :
    List.Forall₂ (fun s out => ∃ m, Follows marks rank s m ∧ LinedUp newest m s out)
      (metrics.filter fun s => ∃ m, Follows marks rank s m)
      (metrics.filterMap (lineUp (latestMarks marks) newest rank)) := by
  induction metrics with
  | nil => exact List.Forall₂.nil
  | cons s metrics ih =>
    cases hline : lineUp (latestMarks marks) newest rank s with
    | some out =>
      obtain ⟨m, hm, hout⟩ := lineUp_eq_some_iff.1 hline
      have hfollows : ∃ m, Follows marks rank s m := ⟨m, hm⟩
      rw [List.filterMap_cons_some hline, List.filter_cons_of_pos (by simpa using hfollows)]
      exact List.Forall₂.cons ⟨m, hm, hout ▸ linedUp_moveTo newest m s⟩ ih
    | none =>
      have hnot : ¬∃ m, Follows marks rank s m := by
        rintro ⟨m, hm⟩
        rw [lineUp_eq_some_iff.2 ⟨m, hm, rfl⟩] at hline
        cases hline
      rw [List.filterMap_cons_none hline, List.filter_cons_of_neg (by simpa using hnot)]
      exact ih

/-! ## In 64 bits -/

/-- the sample at an index, missing where there is none -/
def pointAt (xs : List Float) (i : Int) : Float :=
  if 0 ≤ i then xs[i.toNat]?.getD Decimal.nan else Decimal.nan

/-- `shiftPoints` with its numbers checked: where each sample comes from -/
def shiftPoints64 (xs : List Float) (offset : Int) : Option (List Float) :=
  (List.range xs.length).mapM fun (index : Nat) => do
    let place ← Time.checked index
    let source ← Time.checked (place - offset)
    some (pointAt xs source)

/-- `moveTo` with its numbers checked -/
def moveTo64 (newest mark : Mark) (s : Series) : Option Series := do
  let target ← Time.checked newest.position
  let position ← Time.checked mark.position
  let offset ← Time.checked (target - position)
  let values ← shiftPoints64 s.values offset
  let moved ← (s.shell s!"timeShiftByMetric({s.name})").withValues64 values
  let time ← Time.checked (offset * s.step)
  some (moved.withTag "timeShiftByMetric" (toString time))

/-- the series with marks, each moved with its numbers checked -/
def linedUp64 (marks : List Series) (newest : Mark) (rank : Nat) (metrics : List Series) : Option (List Series) :=
  (metrics.filterMap fun s => (markFor (latestMarks marks) rank s).map fun m => (m, s)).mapM fun (m, s) =>
    moveTo64 newest m s

theorem shiftPoints_eq (xs : List Float) (offset : Int) :
    shiftPoints xs offset = (List.range xs.length).map fun (i : Nat) => pointAt xs (i - offset) := by
  refine List.ext_getElem? fun i => ?_
  by_cases hi : i < xs.length
  · rw [getElem?_shiftPoints offset hi, List.getElem?_map, List.getElem?_range hi]
    rfl
  · rw [List.getElem?_eq_none (by rw [length_shiftPoints]; omega),
      List.getElem?_eq_none (by rw [List.length_map, List.length_range]; omega)]

theorem checks_moveTo64 (newest mark : Mark) (s : Series) :
    Checks (moveTo64 newest mark s) (moveTo newest mark s) := by
  have hvalues (offset : Int) : Checks (shiftPoints64 s.values offset) (shiftPoints s.values offset) := by
    rw [shiftPoints_eq]
    exact .mapM fun i _ => (Checks.checked _).bind <| (Checks.checked _).bind <| .some _
  refine (Checks.checked _).bind <| (Checks.checked _).bind <| (Checks.checked _).bind <| (hvalues _).bind ?_
  exact (Series.checks_withValues64 _ _).bind <| (Checks.checked _).bind <| .some _

theorem checks_linedUp64 (marks : List Series) (newest : Mark) (rank : Nat) (metrics : List Series) :
    Checks (linedUp64 marks newest rank metrics) (metrics.filterMap (lineUp (latestMarks marks) newest rank)) := by
  have hlined : metrics.filterMap (lineUp (latestMarks marks) newest rank) =
      (metrics.filterMap fun s => (markFor (latestMarks marks) rank s).map fun m => (m, s)).map fun (m, s) =>
        moveTo newest m s := by
    rw [List.map_filterMap]
    refine List.filterMap_congr fun s _ => ?_
    rw [lineUp_eq, Option.map_map]
    rfl
  rw [hlined]
  exact .mapM fun p _ => checks_moveTo64 newest p.1 p.2

/-- the samples of a series, and the time that they take up in either direction, fit in 64 bits -/
structure MovesIn64 (s : Series) : Prop where
  count : 2 * (s.values.length : Int) ≤ Time.greatest
  span : s.values.length * |s.step| ≤ Time.greatest
  start : Time.inRange s.start
  stop : Time.inRange (s.start + s.values.length * s.step)

/-- a number of steps no greater than that of the samples takes up a time that fits -/
theorem MovesIn64.checked_mul {s : Series} (h : MovesIn64 s) {steps : Int} (hlow : -s.values.length ≤ steps)
    (hhigh : steps ≤ s.values.length) : Time.checked (steps * s.step) = some (steps * s.step) := by
  have hsteps : |steps| ≤ s.values.length := abs_le.2 ⟨hlow, hhigh⟩
  have hbound : |steps * s.step| ≤ s.values.length * |s.step| := by
    rw [abs_mul]
    exact mul_le_mul_of_nonneg_right hsteps (abs_nonneg _)
  exact Time.checked_of_le h.span (abs_le.1 hbound).1 (abs_le.1 hbound).2

/-- marks stand at points of a series that is as long as those of the marks -/
theorem MovesIn64.moveTo64_eq {newest mark : Mark} {s : Series} (h : MovesIn64 s)
    (hnewest : newest.position < s.values.length) (hmark : mark.position < s.values.length) :
    moveTo64 newest mark s = some (moveTo newest mark s) := by
  have hcount := h.count
  have hsmall (n : Int) (hlow : -(2 * (s.values.length : Int)) ≤ n) (hhigh : n ≤ 2 * s.values.length) :
      Time.checked n = some n := Time.checked_of_le hcount hlow hhigh
  have hvalues : shiftPoints64 s.values (newest.position - mark.position) =
      some (shiftPoints s.values (newest.position - mark.position)) := by
    rw [shiftPoints_eq]
    refine mapM_eq_some fun i hi => ?_
    have hi := List.mem_range.1 hi
    rw [bind_checked (hsmall i (by omega) (by omega)), bind_checked (hsmall _ (by omega) (by omega))]
  have hmoved (name : String) :
      (s.shell name).withValues64 (shiftPoints s.values (newest.position - mark.position)) =
        some ((s.shell name).withValues (shiftPoints s.values (newest.position - mark.position))) := by
    have hstop : Time.checked (s.start + s.values.length * s.step) = some (s.start + s.values.length * s.step) :=
      if_pos h.stop
    simp only [Series.withValues64, Series.after64, Series.withValues, Series.shell, length_shiftPoints]
    rw [bind_checked (hsmall _ (by omega) (by omega)), bind_checked (h.checked_mul (by omega) le_rfl), hstop]
    rfl
  rw [moveTo64, bind_checked (hsmall _ (by omega) (by omega)), bind_checked (hsmall _ (by omega) (by omega)),
    bind_checked (hsmall _ (by omega) (by omega)), bind_checked hvalues, bind_checked (hmoved _),
    bind_checked (h.checked_mul (by omega) (by omega))]
  rfl

/-- lists that are accepted hold series of one length -/
theorem length_eq_of_checkLists {metrics marks : List Series} (h : checkLists metrics marks = .ok ()) {s r : Series}
    (hs : s ∈ metrics ++ marks) (hr : r ∈ metrics ++ marks) : s.values.length = r.values.length := by
  unfold checkLists at h
  split at h
  · cases h
  · split at h
    · cases h
    · cases metrics with
      | nil => simp at *
      | cons first rest =>
        dsimp only at h
        split at h
        · cases h
        · split at h
          · cases h
          · rename_i hsame
            have hall : ∀ t ∈ first :: rest ++ marks, t.values.length = first.values.length := fun t ht => by
              simpa using List.find?_eq_none.1 hsame t ht
            rw [hall s hs, hall r hr]

theorem IsMark.position_lt {metrics marks : List Series} (h : checkLists metrics marks = .ok ()) {m : Mark}
    (hm : IsMark marks m) {s : Series} (hs : s ∈ metrics) : m.position < s.values.length := by
  obtain ⟨before, r, after, rfl, hreleased, -⟩ := hm.first
  obtain ⟨x, hx, -⟩ := hreleased.fires
  have hlt := (List.getElem?_eq_some_iff.1 hx).1
  have hr : r ∈ before ++ r :: after := List.mem_append_right before List.mem_cons_self
  rwa [length_eq_of_checkLists h (List.mem_append_left _ hs) (List.mem_append_right metrics hr)]

theorem linedUp64_eq {metrics marks : List Series} (h : checkLists metrics marks = .ok ()) {newest : Mark}
    (hnewest : IsMark marks newest) (hmoves : ∀ s ∈ metrics, MovesIn64 s) (rank : Nat) :
    ∃ outs, linedUp64 marks newest rank metrics = some outs := by
  refine ⟨_, mapM_eq_some (g := fun p => moveTo newest p.1 p.2) fun p hp => ?_⟩
  obtain ⟨s, hs, hmark⟩ := List.mem_filterMap.1 hp
  obtain ⟨m, hm, rfl⟩ := Option.map_eq_some_iff.1 hmark
  have hfollows := markFor_eq_some_iff.1 hm
  exact (hmoves s hs).moveTo64_eq (hnewest.position_lt h hs) (hfollows.mark.position_lt h hs)

section LinesUp

variable {ops : Operands} {c : Call} {w : Window} {p q q' : Progress} {metrics marks : List Series} {rank : Nat}
  (hmetrics : (seriesAt ops c 0 w).runFrom p = (.ok metrics, q))
  (hmarks : (seriesAt ops c 1 w).runFrom q = (.ok marks, q'))
  (hrank : c.intOr "versionRankIndex" 2 0 = .ok (rank : Int)) (hlists : checkLists metrics marks = .ok ())
include hmetrics hmarks hrank hlists

theorem runFrom_timeShiftByMetric :
    (timeShiftByMetric.evaluate ops c w).runFrom p = (match latestMarks marks with
      | newest :: other :: rest =>
        (.ok (metrics.filterMap (lineUp (newest :: other :: rest) newest rank)), q')
      | few => (.error (.badData c.function (.tooFewVersions few.length)), q')) := by
  have hsome : ¬(rank : Int) < 0 := by omega
  have hread : (liftM (c.intOr "versionRankIndex" 2 0) : Eval Int).runFrom q' = (.ok (rank : Int), q') := by
    rw [hrank]
    rfl
  unfold timeShiftByMetric
  dsimp only
  rw [Eval.runFrom_bind_ok hmetrics, Eval.runFrom_bind_ok hmarks, Eval.runFrom_bind_ok hread, if_neg hsome]
  rw [hlists]
  dsimp only
  rcases latestMarks marks with _ | ⟨newest, _ | ⟨other, rest⟩⟩
  · rfl
  · rfl
  · rfl

/-- **Releases are lined up.** Where two major versions have marks, the series come out, in order of the input, whose
node at the rank holds a version of a major version with a mark, each moved so that this mark comes to the mark of the
largest major version. So it is with the numbers of 64 bits, unless one of them is out of range, and none is where every
series has room to move. Where fewer have marks, the call fails with that fault of its data. -/
theorem timeShiftByMetric_lines_up :
    ((∃ m n, IsMark marks m ∧ IsMark marks n ∧ m.version.major ≠ n.version.major) →
      ∃ newest, IsMark marks newest ∧ (∀ m, IsMark marks m → m.version.major ≤ newest.version.major) ∧
        (∀ outs, linedUp64 marks newest rank metrics = some outs →
          (timeShiftByMetric.evaluate ops c w).runFrom p = (.ok outs, q') ∧
            open scoped Classical in
            List.Forall₂ (fun s out => ∃ m, Follows marks rank s m ∧ LinedUp newest m s out)
              (metrics.filter fun s => ∃ m, Follows marks rank s m) outs) ∧
        ((∀ s ∈ metrics, MovesIn64 s) → ∃ outs, linedUp64 marks newest rank metrics = some outs)) ∧
    ((∀ m n, IsMark marks m → IsMark marks n → m.version.major = n.version.major) →
      ∃ found, found < 2 ∧ (timeShiftByMetric.evaluate ops c w).runFrom p =
        (.error (.badData c.function (.tooFewVersions found)), q')) := by
  rw [runFrom_timeShiftByMetric hmetrics hmarks hrank hlists]
  obtain ⟨hdecreasing, hmem⟩ := latestMarks_spec marks
  have hlined := fun newest => forall₂_lineUp marks newest rank metrics
  have hchecked := fun newest => checks_linedUp64 marks newest rank metrics
  cases hlatest : latestMarks marks with
  | nil =>
    rw [hlatest] at hmem
    refine ⟨?_, fun _ => ⟨0, by decide, rfl⟩⟩
    rintro ⟨m, n, hm, -, -⟩
    exact absurd ((hmem m).2 hm) List.not_mem_nil
  | cons newest rest =>
    rw [hlatest] at hmem hdecreasing hlined hchecked
    obtain ⟨hbelow, -⟩ := List.pairwise_cons.1 hdecreasing
    cases rest with
    | nil =>
      refine ⟨?_, fun _ => ⟨1, by decide, rfl⟩⟩
      rintro ⟨m, n, hm, hn, hne⟩
      rw [List.mem_singleton.1 ((hmem m).2 hm), List.mem_singleton.1 ((hmem n).2 hn)] at hne
      exact absurd rfl hne
    | cons other rest =>
      have hnewest := (hmem newest).1 List.mem_cons_self
      constructor
      · intro _
        refine ⟨newest, hnewest, fun m hm => ?_, fun outs houts => ?_, fun hmoves => ?_⟩
        · rcases List.mem_cons.1 ((hmem m).2 hm) with rfl | h
          · exact le_rfl
          · exact (hbelow m h).le
        · rw [hchecked newest outs houts]
          exact ⟨rfl, hlined newest⟩
        · exact linedUp64_eq hlists hnewest hmoves rank
      · intro hone
        have hother := (hmem other).1 (List.mem_cons_of_mem _ List.mem_cons_self)
        exact absurd (hone _ _ hother hnewest) (Nat.ne_of_lt (hbelow other List.mem_cons_self))

end LinesUp

/-- the mark of the first version fires two points before that of the second -/
theorem timeShiftByMetric_lines_up_two :
    let c : Call := ⟨"timeShiftByMetric", [.name "app.*", .name "mark.*", .number 1 "1"], [], "app.*,mark.*,1"⟩
    let s1 := Series.ofSamples "app.1_0" [1, 2, 3] 60 0
    let s2 := Series.ofSamples "app.2_0" [4, 5, 6] 60 0
    let t1 := Series.ofSamples "mark.1_0" [1, 0, 0] 60 0
    let t2 := Series.ofSamples "mark.2_0" [0, 0, 1] 60 0
    let ops : Operands :=
      { args := [fun _ => pure [s1, s2], fun _ => pure [t1, t2]], named := [], fetch := fun _ _ => pure () }
    ∃ o1 o2, ((timeShiftByMetric.evaluate ops c ⟨0, 180⟩).runFrom {}).1 = .ok [o1, o2] ∧
      o1.values[1]? = some Decimal.nan ∧ o1.values[2]? = s1.values[0]? ∧
      o1.tags.get? "timeShiftByMetric" = some "120" ∧ o2.values[1]? = s2.values[1]? := by
  intro c s1 s2 t1 t2 ops
  have hmetrics : (seriesAt ops c 0 ⟨0, 180⟩).runFrom {} = (.ok [s1, s2], {}) := rfl
  have hmarks : (seriesAt ops c 1 ⟨0, 180⟩).runFrom {} = (.ok [t1, t2], {}) := rfl
  have hrank : c.intOr "versionRankIndex" 2 0 = .ok ((1 : Nat) : Int) := rfl
  have hlists : checkLists [s1, s2] [t1, t2] = .ok () := by decide +kernel
  let m1 : Mark := ⟨⟨1, 0⟩, 0⟩
  let m2 : Mark := ⟨⟨2, 0⟩, 2⟩
  have hlatest : latestMarks [t1, t2] = [m2, m1] := by
    have ht1 : markOf t1 = some m1 := by decide +kernel
    have ht2 : markOf t2 = some m2 := by decide +kernel
    rw [latestMarks, List.filterMap_cons_some ht1, List.filterMap_cons_some ht2]
    simp [List.mergeSort, Mark.newerOrSame, firstOfMajor, m1, m2]
  have hm1 : IsMark [t1, t2] m1 := mem_latestMarks.1 (by simp [hlatest])
  have hm2 : IsMark [t1, t2] m2 := mem_latestMarks.1 (by simp [hlatest])
  have hs1 : Follows [t1, t2] 1 s1 m1 :=
    ⟨hm1, "1_0", ⟨1, 0⟩, by decide +kernel, versionIn?_eq_some_iff.1 (by decide +kernel), rfl⟩
  have hs2 : Follows [t1, t2] 1 s2 m2 :=
    ⟨hm2, "2_0", ⟨2, 0⟩, by decide +kernel, versionIn?_eq_some_iff.1 (by decide +kernel), rfl⟩
  have hs1_moves : MovesIn64 s1 := ⟨by decide, by decide, by decide, by decide⟩
  have hs2_moves : MovesIn64 s2 := ⟨by decide, by decide, by decide, by decide⟩
  have hmoves : ∀ s ∈ [s1, s2], MovesIn64 s :=
    List.forall_mem_cons.2 ⟨hs1_moves, List.forall_mem_singleton.2 hs2_moves⟩
  obtain ⟨newest, hnewest, hlargest, hreturned, hreturns⟩ :=
    (timeShiftByMetric_lines_up hmetrics hmarks hrank hlists).1 ⟨m1, m2, hm1, hm2, by decide⟩
  obtain ⟨outs, houts⟩ := hreturns hmoves
  obtain ⟨hrun, hall⟩ := hreturned outs houts
  have hnewest_eq : newest = m2 := by
    have hmem := mem_latestMarks.2 hnewest
    rw [hlatest, List.mem_cons, List.mem_singleton] at hmem
    rcases hmem with rfl | rfl
    · rfl
    · exact absurd (hlargest m2 hm2) (by decide)
  rw [List.filter_cons_of_pos (by simpa using ⟨m1, hs1⟩), List.filter_cons_of_pos (by simpa using ⟨m2, hs2⟩),
    hnewest_eq] at hall
  obtain ⟨o1, outs1, ⟨n1, hn1, ho1⟩, hall1, rfl⟩ := List.forall₂_cons_left_iff.1 hall
  obtain ⟨o2, outs2, ⟨n2, hn2, ho2⟩, hall2, rfl⟩ := List.forall₂_cons_left_iff.1 hall1
  rw [List.filter_nil, List.forall₂_nil_left_iff] at hall2
  rw [hn1.unique hs1] at ho1
  rw [hn2.unique hs2] at ho2
  refine ⟨o1, o2, by rw [hrun, hall2], ?_, ?_, ?_, ?_⟩
  · exact ho1.missing 1 (by decide) fun j _ => by
      show (j : Int) ≠ 1 - (2 - 0)
      omega
  · exact ho1.moved 2 0 rfl (by decide) (by decide)
  · exact ho1.tag.trans (congrArg some (by decide))
  · exact ho2.moved 1 1 rfl (by decide) (by decide)

end MetricQuery.Builtin
