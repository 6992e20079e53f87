/-
Tags written into names.

A name such as `path;key=value` is cut at its semicolons: the first part is the metric path, and each later part gives a
tag if it has a key in front of its first `=`. `Parted` and `Gives` say so of the text itself, and `get?_ofName_last` and
`get?_ofName_absent` what becomes of it: the last part that gives a tag counts, and there are no tags besides. The metric
path is kept as a tag too, under a key that a later part can give as well. So a series goes by its metric path unless its
name gives it another one (`nameTag_ofSamples_iff`), and only then does a store answer by anything else.
-/
import MetricQuery.Proofs.Keyed
import MetricQuery.Proofs.Engine.Calls

namespace MetricQuery

/-! ## Parts of texts -/

namespace Text

theorem splitAt_of_not_mem {sep : Char} {s : List Char} (h : sep ∉ s) : splitAt sep s = [s] := by
  induction s with
  | nil => rfl
  | cons c r ih =>
    obtain ⟨hc, hr⟩ := List.ne_and_not_mem_of_not_mem_cons h
    rw [splitAt, if_neg hc.symm, ih hr]

theorem splitAt_append_cons {sep : Char} {p : List Char} (h : sep ∉ p) (r : List Char) :
    splitAt sep (p ++ sep :: r) = p :: splitAt sep r := by
  induction p with
  | nil => rw [List.nil_append, splitAt, if_pos rfl]
  | cons c p ih =>
    obtain ⟨hc, hp⟩ := List.ne_and_not_mem_of_not_mem_cons h
    rw [List.cons_append, splitAt, if_neg hc.symm, ih hp]

/-- **Parts that were put together are cut apart again.** -/
theorem splitAt_intercalate {sep : Char} {first : List Char} {later : List (List Char)}
    (h : ∀ p ∈ first :: later, sep ∉ p) : splitAt sep ([sep].intercalate (first :: later)) = first :: later := by
  induction later generalizing first with
  | nil => rw [List.intercalate_singleton, splitAt_of_not_mem (h first List.mem_cons_self)]
  | cons q later ih =>
    rw [List.intercalate_cons_cons, List.append_assoc, List.singleton_append,
      splitAt_append_cons (h first List.mem_cons_self), ih fun p hp => h p (List.mem_cons_of_mem first hp)]

theorem intercalate_splitAt (sep : Char) (s : List Char) : [sep].intercalate (splitAt sep s) = s := by
  induction s with
  | nil => rfl
  | cons c r ih =>
    rw [splitAt]
    split
    · rename_i hc
      obtain ⟨p, ps, hps⟩ := List.exists_cons_of_ne_nil (splitAt_ne_nil sep r)
      rw [hps] at ih ⊢
      rw [List.intercalate_cons_cons, ih, hc]
      rfl
    · split
      · rename_i hnil
        exact absurd hnil (splitAt_ne_nil sep r)
      · rename_i p ps hps
        rw [hps] at ih
        cases ps with
        | nil => rw [← ih, List.intercalate_singleton, List.intercalate_singleton]
        | cons q ps =>
          rw [List.intercalate_cons_cons] at ih ⊢
          rw [← ih]
          rfl

theorem not_mem_of_mem_splitAt {sep : Char} {s p : List Char} (h : p ∈ splitAt sep s) : sep ∉ p := by
  induction s generalizing p with
  | nil =>
    rw [List.mem_singleton.1 h]
    exact List.not_mem_nil
  | cons c r ih =>
    rw [splitAt] at h
    split at h
    · rcases List.mem_cons.1 h with rfl | h
      · exact List.not_mem_nil
      · exact ih h
    · rename_i hc
      split at h
      · rename_i hnil
        exact absurd hnil (splitAt_ne_nil sep r)
      · rename_i q qs hqs
        rw [hqs] at ih
        rcases List.mem_cons.1 h with rfl | h
        · exact List.not_mem_cons_of_ne_of_not_mem (Ne.symm hc) (ih List.mem_cons_self)
        · exact ih (List.mem_cons_of_mem q h)

/-- a text is cut once where the first separator stands -/
theorem splitOnce_eq_some_iff {sep : Char} {s key value : List Char} :
    splitOnce sep s = some (key, value) ↔ s = key ++ sep :: value ∧ sep ∉ key := by
  unfold splitOnce
  constructor
  · intro h
    have hsplit := List.takeWhile_append_dropWhile (p := fun c => decide (c ≠ sep)) (l := s)
    split at h
    · cases h
    · rename_i c rest hdrop
      obtain ⟨rfl, rfl⟩ := Prod.mk.inj (Option.some.inj h)
      have hc : c = sep := by
        have hhead := List.head?_dropWhile_not (fun c => decide (c ≠ sep)) s
        rw [hdrop] at hhead
        simpa using hhead
      rw [hdrop, hc] at hsplit
      refine ⟨hsplit.symm, fun hmem => ?_⟩
      simpa using List.all_eq_true.1 (List.all_takeWhile (p := fun c => decide (c ≠ sep)) (l := s)) sep hmem
  · rintro ⟨rfl, hkey⟩
    have hrun : ∀ c ∈ key, decide (c ≠ sep) = true := by
      intro c hc
      exact decide_eq_true fun heq => hkey (heq ▸ hc)
    rw [List.dropWhile_append_of_pos hrun, List.takeWhile_append_of_pos hrun]
    simp

end Text

/-! ## Tags of a name -/

namespace Tags

/-- a name is a metric path and later parts, with semicolons between -/
structure Parted (name : String) (path : List Char) (later : List (List Char)) : Prop where
  text : name.toList = [';'].intercalate (path :: later)
  whole : ∀ part ∈ path :: later, ';' ∉ part

/-- a part gives a tag: a key that is not empty, up to the first `=`, and the value behind that -/
structure Gives (part : List Char) (key value : String) : Prop where
  text : part = key.toList ++ '=' :: value.toList
  key_ne : key ≠ ""
  first : '=' ∉ key.toList

/-- what the last of the parts that give a tag under a key gives it -/
def LastGiven (parts : List (List Char)) (key value : String) : Prop :=
  ∃ before part after, parts = before ++ part :: after ∧ Gives part key value ∧ ∀ p ∈ after, ∀ v, ¬ Gives p key v

/-- no part gives a tag under a key -/
def Ungiven (parts : List (List Char)) (key : String) : Prop :=
  ∀ part ∈ parts, ∀ value, ¬ Gives part key value

theorem exists_parted (name : String) : ∃ path later, Parted name path later := by
  obtain ⟨path, later, hparts⟩ := List.exists_cons_of_ne_nil (Text.splitAt_ne_nil ';' name.toList)
  refine ⟨path, later, ?_, fun part hpart => ?_⟩
  · rw [← hparts, Text.intercalate_splitAt]
  · rw [← hparts] at hpart
    exact Text.not_mem_of_mem_splitAt hpart

theorem ofSegment_eq_some_iff {part : List Char} {key value : String} :
    ofSegment part = some (key, value) ↔ Gives part key value := by
  unfold ofSegment
  constructor
  · intro h
    split at h
    · rename_i k ks v hsplit
      obtain ⟨rfl, rfl⟩ := Prod.mk.inj (Option.some.inj h)
      obtain ⟨htext, hkey⟩ := Text.splitOnce_eq_some_iff.1 hsplit
      refine ⟨?_, fun hempty => ?_, ?_⟩
      · rw [String.toList_ofList, String.toList_ofList, htext]
      · rw [← String.toList_inj, String.toList_ofList] at hempty
        cases hempty
      · rwa [String.toList_ofList]
    · cases h
  · intro h
    obtain ⟨k, ks, hk⟩ := List.exists_cons_of_ne_nil fun hnil => h.key_ne (String.toList_inj.1 hnil)
    rw [Text.splitOnce_eq_some_iff.2 ⟨h.text, h.first⟩, hk]
    show some (String.ofList (k :: ks), String.ofList value.toList) = _
    rw [← hk, String.ofList_toList, String.ofList_toList]

theorem mem_keys_segments_iff {parts : List (List Char)} {key : String} :
    key ∈ (parts.filterMap ofSegment).map Prod.fst ↔ ¬ Ungiven parts key := by
  simp only [Ungiven, List.mem_map, List.mem_filterMap, not_forall, not_not]
  constructor
  · rintro ⟨⟨_, value⟩, ⟨part, hpart, hsegment⟩, rfl⟩
    exact ⟨part, hpart, value, ofSegment_eq_some_iff.1 hsegment⟩
  · rintro ⟨part, hpart, value, hgives⟩
    exact ⟨(key, value), ⟨part, hpart, ofSegment_eq_some_iff.2 hgives⟩, rfl⟩

/-- a key is given by no part, or by a last one -/
theorem ungiven_or_lastGiven (parts : List (List Char)) (key : String) :
    Ungiven parts key ∨ ∃ value, LastGiven parts key value := by
  induction parts with
  | nil => exact Or.inl fun part hpart => absurd hpart List.not_mem_nil
  | cons part parts ih =>
    rcases ih with hnone | ⟨value, before, last, after, rfl, hlast⟩
    · by_cases hgives : ∃ value, Gives part key value
      · obtain ⟨value, hgives⟩ := hgives
        exact Or.inr ⟨value, [], part, parts, rfl, hgives, hnone⟩
      · refine Or.inl fun p hp => ?_
        rcases List.mem_cons.1 hp with rfl | hp
        · exact not_exists.1 hgives
        · exact hnone p hp
    · exact Or.inr ⟨value, part :: before, last, after, rfl, hlast⟩

section Parted

variable {name : String} {path : List Char} {later : List (List Char)} (h : Parted name path later)
include h

theorem Parted.splitAt_eq : Text.splitAt ';' name.toList = path :: later := by
  rw [h.text, Text.splitAt_intercalate h.whole]

theorem Parted.ofName_eq :
    ofName name = Keyed.insertAll [(nameKey, String.ofList path)] (later.filterMap ofSegment) := by
  rw [ofName, h.splitAt_eq]
  rfl

/-- the metric path is the first part -/
theorem Parted.pathOf_eq : pathOf name = String.ofList path := by
  have hpath : ∀ c ∈ path, decide (c ≠ ';') = true := by
    intro c hc
    exact decide_eq_true fun heq => h.whole path List.mem_cons_self (heq ▸ hc)
  rw [pathOf, h.text]
  cases later with
  | nil => rw [List.intercalate_singleton, List.takeWhile_eq_self_iff.2 hpath]
  | cons part later =>
    rw [List.intercalate_cons_cons, List.append_assoc, List.takeWhile_append_of_pos hpath, List.singleton_append,
      List.takeWhile_cons_of_neg (by simp), List.append_nil]

/-- **Of the parts that give a tag the last one counts.** -/
theorem Parted.get?_last {key value : String} (hlast : LastGiven later key value) :
    (ofName name).get? key = some value := by
  obtain ⟨before, part, after, rfl, hgives, hafter⟩ := hlast
  have hkey : key ∉ (after.filterMap ofSegment).map Prod.fst := fun hmem => mem_keys_segments_iff.1 hmem hafter
  rw [h.ofName_eq, List.filterMap_append, List.filterMap_cons, ofSegment_eq_some_iff.2 hgives, Keyed.insertAll,
    List.foldl_append]
  exact (Keyed.get?_insertAll_of_not_mem hkey _).trans (Keyed.get?_insert_self key value _)

/-- **There are no tags but those given**, and that of the metric path. -/
theorem Parted.get?_ungiven {key : String} (hnone : Ungiven later key) :
    (ofName name).get? key = if key = nameKey then some (pathOf name) else none := by
  have hkey : key ∉ (later.filterMap ofSegment).map Prod.fst := fun hmem => mem_keys_segments_iff.1 hmem hnone
  rw [h.ofName_eq, Keyed.get?_insertAll_of_not_mem hkey, Keyed.get?_cons, h.pathOf_eq]
  rfl

end Parted

end Tags

/-! ## Series and stores -/

namespace Series

open Tags (Parted LastGiven Ungiven)

/-- a series goes by its metric path unless its name gives another one -/
theorem nameTag_ofSamples_iff {name : String} {path : List Char} {later : List (List Char)}
    (h : Parted name path later) (values : List Float) (step start : Int) :
    (ofSamples name values step start).nameTag = Tags.pathOf name ↔
      ∀ value, LastGiven later Tags.nameKey value → value = Tags.pathOf name := by
  show ((Tags.ofName name).get? Tags.nameKey).getD name = _ ↔ _
  rcases Tags.ungiven_or_lastGiven later Tags.nameKey with hnone | ⟨value, hlast⟩
  · rw [h.get?_ungiven hnone, if_pos rfl]
    refine iff_of_true rfl ?_
    rintro value ⟨before, part, after, rfl, hgives, -⟩
    exact absurd hgives (hnone part (by simp) value)
  · rw [h.get?_last hlast]
    refine ⟨fun heq value' hlast' => ?_, fun hall => hall value hlast⟩
    have hsame := (h.get?_last hlast).symm.trans (h.get?_last hlast')
    rw [← Option.some.inj hsame]
    exact heq

/-- a series as it was stored under a name that gives it no other metric path -/
def GoesByPath (s : Series) : Prop :=
  (∃ name values step start, s = ofSamples name values step start) ∧
    ∀ path later, Parted s.name path later → ∀ value, LastGiven later Tags.nameKey value → value = Tags.pathOf s.name

theorem GoesByPath.nameTag_eq {s : Series} (h : s.GoesByPath) : s.nameTag = Tags.pathOf s.name := by
  obtain ⟨⟨name, values, step, start, rfl⟩, hkept⟩ := h
  obtain ⟨path, later, hparted⟩ := Tags.exists_parted name
  exact (nameTag_ofSamples_iff hparted values step start).2 (hkept path later hparted)

end Series

/-- a store of such series is asked for metric paths -/
theorem Store.answer_byPath {store : Store} (hstore : ∀ s ∈ store, s.GoesByPath) {r : Request} {glob : Glob}
    (hglob : Glob.compile r.metric = some glob) :
    store.answer r = .ok ((store.filter fun s => glob.accepts (Tags.pathOf s.name)).filterMap r.part) := by
  rw [store.answer_eq hglob, matched, List.filter_congr fun s hs => by rw [(hstore s hs).nameTag_eq]]

namespace Tags

/-- **What becomes of the tags in a name.** A name is its metric path and later parts. Each key has the value that the last
of these parts gives it, and else there is none, but for the key of the metric path, which then has that. So a series that
is stored under a name goes by its metric path exactly if no later part, or none but with the path itself, gives the key
of the path; and a store of such series answers a pattern with those whose metric path it matches, whatever else their
names give. -/
theorem ofName_parted (name : String) : ∃ path later, Parted name path later ∧ pathOf name = String.ofList path ∧
    (∀ key, (∃ value, LastGiven later key value ∧ (ofName name).get? key = some value) ∨
      Ungiven later key ∧ (ofName name).get? key = if key = nameKey then some (pathOf name) else none) ∧
    (∀ values step start, (Series.ofSamples name values step start).nameTag = pathOf name ↔
      ∀ value, LastGiven later nameKey value → value = pathOf name) ∧
    ∀ (store : Store) (r : Request) (glob : Glob), (∀ s ∈ store, s.GoesByPath) → Glob.compile r.metric = some glob →
      store.answer r = .ok ((store.filter fun s => glob.accepts (pathOf s.name)).filterMap r.part) := by
  obtain ⟨path, later, hparted⟩ := exists_parted name
  refine ⟨path, later, hparted, hparted.pathOf_eq, fun key => ?_, Series.nameTag_ofSamples_iff hparted,
    fun store r glob hstore hglob => Store.answer_byPath hstore hglob⟩
  rcases ungiven_or_lastGiven later key with hnone | ⟨value, hlast⟩
  · exact Or.inr ⟨hnone, hparted.get?_ungiven hnone⟩
  · exact Or.inl ⟨value, hlast, hparted.get?_last hlast⟩

/-- a series whose name gives a key twice, has a part that gives none, and gives the metric path itself -/
def dcSeries : Series :=
  Series.ofSamples "m;dc=east;dc=west;broken;name=m" [1] 60 0

theorem goesByPath_dcSeries : dcSeries.GoesByPath := by
  refine ⟨⟨_, _, _, _, rfl⟩, fun path later hparted => (Series.nameTag_ofSamples_iff hparted [1] 60 0).1 ?_⟩
  show dcSeries.nameTag = _
  decide +kernel

/-- the later of two values counts, and the series is found by its metric path -/
theorem ofName_parted_dc :
    (∃ path later value, Parted dcSeries.name path later ∧ LastGiven later "dc" value ∧
      (ofName dcSeries.name).get? "dc" = some value ∧ value = "west") ∧
    (∀ s ∈ [dcSeries], s.GoesByPath) ∧ Glob.compile "m" = some [.char 'm'] ∧
    Store.answer [dcSeries] ⟨"m", ⟨0, 60⟩⟩ = .ok ([dcSeries].filterMap (Request.part ⟨"m", ⟨0, 60⟩⟩)) := by
  have hstore : ∀ s ∈ [dcSeries], s.GoesByPath := List.forall_mem_singleton.2 goesByPath_dcSeries
  obtain ⟨path, later, hparted, -, hkeys, -, hanswer⟩ := ofName_parted dcSeries.name
  refine ⟨?_, hstore, Glob.compile_m, hanswer [dcSeries] ⟨"m", ⟨0, 60⟩⟩ [.char 'm'] hstore Glob.compile_m⟩
  have hwest : (ofName dcSeries.name).get? "dc" = some "west" := by decide +kernel
  rcases hkeys "dc" with ⟨value, hlast, hget⟩ | ⟨-, hget⟩
  · exact ⟨path, later, value, hparted, hlast, hget, Option.some.inj (hget.symm.trans hwest)⟩
  · rw [hwest] at hget
    cases hget

/-- a later part gives the key of the metric path, and the series is not found by its path any more -/
theorem ofName_otherPath :
    pathOf "a;name=b" = "a" ∧ (ofName "a;name=b").get? nameKey = some "b" ∧
      (ofName "a;name=b").get? nameKey ≠ some (pathOf "a;name=b") ∧
      ((Series.ofSamples "a;name=b" [1] 60 0).slice ⟨0, 60⟩).isSome = true ∧
      Store.answer [Series.ofSamples "a;name=b" [1] 60 0] ⟨"a", ⟨0, 60⟩⟩ = .ok [] := by
  have hpath : pathOf "a;name=b" = "a" := by decide +kernel
  have htag : (ofName "a;name=b").get? nameKey = some "b" := by decide +kernel
  have hglob : Glob.compile "a" = some [.char 'a'] := Glob.compile_of_parse (by cbv) (by decide +kernel)
  refine ⟨hpath, htag, ?_, ?_, ?_⟩
  · rw [hpath, htag]
    decide
  · rfl
  · rw [Store.answer_eq (r := ⟨"a", ⟨0, 60⟩⟩) hglob]
    have hnone : Store.matched [Series.ofSamples "a;name=b" [1] 60 0] [.char 'a'] = [] := by
      refine List.filter_cons_of_neg ?_
      show ¬ Glob.accepts [.char 'a'] (((ofName "a;name=b").get? nameKey).getD _) = true
      rw [htag]
      decide +kernel
    rw [hnone]
    rfl

end Tags

end MetricQuery
