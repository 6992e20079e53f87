/-
One fetch as a step, over any source.

A fetch asks for what its expressions need and is not held, all in one batch, or asks nothing; then it takes the answers
over, or fails and leaves the holdings as they were. Nothing is assumed of the source but that it answers each request
of a batch once (`Source.OnePerRequest`).

- `FirstSeen`: the batch told without the way it is computed, by its members and their order.
- `FetchStep`: all a fetch does once its requests are known; `fetch_cases` lists the ways it can end.
- `Fills`: the holdings after any fetches that succeed, told without their order. Over a source that answers a request
  the same whatever else is in the batch (`Source.AnswersBy`) there is just one such table, so expressions may be
  fetched together or apart and in any order (`fetchEach_fills`).
-/
import MetricQuery.Proofs.Result
import MetricQuery.Proofs.Engine.Fetching

namespace MetricQuery

open Target (Expr)
open Time (Window)

/-! ## Batches -/

/-- the requests of a list that are not held, each once and in the order in which the list first has them -/
structure FirstSeen (all : List Request) (held : Holdings) (batch : List Request) : Prop where
  nodup : batch.Nodup
  mem_iff : ∀ r, r ∈ batch ↔ r ∈ all ∧ held.holds r = false
  ordered : batch.Pairwise fun a b => all.idxOf a < all.idxOf b

/-- what a filter keeps stays in order -/
theorem Request.idxOf_lt_of_filter {keep : Request → Bool} {a b : Request} (ha : keep a = true) (hb : keep b = true)
    (requests : List Request) (h : (requests.filter keep).idxOf a < (requests.filter keep).idxOf b) :
    requests.idxOf a < requests.idxOf b := by
  induction requests with
  | nil => exact h
  | cons r requests ih =>
    cases hr : keep r with
    | true =>
      rw [List.filter_cons_of_pos hr] at h
      by_cases hra : r = a
      · subst hra
        by_cases hrb : r = b
        · subst hrb
          exact absurd h (lt_irrefl _)
        · rw [List.idxOf_cons_self, List.idxOf_cons_ne _ hrb]
          exact Nat.succ_pos _
      · by_cases hrb : r = b
        · subst hrb
          rw [List.idxOf_cons_self] at h
          exact absurd h (Nat.not_lt_zero _)
        · rw [List.idxOf_cons_ne _ hra, List.idxOf_cons_ne _ hrb] at h ⊢
          exact Nat.succ_lt_succ (ih (Nat.lt_of_succ_lt_succ h))
    | false =>
      rw [List.filter_cons_of_neg (by simp [hr])] at h
      have hra : r ≠ a := by
        rintro rfl
        rw [ha] at hr
        cases hr
      have hrb : r ≠ b := by
        rintro rfl
        rw [hb] at hr
        cases hr
      rw [List.idxOf_cons_ne _ hra, List.idxOf_cons_ne _ hrb]
      exact Nat.succ_lt_succ (ih h)

theorem Request.eraseDups_ordered (requests : List Request) :
    requests.eraseDups.Pairwise fun a b => requests.idxOf a < requests.idxOf b := by
  induction requests using Request.inductRepeats with
  | nil => exact List.Pairwise.nil
  | cons r requests ih =>
    have hother : ∀ a ∈ (requests.filter fun b => !b == r).eraseDups, a ≠ r := by
      intro a ha
      simpa using (List.mem_filter.1 (List.mem_eraseDups.1 ha)).2
    rw [List.eraseDups_cons, List.pairwise_cons]
    refine ⟨fun a ha => ?_, ih.imp_of_mem fun {a b} ha hb h => ?_⟩
    · rw [List.idxOf_cons_self, List.idxOf_cons_ne _ (hother a ha).symm]
      exact Nat.succ_pos _
    · rw [List.idxOf_cons_ne _ (hother a ha).symm, List.idxOf_cons_ne _ (hother b hb).symm]
      refine Nat.succ_lt_succ (Request.idxOf_lt_of_filter ?_ ?_ requests h)
      · simpa using hother a ha
      · simpa using hother b hb

theorem firstSeen_eraseDups (all : List Request) (held : Holdings) :
    FirstSeen all held (all.filter fun r => !held.holds r).eraseDups := by
  have hmem : ∀ r, r ∈ (all.filter fun r => !held.holds r).eraseDups ↔ r ∈ all ∧ held.holds r = false := by
    intro r
    rw [List.mem_eraseDups, List.mem_filter]
    simp
  refine ⟨Engine.nodup_eraseDups _, hmem, (Request.eraseDups_ordered _).imp_of_mem fun {a b} ha hb h => ?_⟩
  refine Request.idxOf_lt_of_filter ?_ ?_ all h
  · simp [((hmem a).1 ha).2]
  · simp [((hmem b).1 hb).2]

/-! ## Sources -/

/-- a batch without repeats that is answered at all has one answer for each of its requests -/
def Source.OnePerRequest (source : Source) : Prop :=
  ∀ batch answers, batch.Nodup → source batch = .ok answers → (answers.map Prod.fst).Perm batch

/-- a request is answered the same whatever else is asked with it -/
def Source.AnswersBy (source : Source) (answer : Request → List Series) : Prop :=
  ∀ batch answers, source batch = .ok answers → ∀ a ∈ answers, a.2 = answer a.1

theorem Store.onePerRequest (store : Store) : Source.OnePerRequest store.source := by
  intro batch answers _ h
  have hcases := store.source_cases batch
  split at hcases
  · rw [h] at hcases
    cases hcases
  · obtain ⟨answers', hsource, hkeys, -⟩ := hcases
    rw [h] at hsource
    cases hsource
    rw [hkeys]

/-- the series of a store for a request, none if its pattern is bad -/
def Store.seriesFor (store : Store) (r : Request) : List Series :=
  match store.answer r with
  | .ok series => series
  | .error _ => []

theorem Store.answersBy (store : Store) : Source.AnswersBy store.source store.seriesFor := by
  intro batch answers h a ha
  have hcases := store.source_cases batch
  split at hcases
  · rw [h] at hcases
    cases hcases
  · obtain ⟨answers', hsource, -, hanswer⟩ := hcases
    rw [h] at hsource
    cases hsource
    rw [seriesFor, hanswer a ha]

/-! ## Answers taken over -/

namespace Holdings

variable {answers : List (Request × List Series)} {r : Request}

theorem get?_extend_of_not_mem (h : r ∉ answers.map Prod.fst) (held : Holdings) :
    (held.extend answers).get? r = held.get? r := by
  induction answers generalizing held with
  | nil => rfl
  | cons a answers ih =>
    obtain ⟨hne, h⟩ := List.ne_and_not_mem_of_not_mem_cons h
    rw [extend_cons, ih h, get?_insert, if_neg hne]

theorem get?_extend_of_mem (hkeys : (answers.map Prod.fst).Nodup) {a : Request × List Series} (ha : a ∈ answers)
    (held : Holdings) : (held.extend answers).get? a.1 = some a.2 := by
  induction answers generalizing held with
  | nil => cases ha
  | cons b answers ih =>
    obtain ⟨hb, hkeys⟩ := List.nodup_cons.1 hkeys
    rw [extend_cons]
    rcases List.mem_cons.1 ha with rfl | ha
    · rw [get?_extend_of_not_mem hb, get?_insert_self]
    · exact ih hkeys ha _

theorem holds_eq_false_iff {held : Holdings} : held.holds r = false ↔ held.get? r = none := by
  rw [holds, Option.isSome_eq_false_iff, Option.isNone_iff_eq_none]

end Holdings

/-! ## One step -/

namespace Engine

/-- the ways a fetch can end that knows its requests -/
inductive FetchCase (g : Engine) (batch : List Request) (p : Progress) : Except EvalError Unit → Progress → Prop
  | nothing (hnil : batch = []) : FetchCase g batch p (.ok ()) p
  | cancelled (hne : batch ≠ []) (hc : g.cancelled = true) : FetchCase g batch p (.error .cancelled) p
  | interrupted (hne : batch ≠ []) (hs : g.source batch = .error .interrupted) :
    FetchCase g batch p (.error .cancelled) { p with asked := p.asked ++ [batch] }
  | refused {fault} (hne : batch ≠ []) (hs : g.source batch = .error fault) (hfault : fault ≠ .interrupted) :
    FetchCase g batch p (.error (.fetch fault)) { p with asked := p.asked ++ [batch] }
  | answered {answers} (hne : batch ≠ []) (hs : g.source batch = .ok answers) :
    FetchCase g batch p (.ok ()) { p with asked := p.asked ++ [batch], held := p.held.extend answers }

theorem fetch_cases {g : Engine} {es : List Expr} {w : Window} {p : Progress} {lists : List (List Request)}
    (h : es.mapM (fun e => g.registry.requests e w) = .ok lists) :
    ∃ batch result q, (g.fetch es w).runFrom p = (result, q) ∧ FirstSeen lists.flatten p.held batch ∧
      g.FetchCase batch p result q := by
  have hbatch := firstSeen_eraseDups lists.flatten p.held
  rw [fetch_run, lacking_ok h]
  generalize (lists.flatten.filter fun r => !p.held.holds r).eraseDups = batch at hbatch ⊢
  cases batch with
  | nil => exact ⟨_, _, _, rfl, hbatch, .nothing rfl⟩
  | cons r rest =>
    have hne : r :: rest ≠ [] := List.cons_ne_nil r rest
    cases hc : g.cancelled with
    | true => exact ⟨_, _, _, rfl, hbatch, .cancelled hne hc⟩
    | false =>
      cases hs : g.source (r :: rest) with
      | error fault =>
        cases fault with
        | interrupted => exact ⟨_, _, _, by simp [hs, EvalError.ofSource], hbatch, .interrupted hne hs⟩
        | badPattern metric => exact ⟨_, _, _, by simp [hs, EvalError.ofSource], hbatch, .refused hne hs nofun⟩
        | unavailable reason => exact ⟨_, _, _, by simp [hs, EvalError.ofSource], hbatch, .refused hne hs nofun⟩
      | ok answers => exact ⟨_, _, _, by simp [hs], hbatch, .answered hne hs⟩

/-- what a fetch does whose expressions need the requests `all` -/
structure FetchStep (g : Engine) (all : List Request) (p : Progress) (batch : List Request)
    (result : Except EvalError Unit) (q : Progress) : Prop where
  lacking : FirstSeen all p.held batch
  asks : q.asked = p.asked ∨ batch ≠ [] ∧ q.asked = p.asked ++ [batch]
  keeps : ∀ r series, p.held.get? r = some series → q.held.get? r = some series
  gains : result = .ok () → ∀ r, q.held.holds r = true ↔ p.held.holds r = true ∨ r ∈ batch
  takes : result = .ok () → batch ≠ [] →
    ∃ answers, g.source batch = .ok answers ∧ ∀ a ∈ answers, q.held.get? a.1 = some a.2
  fails : ∀ e, result = .error e → q.held = p.held

/-- a table that is left as it was gains nothing -/
theorem FetchStep.unchanged {g : Engine} {all batch : List Request} {p q : Progress} {result : Except EvalError Unit}
    (hbatch : FirstSeen all p.held batch) (hheld : q.held = p.held)
    (hasks : q.asked = p.asked ∨ batch ≠ [] ∧ q.asked = p.asked ++ [batch]) (hok : result = .ok () → batch = []) :
    g.FetchStep all p batch result q where
  lacking := hbatch
  asks := hasks
  keeps r series h := by rw [hheld, h]
  gains h r := by simp [hheld, hok h]
  takes h hne := absurd (hok h) hne
  fails _ _ := hheld

section OneAnswerEach

variable {g : Engine} (hsource : g.source.OnePerRequest)
include hsource

theorem FetchCase.step {all batch : List Request} {p q : Progress} {result : Except EvalError Unit}
    (hbatch : FirstSeen all p.held batch) (h : g.FetchCase batch p result q) : g.FetchStep all p batch result q := by
  cases h with
  | nothing hnil => exact .unchanged hbatch rfl (Or.inl rfl) fun _ => hnil
  | cancelled hne hc => exact .unchanged hbatch rfl (Or.inl rfl) nofun
  | interrupted hne hs => exact .unchanged hbatch rfl (Or.inr ⟨hne, rfl⟩) nofun
  | refused hne hs hfault => exact .unchanged hbatch rfl (Or.inr ⟨hne, rfl⟩) nofun
  | @answered answers hne hs =>
    have hperm := hsource batch answers hbatch.nodup hs
    have hkeys : (answers.map Prod.fst).Nodup := hperm.nodup_iff.2 hbatch.nodup
    have hother : ∀ r, r ∉ batch → (p.held.extend answers).get? r = p.held.get? r := fun r hr =>
      Holdings.get?_extend_of_not_mem (fun hmem => hr (hperm.mem_iff.1 hmem)) p.held
    refine ⟨hbatch, Or.inr ⟨hne, rfl⟩, fun r series hr => ?_, fun _ r => ?_, fun _ _ => ?_, nofun⟩
    · have hnew : r ∉ batch := by
        intro hmem
        rw [Holdings.holds_eq_false_iff.1 ((hbatch.mem_iff r).1 hmem).2] at hr
        cases hr
      rw [hother r hnew, hr]
    · constructor
      · intro hr
        by_cases hmem : r ∈ batch
        · exact Or.inr hmem
        · rw [Holdings.holds, hother r hmem] at hr
          exact Or.inl hr
      · rintro (hr | hr)
        · exact Holdings.holds_extend answers p.held r (Or.inl hr)
        · exact Holdings.holds_extend answers p.held r (Or.inr (hperm.mem_iff.2 hr))
    · exact ⟨answers, hs, fun a ha => Holdings.get?_extend_of_mem hkeys ha p.held⟩

theorem fetch_step {es : List Expr} {w : Window} {lists : List (List Request)}
    (h : es.mapM (fun e => g.registry.requests e w) = .ok lists) (p : Progress) :
    ∃ batch result q, (g.fetch es w).runFrom p = (result, q) ∧ g.FetchStep lists.flatten p batch result q := by
  obtain ⟨batch, result, q, hrun, hbatch, hcase⟩ := fetch_cases (p := p) h
  exact ⟨batch, result, q, hrun, hcase.step hsource hbatch⟩

end OneAnswerEach

/-- where all that is needed is held a fetch does nothing -/
theorem fetch_of_held {g : Engine} {es : List Expr} {w : Window} {lists : List (List Request)} {p : Progress}
    (h : es.mapM (fun e => g.registry.requests e w) = .ok lists) (hheld : ∀ r ∈ lists.flatten, p.held.holds r = true) :
    (g.fetch es w).runFrom p = (.ok (), p) := by
  have hnone : (lists.flatten.filter fun r => !p.held.holds r) = [] := by
    rw [List.filter_eq_nil_iff]
    intro r hr
    simp [hheld r hr]
  rw [fetch_run, lacking_ok h, hnone]
  rfl

/-- after a step that succeeds all that its expressions need is held -/
theorem FetchStep.holds {g : Engine} {all batch : List Request} {p q : Progress} (h : g.FetchStep all p batch (.ok ()) q) :
    ∀ r ∈ all, q.held.holds r = true := by
  intro r hr
  rw [h.gains rfl]
  cases hheld : p.held.holds r with
  | true => exact Or.inl rfl
  | false => exact Or.inr ((h.lacking.mem_iff r).2 ⟨hr, hheld⟩)

/-- requests that cannot be collected are not asked for -/
theorem fetch_of_error {g : Engine} {es : List Expr} {w : Window} {error : EvalError}
    (h : es.mapM (fun e => g.registry.requests e w) = .error error) (p : Progress) :
    (g.fetch es w).runFrom p = (.error error, p) :=
  fetch_lacking_error (lacking_error h p.held)

/-! ## Any order -/

/-- some expression of the list needs this request -/
def Needs (g : Engine) (w : Window) (es : List Expr) (r : Request) : Prop :=
  ∃ e ∈ es, ∃ requests, g.registry.requests e w = .ok requests ∧ r ∈ requests

theorem mem_flatten_iff_needs {g : Engine} {w : Window} {es : List Expr} {lists : List (List Request)}
    (h : es.mapM (fun e => g.registry.requests e w) = .ok lists) (r : Request) :
    r ∈ lists.flatten ↔ g.Needs w es r := by
  induction es generalizing lists with
  | nil =>
    cases h
    simp [Needs]
  | cons e es ih =>
    rw [List.mapM_cons, bind_eq_ok] at h
    obtain ⟨requests, he, h⟩ := h
    rw [bind_eq_ok] at h
    obtain ⟨rest, hes, h⟩ := h
    cases h
    rw [List.flatten_cons, List.mem_append, ih hes]
    simp [Needs, he]

/-- holdings that take over the answers to what is wanted, and nothing else -/
structure Fills (answer : Request → List Series) (wanted : Request → Prop) (old new : Holdings) : Prop where
  keeps : ∀ r series, old.get? r = some series → new.get? r = some series
  takes : ∀ r, old.get? r = none → wanted r → new.get? r = some (answer r)
  leaves : ∀ r, old.get? r = none → ¬ wanted r → new.get? r = none

namespace Fills

variable {answer : Request → List Series} {wanted more : Request → Prop} {old mid new new' : Holdings}

theorem nothing (h : ∀ r, ¬ wanted r) (held : Holdings) : Fills answer wanted held held :=
  ⟨fun _ _ hr => hr, fun r _ hr => absurd hr (h r), fun _ hr _ => hr⟩

theorem trans (h1 : Fills answer wanted old mid) (h2 : Fills answer more mid new) :
    Fills answer (fun r => wanted r ∨ more r) old new := by
  refine ⟨fun r series hr => h2.keeps r series (h1.keeps r series hr), fun r hr hwanted => ?_, fun r hr hwanted => ?_⟩
  · by_cases hfirst : wanted r
    · exact h2.keeps r _ (h1.takes r hr hfirst)
    · exact h2.takes r (h1.leaves r hr hfirst) (hwanted.resolve_left hfirst)
  · exact h2.leaves r (h1.leaves r hr fun h => hwanted (Or.inl h)) fun h => hwanted (Or.inr h)

/-- **There is one way to fill holdings.** -/
theorem get?_eq (h : Fills answer wanted old new) (h' : Fills answer wanted old new') (r : Request) :
    new.get? r = new'.get? r := by
  cases hr : old.get? r with
  | some series => rw [h.keeps r series hr, h'.keeps r series hr]
  | none =>
    by_cases hwanted : wanted r
    · rw [h.takes r hr hwanted, h'.takes r hr hwanted]
    · rw [h.leaves r hr hwanted, h'.leaves r hr hwanted]

theorem congr (h : Fills answer wanted old new) (hiff : ∀ r, wanted r ↔ more r) : Fills answer more old new := by
  have hsame : wanted = more := funext fun r => propext (hiff r)
  rwa [← hsame]

end Fills

/-- expressions fetched group by group -/
def fetchEach (g : Engine) (groups : List (List Expr)) (w : Window) : Eval Unit :=
  groups.forM fun es => g.fetch es w

theorem fetchEach_cons (g : Engine) (es : List Expr) (groups : List (List Expr)) (w : Window) :
    g.fetchEach (es :: groups) w = (g.fetch es w >>= fun _ => g.fetchEach groups w) := rfl

section Independent

variable {g : Engine} (hsource : g.source.OnePerRequest) {answer : Request → List Series}
  (hanswer : g.source.AnswersBy answer)
include hsource hanswer

theorem FetchStep.fills {all batch : List Request} {p q : Progress} (h : g.FetchStep all p batch (.ok ()) q) :
    Fills answer (· ∈ all) p.held q.held := by
  refine ⟨h.keeps, fun r hr hmem => ?_, fun r hr hmem => ?_⟩
  · have hbatch : r ∈ batch := (h.lacking.mem_iff r).2 ⟨hmem, Holdings.holds_eq_false_iff.2 hr⟩
    obtain ⟨answers, hs, htakes⟩ := h.takes rfl (List.ne_nil_of_mem hbatch)
    obtain ⟨a, ha, rfl⟩ := List.mem_map.1 ((hsource batch answers h.lacking.nodup hs).mem_iff.2 hbatch)
    rw [htakes a ha, hanswer batch answers hs a ha]
  · rw [← Holdings.holds_eq_false_iff, Bool.eq_false_iff]
    intro hheld
    rcases (h.gains rfl r).1 hheld with hold | hnew
    · rw [Holdings.holds, hr] at hold
      cases hold
    · exact hmem ((h.lacking.mem_iff r).1 hnew).1

theorem fetch_fills {es : List Expr} {w : Window} {p q : Progress} (h : (g.fetch es w).runFrom p = (.ok (), q)) :
    Fills answer (g.Needs w es) p.held q.held := by
  cases hm : es.mapM fun e => g.registry.requests e w with
  | error error =>
    rw [fetch_of_error hm] at h
    cases h
  | ok lists =>
    obtain ⟨batch, result, q', hrun, hstep⟩ := fetch_step hsource hm p
    rw [h] at hrun
    cases hrun
    exact (hstep.fills hsource hanswer).congr (mem_flatten_iff_needs hm)

/-- **Groups fetched one after the other fill the holdings** with what any of their expressions needs. -/
theorem fetchEach_fills {groups : List (List Expr)} {w : Window} {p q : Progress}
    (h : (g.fetchEach groups w).runFrom p = (.ok (), q)) : Fills answer (g.Needs w groups.flatten) p.held q.held := by
  induction groups generalizing p with
  | nil =>
    cases h
    exact .nothing (by simp [Needs]) _
  | cons es groups ih =>
    rw [fetchEach_cons] at h
    cases hfirst : (g.fetch es w).runFrom p with
    | mk result mid =>
      cases result with
      | error error =>
        rw [Eval.runFrom_bind_error hfirst] at h
        cases h
      | ok u =>
        rw [Eval.runFrom_bind_ok hfirst] at h
        refine ((fetch_fills hsource hanswer hfirst).trans (ih h)).congr fun r => ?_
        simp [Needs, or_and_right, exists_or]

end Independent

/-- **A fetch is a safe increment.** It asks once at most, for the requests of its expressions that are not held, each
once and in order; it takes over the answers to just these and changes no entry, so that to repeat it does nothing; if
it fails the holdings are as they were, and if the requests cannot be collected nothing was asked. Over a source that
answers each request by itself, expressions fetched in any groups and in any order end in the same table. -/
theorem fetch_incremental (g : Engine) (hsource : g.source.OnePerRequest) (w : Window) (p : Progress) :
    (∀ es error, es.mapM (fun e => g.registry.requests e w) = .error error →
      (g.fetch es w).runFrom p = (.error error, p)) ∧
    (∀ es lists, es.mapM (fun e => g.registry.requests e w) = .ok lists →
      ∃ batch result q, (g.fetch es w).runFrom p = (result, q) ∧ g.FetchStep lists.flatten p batch result q ∧
        (result = .ok () → (g.fetch es w).runFrom q = (.ok (), q))) ∧
    ∀ answer, g.source.AnswersBy answer → ∀ groups groups' : List (List Expr),
      (∀ e, e ∈ groups.flatten ↔ e ∈ groups'.flatten) → ∀ q q', (g.fetchEach groups w).runFrom p = (.ok (), q) →
        (g.fetchEach groups' w).runFrom p = (.ok (), q') → ∀ r, q.held.get? r = q'.held.get? r := by
  refine ⟨fun es error h => fetch_of_error h p, fun es lists h => ?_, ?_⟩
  · obtain ⟨batch, result, q, hrun, hstep⟩ := fetch_step hsource h p
    refine ⟨batch, result, q, hrun, hstep, ?_⟩
    rintro rfl
    exact fetch_of_held h hstep.holds
  · intro answer hanswer groups groups' hsame q q' hq hq' r
    have hfills := fetchEach_fills hsource hanswer hq
    have hfills' := fetchEach_fills hsource hanswer hq'
    exact hfills.get?_eq (hfills'.congr fun r => by simp [Needs, hsame]) r

/-- two names, one of them held already; and the two fetched together or apart -/
theorem fetch_incremental_names :
    Source.OnePerRequest (Store.engine [] false).source ∧
    (∃ batch result q,
      ((Store.engine [] false).fetch [.name "a", .name "b"] ⟨0, 1⟩).runFrom ⟨[(⟨"a", ⟨0, 1⟩⟩, [])], []⟩ = (result, q) ∧
        (Store.engine [] false).FetchStep [⟨"a", ⟨0, 1⟩⟩, ⟨"b", ⟨0, 1⟩⟩] ⟨[(⟨"a", ⟨0, 1⟩⟩, [])], []⟩ batch result q) ∧
    ∃ q q', ((Store.engine [] false).fetchEach [[.name "a", .name "b"]] ⟨0, 1⟩).runFrom {} = (.ok (), q) ∧
      ((Store.engine [] false).fetchEach [[.name "b"], [.name "a"]] ⟨0, 1⟩).runFrom {} = (.ok (), q') ∧
        ∀ r, q.held.get? r = q'.held.get? r := by
  have hsource : Source.OnePerRequest (Store.engine [] false).source := Store.onePerRequest []
  have hlists : [Expr.name "a", .name "b"].mapM (fun e => (Store.engine [] false).registry.requests e ⟨0, 1⟩) =
      .ok [[⟨"a", ⟨0, 1⟩⟩], [⟨"b", ⟨0, 1⟩⟩]] := rfl
  have htogether : ((Store.engine [] false).fetchEach [[.name "a", .name "b"]] ⟨0, 1⟩).runFrom {} =
      (.ok (), ⟨[(⟨"a", ⟨0, 1⟩⟩, []), (⟨"b", ⟨0, 1⟩⟩, [])], [[⟨"a", ⟨0, 1⟩⟩, ⟨"b", ⟨0, 1⟩⟩]]⟩) := rfl
  have hapart : ((Store.engine [] false).fetchEach [[.name "b"], [.name "a"]] ⟨0, 1⟩).runFrom {} =
      (.ok (), ⟨[(⟨"b", ⟨0, 1⟩⟩, []), (⟨"a", ⟨0, 1⟩⟩, [])], [[⟨"b", ⟨0, 1⟩⟩], [⟨"a", ⟨0, 1⟩⟩]]⟩) := rfl
  have hsame : ∀ e : Expr, e ∈ [[Expr.name "a", .name "b"]].flatten ↔ e ∈ [[Expr.name "b"], [.name "a"]].flatten := by
    intro e
    simp [or_comm]
  obtain ⟨-, hstep, -⟩ := fetch_incremental _ hsource ⟨0, 1⟩ ⟨[(⟨"a", ⟨0, 1⟩⟩, [])], []⟩
  obtain ⟨batch, result, q, hrun, hq, -⟩ := hstep _ _ hlists
  obtain ⟨-, -, horder⟩ := fetch_incremental _ hsource ⟨0, 1⟩ {}
  exact ⟨hsource, ⟨batch, result, q, hrun, hq⟩, _, _, htogether, hapart,
    horder _ (Store.answersBy []) _ _ hsame _ _ htogether hapart⟩

end Engine

end MetricQuery
