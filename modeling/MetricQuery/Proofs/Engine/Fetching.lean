/-
Fetching from a store.

A store answers each request by itself, so what is held of it can be checked entry by entry: holdings agree with a
store if every answer in them is the store's own (`Store.Agrees`). A fetch keeps this, changes no entry, and leaves
every request of its expressions held (`fetch_ok`). Whether it succeeds depends on the expressions alone and not on
what is held already (`fetch_result`): a request whose pattern is bad is never held, so it is asked again every time.
All three go by the ways the fetch of a batch can end (`FetchEnds`).
-/
import MetricQuery.Builtin.All
import MetricQuery.Store
import MetricQuery.Proofs.Engine.Regime

namespace MetricQuery

open Target (Expr Call)
open Time (Window)

/-! ## Lists of requests -/

/-- induction on a list of requests as its repeats are taken out: behind the first request only others are left -/
theorem Request.inductRepeats {motive : List Request → Prop} (nil : motive [])
    (cons : ∀ r requests, motive (requests.filter fun b => !b == r) → motive (r :: requests))
    (requests : List Request) : motive requests := by
  induction hn : requests.length using Nat.strong_induction_on generalizing requests with
  | _ n ih =>
    cases requests with
    | nil => exact nil
    | cons r requests =>
      have hlen : (requests.filter fun b => !b == r).length < n := by
        rw [← hn, List.length_cons]
        exact Nat.lt_succ_of_le (List.length_filter_le _ _)
      exact cons r requests (ih _ hlen _ rfl)

/-! ## Holdings -/

namespace Holdings

theorem get?_insert (request other : Request) (series : List Series) (held : Holdings) :
    get? (insert request series held) other = if other = request then some series else get? held other := by
  split
  · rename_i h
    rw [h, get?_insert_self]
  · rename_i h
    exact get?_insert_of_ne series held h

theorem holds_iff {held : Holdings} {request : Request} :
    held.holds request = true ↔ ∃ series, held.get? request = some series := by
  rw [holds, Option.isSome_iff_exists]

theorem extend_cons (held : Holdings) (request : Request) (series : List Series)
    (answers : List (Request × List Series)) :
    held.extend ((request, series) :: answers) = (held.insert request series).extend answers := rfl

/-- a request that was held stays held, and one that was answered is held -/
theorem holds_extend (answers : List (Request × List Series)) (held : Holdings) (request : Request)
    (h : held.holds request = true ∨ request ∈ answers.map Prod.fst) : (held.extend answers).holds request = true := by
  induction answers generalizing held with
  | nil => simpa [extend] using h
  | cons a answers ih =>
    obtain ⟨r, series⟩ := a
    rw [extend_cons]
    apply ih
    rw [holds_iff, get?_insert]
    by_cases hr : request = r
    · exact Or.inl ⟨series, by rw [if_pos hr]⟩
    · rw [if_neg hr, ← holds_iff]
      rcases h with h | h
      · exact Or.inl h
      · rcases List.mem_cons.1 h with h | h
        · exact absurd h hr
        · exact Or.inr h

end Holdings

/-! ## Answers of a store -/

namespace Store

/-- an engine with the builtin functions over a store -/
def engine (store : Store) (cancelled : Bool) : Engine := ⟨Registry.builtins, store.source, cancelled⟩

theorem engine_registry (store : Store) (cancelled : Bool) : (store.engine cancelled).registry = Registry.builtins := by
  rw [engine]

theorem engine_source (store : Store) (cancelled : Bool) : (store.engine cancelled).source = store.source := by
  rw [engine]

/-- holdings in which every answer is the store's own -/
def Agrees (store : Store) (held : Holdings) : Prop :=
  ∀ request series, held.get? request = some series → store.answer request = .ok series

theorem agrees_nil (store : Store) : store.Agrees [] := by
  intro request series h
  cases h

theorem Agrees.insert {store : Store} {held : Holdings} {request : Request} {series : List Series}
    (h : store.Agrees held) (ha : store.answer request = .ok series) : store.Agrees (held.insert request series) := by
  intro r s hr
  rw [Holdings.get?_insert] at hr
  split at hr
  · rename_i he
    rw [he, ha, Option.some.inj hr]
  · exact h r s hr

/-- answers of the store keep agreement and change no entry -/
theorem Agrees.extend {store : Store} {held : Holdings} {answers : List (Request × List Series)}
    (h : store.Agrees held) (ha : ∀ a ∈ answers, store.answer a.1 = .ok a.2) :
    store.Agrees (held.extend answers) ∧
      ∀ request series, held.get? request = some series → (held.extend answers).get? request = some series := by
  induction answers generalizing held with
  | nil => exact ⟨h, fun _ _ hr => hr⟩
  | cons a answers ih =>
    obtain ⟨r, s⟩ := a
    have hrs : store.answer r = .ok s := ha (r, s) List.mem_cons_self
    obtain ⟨h1, h2⟩ := ih (h.insert hrs) fun a ha' => ha a (List.mem_cons_of_mem _ ha')
    refine ⟨h1, fun request series hr => h2 request series ?_⟩
    rw [Holdings.get?_insert]
    split
    · rename_i he
      have := h request series hr
      rw [he, hrs] at this
      rw [Except.ok.inj this]
    · exact hr

/-- why a store does not answer a request, if it does not -/
def fault? (store : Store) (request : Request) : Option SourceFault :=
  match store.answer request with
  | .ok _ => none
  | .error fault => some fault

theorem fault?_of_answer {store : Store} {request : Request} {series : List Series}
    (h : store.answer request = .ok series) : store.fault? request = none := by
  rw [fault?, h]

/-- a store that is asked gives its answer, whatever it is -/
theorem ofSource_fault? {store : Store} {request : Request} {fault : SourceFault}
    (h : store.fault? request = some fault) : EvalError.ofSource fault = .fetch fault := by
  unfold fault? answer at h
  cases hglob : Glob.compile request.metric with
  | none =>
    rw [hglob] at h
    cases h
    rfl
  | some glob =>
    rw [hglob] at h
    cases h

/-- a batch is answered request by request, or fails with the fault of its first bad one -/
theorem source_cases (store : Store) (batch : List Request) :
    match batch.findSome? store.fault? with
    | some fault => store.source batch = .error fault
    | none => ∃ answers, store.source batch = .ok answers ∧ answers.map Prod.fst = batch ∧
        ∀ a ∈ answers, store.answer a.1 = .ok a.2 := by
  induction batch with
  | nil => exact ⟨[], rfl, rfl, by simp⟩
  | cons r batch ih =>
    rw [List.findSome?_cons]
    simp only [source] at ih ⊢
    rw [List.mapM_cons]
    cases hr : store.answer r with
    | error fault => simp [fault?, hr, bind, Except.bind]
    | ok series =>
      rw [fault?_of_answer hr]
      cases hf : batch.findSome? store.fault? with
      | some fault =>
        rw [hf] at ih
        simp only at ih
        rw [ih]
        rfl
      | none =>
        rw [hf] at ih
        obtain ⟨answers, h1, h2, h3⟩ := ih
        rw [h1]
        refine ⟨(r, series) :: answers, rfl, by rw [List.map_cons, h2], fun a ha => ?_⟩
        rcases List.mem_cons.1 ha with rfl | ha
        · exact hr
        · exact h3 a ha

/-- requests that are answered do not decide which fault comes first -/
theorem findSome?_filter (store : Store) (keep : Request → Bool) (requests : List Request)
    (h : ∀ r ∈ requests, keep r = false → store.fault? r = none) :
    (requests.filter keep).findSome? store.fault? = requests.findSome? store.fault? := by
  induction requests with
  | nil => rfl
  | cons r requests ih =>
    have ih := ih fun r' hr' => h r' (List.mem_cons_of_mem _ hr')
    cases hk : keep r with
    | true => rw [List.filter_cons_of_pos hk, List.findSome?_cons, List.findSome?_cons, ih]
    | false =>
      rw [List.filter_cons_of_neg (by simp [hk]), ih, List.findSome?_cons, h r List.mem_cons_self hk]

theorem findSome?_eraseDups (store : Store) (requests : List Request) :
    requests.eraseDups.findSome? store.fault? = requests.findSome? store.fault? := by
  induction requests using Request.inductRepeats with
  | nil => rfl
  | cons r requests ih =>
    rw [List.eraseDups_cons, List.findSome?_cons, List.findSome?_cons]
    cases hf : store.fault? r with
    | some fault => rfl
    | none =>
      rw [ih, findSome?_filter]
      intro r' _ hr'
      rw [show r' = r by simpa using hr', hf]

end Store

/-! ## Fetches -/

namespace Engine

/-- a fetch gathers, asks for what is lacking unless there is nothing, and takes the answers over -/
theorem fetch_run (g : Engine) (es : List Expr) (w : Window) (p : Progress) :
    (g.fetch es w).runFrom p =
      match g.lacking p.held es w with
      | .error e => (.error e, p)
      | .ok [] => (.ok (), p)
      | .ok (r :: rest) =>
        if g.cancelled then (.error .cancelled, p)
        else match g.source (r :: rest) with
          | .ok answers => (.ok (), { p with asked := p.asked ++ [r :: rest], held := p.held.extend answers })
          | .error fault => (.error (.ofSource fault), { p with asked := p.asked ++ [r :: rest] }) := by
  unfold fetch
  rw [Eval.runFrom_bind, Eval.runFrom_get]
  simp only [Eval.runFrom_bind, Eval.runFrom_lift]
  cases g.lacking p.held es w with
  | error e => rfl
  | ok batch =>
    cases batch with
    | nil => rfl
    | cons r rest =>
      cases hc : g.cancelled with
      | true => simp
      | false =>
        simp [Eval.runFrom_bind]
        cases g.source (r :: rest) <;> simp

theorem lacking_error {g : Engine} {es : List Expr} {w : Window} {e : EvalError}
    (h : es.mapM (fun e => g.registry.requests e w) = .error e) (held : Holdings) :
    g.lacking held es w = .error e := by
  rw [lacking, h]
  rfl

theorem lacking_ok {g : Engine} {es : List Expr} {w : Window} {lists : List (List Request)}
    (h : es.mapM (fun e => g.registry.requests e w) = .ok lists) (held : Holdings) :
    g.lacking held es w = .ok ((lists.flatten.filter fun r => !held.holds r).eraseDups) := by
  rw [lacking, h]
  rfl

theorem nodup_eraseDups (requests : List Request) : requests.eraseDups.Nodup := by
  induction requests using Request.inductRepeats with
  | nil => exact List.nodup_nil
  | cons r requests ih =>
    rw [List.eraseDups_cons, List.nodup_cons]
    exact ⟨by simp [List.mem_eraseDups], ih⟩

theorem eraseDups_of_nodup {requests : List Request} (h : requests.Nodup) : requests.eraseDups = requests := by
  induction requests with
  | nil => rfl
  | cons r requests ih =>
    obtain ⟨hr, h⟩ := List.nodup_cons.1 h
    have hfilter : (requests.filter fun b => !b == r) = requests := by
      rw [List.filter_eq_self]
      intro b hb
      have hne : b ≠ r := fun he => hr (he ▸ hb)
      simpa using hne
    rw [List.eraseDups_cons, hfilter, ih h]

/-- one expression needs what is gathered of it, each request once -/
theorem requests_single {g : Engine} {e : Expr} {w : Window} {requests : List Request}
    (h : gather g.registry e w = .ok requests) :
    [e].mapM (fun e => g.registry.requests e w) = .ok [requests.eraseDups] := by
  rw [List.mapM_cons, Registry.requests, h]
  rfl

theorem requests_single_error {g : Engine} {e : Expr} {w : Window} {error : EvalError}
    (h : gather g.registry e w = .error error) : [e].mapM (fun e => g.registry.requests e w) = .error error := by
  rw [List.mapM_cons, Registry.requests, h]
  rfl

/-- where nothing is held, one expression lacks just its requests -/
theorem lacking_nil {g : Engine} {e : Expr} {w : Window} {requests : List Request}
    (h : gather g.registry e w = .ok requests) : g.lacking [] [e] w = .ok requests.eraseDups := by
  rw [lacking_ok (requests_single h)]
  simp [Holdings.holds, Holdings.get?, eraseDups_of_nodup (nodup_eraseDups requests)]

/-- what a fetch comes to, whatever of it is held already -/
def fetched (g : Engine) (store : Store) (es : List Expr) (w : Window) : Except EvalError Unit :=
  match es.mapM fun e => g.registry.requests e w with
  | .error e => .error e
  | .ok lists =>
    if lists.flatten = [] then .ok ()
    else if g.cancelled then .error .cancelled
    else match lists.flatten.findSome? store.fault? with
      | some fault => .error (.fetch fault)
      | none => .ok ()

/-- what every run of an engine over a store keeps: answers are the store's, and a cancelled engine fetches nothing -/
structure Kept (g : Engine) (store : Store) (p : Progress) : Prop where
  agrees : store.Agrees p.held
  cancelled : g.cancelled = true → p.held = []

/-- a progress as good as an older one: still in order, and no entry changed or gone -/
structure Grows (g : Engine) (store : Store) (p q : Progress) : Prop where
  kept : g.Kept store p → g.Kept store q
  stays : g.Kept store p → ∀ request series, p.held.get? request = some series → q.held.get? request = some series

theorem Grows.refl (g : Engine) (store : Store) (p : Progress) : g.Grows store p p :=
  ⟨fun h => h, fun _ _ _ h => h⟩

theorem Grows.trans {g : Engine} {store : Store} {p q r : Progress} (h1 : g.Grows store p q) (h2 : g.Grows store q r) :
    g.Grows store p r :=
  ⟨fun h => h2.kept (h1.kept h), fun h request series hs =>
    h2.stays (h1.kept h) request series (h1.stays h request series hs)⟩

theorem Grows.holds {g : Engine} {store : Store} {p q : Progress} (h : g.Grows store p q) (hp : g.Kept store p)
    {request : Request} (hr : p.held.holds request = true) : q.held.holds request = true := by
  obtain ⟨series, hs⟩ := Holdings.holds_iff.1 hr
  exact Holdings.holds_iff.2 ⟨series, h.stays hp request series hs⟩

/-- the ways the fetch of a batch can end -/
inductive FetchEnds (g : Engine) (store : Store) (batch : List Request) (p : Progress) :
    Except EvalError Unit → Progress → Prop
  | nothing (hnil : batch = []) : FetchEnds g store batch p (.ok ()) p
  | cancelled (hne : batch ≠ []) (hc : g.cancelled = true) : FetchEnds g store batch p (.error .cancelled) p
  | refused {fault} (hne : batch ≠ []) (hc : g.cancelled = false) (hf : batch.findSome? store.fault? = some fault) :
    FetchEnds g store batch p (.error (.fetch fault)) { p with asked := p.asked ++ [batch] }
  | answered {answers} (hne : batch ≠ []) (hc : g.cancelled = false) (hf : batch.findSome? store.fault? = none)
    (hkeys : answers.map Prod.fst = batch) (ha : ∀ a ∈ answers, store.answer a.1 = .ok a.2) :
    FetchEnds g store batch p (.ok ()) { p with asked := p.asked ++ [batch], held := p.held.extend answers }

theorem fetch_lacking_error {g : Engine} {es : List Expr} {w : Window} {p : Progress} {e : EvalError}
    (h : g.lacking p.held es w = .error e) : (g.fetch es w).runFrom p = (.error e, p) := by
  rw [fetch_run, h]

section OverStore

variable {g : Engine} {store : Store} (hg : g.source = store.source)
include hg

theorem fetch_ends {es : List Expr} {w : Window} {p : Progress} {batch : List Request}
    (h : g.lacking p.held es w = .ok batch) :
    ∃ r q, (g.fetch es w).runFrom p = (r, q) ∧ g.FetchEnds store batch p r q := by
  rw [fetch_run, h]
  cases batch with
  | nil => exact ⟨_, _, rfl, .nothing rfl⟩
  | cons r rest =>
    have hne : r :: rest ≠ [] := List.cons_ne_nil r rest
    cases hc : g.cancelled with
    | true => exact ⟨_, _, rfl, .cancelled hne hc⟩
    | false =>
      have hs := store.source_cases (r :: rest)
      rw [← hg] at hs
      cases hf : (r :: rest).findSome? store.fault? with
      | some fault =>
        obtain ⟨request, -, hrequest⟩ := List.exists_of_findSome?_eq_some hf
        simp only [hf] at hs
        simp only [hs, Store.ofSource_fault? hrequest]
        exact ⟨_, _, rfl, .refused hne hc hf⟩
      | none =>
        simp only [hf] at hs
        obtain ⟨answers, hsource, hkeys, ha⟩ := hs
        simp only [hsource]
        exact ⟨_, _, rfl, .answered hne hc hf hkeys ha⟩

/-- **A fetch only adds.** It leaves the answers the store's own and changes no entry, also when it fails. -/
theorem fetch_grows (es : List Expr) (w : Window) (p : Progress) :
    g.Grows store p ((g.fetch es w).runFrom p).2 := by
  cases hl : g.lacking p.held es w with
  | error e =>
    rw [fetch_lacking_error hl]
    exact Grows.refl g store p
  | ok batch =>
    obtain ⟨r, q, hrun, hends⟩ := fetch_ends hg hl
    rw [hrun]
    cases hends with
    | nothing hnil => exact Grows.refl g store p
    | cancelled hne hc => exact Grows.refl g store p
    | refused hne hc hf => exact ⟨fun h => ⟨h.agrees, h.cancelled⟩, fun _ _ _ h => h⟩
    | answered hne hc hf hkeys ha =>
      refine ⟨fun h => ⟨(h.agrees.extend ha).1, fun hcan => ?_⟩, fun h => (h.agrees.extend ha).2⟩
      rw [hc] at hcan
      cases hcan

omit hg in
/-- what is lacking decides which fault comes first as all requests do, for those held were answered -/
theorem fault_lacking {p : Progress} (hp : g.Kept store p) (requests : List Request) :
    ((requests.filter fun r => !p.held.holds r).eraseDups).findSome? store.fault? =
      requests.findSome? store.fault? := by
  rw [store.findSome?_eraseDups, store.findSome?_filter]
  intro r _ hr
  obtain ⟨series, hs⟩ := Holdings.holds_iff.1 (by simpa using hr)
  exact Store.fault?_of_answer (hp.agrees r series hs)

omit hg in
/-- a cancelled engine holds nothing, so it lacks nothing only where there is no request -/
theorem eq_nil_of_lacking_nil {p : Progress} (hp : g.Kept store p) (hc : g.cancelled = true) {requests : List Request}
    (h : (requests.filter fun r => !p.held.holds r).eraseDups = []) : requests = [] := by
  rw [hp.cancelled hc] at h
  cases requests with
  | nil => rfl
  | cons r rest => simp [Holdings.holds, Holdings.get?, List.eraseDups_cons] at h

/-- **What a fetch comes to does not depend on what is held.** -/
theorem fetch_result {p : Progress} (hp : g.Kept store p) (es : List Expr) (w : Window) :
    ((g.fetch es w).runFrom p).1 = g.fetched store es w := by
  unfold fetched
  cases hm : es.mapM fun e => g.registry.requests e w with
  | error e => rw [fetch_lacking_error (lacking_error hm p.held)]
  | ok lists =>
    obtain ⟨r, q, hrun, hends⟩ := fetch_ends hg (lacking_ok hm p.held)
    have hfault := fault_lacking hp lists.flatten
    rw [hrun]
    have hnonempty (hne : (lists.flatten.filter fun r => !p.held.holds r).eraseDups ≠ []) : lists.flatten ≠ [] := by
      intro hnil
      rw [hnil] at hne
      exact hne (by simp)
    cases hends with
    | nothing hnil =>
      rw [hnil, List.findSome?_nil] at hfault
      cases hc : g.cancelled with
      | true => simp [eq_nil_of_lacking_nil hp hc hnil]
      | false => simp [← hfault]
    | cancelled hne hc => simp [hnonempty hne, hc]
    | refused hne hc hf =>
      rw [hfault] at hf
      simp only [hnonempty hne, hc, hf, if_false, Bool.false_eq_true]
    | answered hne hc hf hkeys ha =>
      rw [hfault] at hf
      simp only [hnonempty hne, hc, hf, if_false, Bool.false_eq_true]

/-- **After a fetch that succeeds every request of its expressions is held.** -/
theorem fetch_ok {p q : Progress} {es : List Expr} {w : Window} {lists : List (List Request)}
    (hm : es.mapM (fun e => g.registry.requests e w) = .ok lists) (h : (g.fetch es w).runFrom p = (.ok (), q)) :
    ∀ r ∈ lists.flatten, q.held.holds r = true := by
  intro r hr
  have hmem : p.held.holds r = true ∨ r ∈ (lists.flatten.filter fun r => !p.held.holds r).eraseDups := by
    cases hh : p.held.holds r with
    | true => exact Or.inl rfl
    | false =>
      rw [List.mem_eraseDups, List.mem_filter]
      exact Or.inr ⟨hr, by simp [hh]⟩
  obtain ⟨r', q', hrun, hends⟩ := fetch_ends hg (lacking_ok hm p.held)
  rw [h] at hrun
  cases hends with
  | nothing hnil =>
    cases hrun
    rw [hnil] at hmem
    simpa using hmem
  | cancelled hne hc => cases hrun
  | refused hne hc hf => cases hrun
  | @answered answers hne hc hf hkeys ha =>
    cases hrun
    exact Holdings.holds_extend answers p.held r (hkeys ▸ hmem)

/-- after an expression was fetched what is gathered of it is held -/
theorem fetch_holds {p q : Progress} {e : Expr} {w : Window} {requests : List Request}
    (hgather : gather g.registry e w = .ok requests) (h : (g.fetch [e] w).runFrom p = (.ok (), q)) :
    ∀ r ∈ requests, q.held.holds r = true :=
  fun r hr => fetch_ok hg (requests_single hgather) h r (by simpa using hr)

omit hg in
/-- an expression whose fetch succeeds can be gathered -/
theorem gather_of_fetched {e : Expr} {w : Window} (h : g.fetched store [e] w = .ok ()) :
    ∃ requests, gather g.registry e w = .ok requests := by
  cases hgather : gather g.registry e w with
  | error error =>
    rw [fetched, requests_single_error hgather] at h
    cases h
  | ok requests => exact ⟨requests, rfl⟩

/-- on empty holdings a fetch asks for the requests of its expression in one batch; it asks nothing if it is cancelled,
if there are none or if they cannot be told -/
theorem asked_fetch_nil (e : Expr) (w : Window) (asked : List (List Request)) :
    (((g.fetch [e] w).runFrom ⟨[], asked⟩).2.asked = asked ∧
      (g.cancelled = true ∨ g.registry.requests e w = .ok [] ∨ ∃ error, g.registry.requests e w = .error error)) ∨
    (g.cancelled = false ∧ ∃ batch, batch ≠ [] ∧ g.registry.requests e w = .ok batch ∧
      ((g.fetch [e] w).runFrom ⟨[], asked⟩).2.asked = asked ++ [batch]) := by
  cases hgather : gather g.registry e w with
  | error error =>
    have hrequests : g.registry.requests e w = .error error := by
      rw [Registry.requests, hgather]
      rfl
    rw [fetch_lacking_error (lacking_error (requests_single_error hgather) [])]
    exact Or.inl ⟨rfl, Or.inr (Or.inr ⟨error, hrequests⟩)⟩
  | ok requests =>
    have hrequests : g.registry.requests e w = .ok requests.eraseDups := by
      rw [Registry.requests, hgather]
      rfl
    obtain ⟨r, q, hrun, hends⟩ := fetch_ends (p := ⟨[], asked⟩) hg (lacking_nil hgather)
    rw [hrun]
    cases hends with
    | nothing hnil => exact Or.inl ⟨rfl, Or.inr (Or.inl (hnil ▸ hrequests))⟩
    | cancelled hne hc => exact Or.inl ⟨rfl, Or.inl hc⟩
    | refused hne hc hf => exact Or.inr ⟨hc, _, hne, hrequests, rfl⟩
    | answered hne hc hf hkeys ha => exact Or.inr ⟨hc, _, hne, hrequests, rfl⟩

end OverStore

end Engine

end MetricQuery
