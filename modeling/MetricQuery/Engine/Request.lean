/-
Requests for series, and the series held for them.

A request is a metric path or pattern with a window. `Holdings` lists what was fetched so far, in the order in which the
requests were first answered; a request has at most one answer.
-/
import MetricQuery.Series.Basic

namespace MetricQuery

/-- a metric path or pattern, and the window its samples are wanted for -/
structure Request where
  metric : String
  window : Time.Window
  deriving DecidableEq, Repr

namespace Request

/-- the request as messages show it -/
def text (r : Request) : String :=
  s!"{r.metric}[{r.window.start}..{r.window.stop}]"

/-- order by metric, then start, then stop -/
def le (a b : Request) : Bool :=
  if a.metric = b.metric then
    a.window.start < b.window.start || (a.window.start == b.window.start && a.window.stop ≤ b.window.stop)
  else a.metric < b.metric

end Request

/-- answered requests -/
abbrev Holdings := List (Request × List Series)

namespace Holdings

def get? (held : Holdings) (request : Request) : Option (List Series) :=
  List.lookup request held

def holds (held : Holdings) (request : Request) : Bool :=
  (held.get? request).isSome

/-- the holdings with this answer to a request, in place of an older one if there is one -/
def insert (request : Request) (series : List Series) : Holdings → Holdings
  | [] => [(request, series)]
  | (r, old) :: rest =>
    if request = r then (r, series) :: rest else (r, old) :: insert request series rest

/-- answers taken over one after the other -/
def extend (held : Holdings) (answers : List (Request × List Series)) : Holdings :=
  answers.foldl (fun h (r, series) => h.insert r series) held

def erase (held : Holdings) (request : Request) : Holdings :=
  held.filter fun (r, _) => r ≠ request

/-- the answered requests in ascending order, each with the number of its series -/
def summary (held : Holdings) : List (Request × Nat) :=
  (held.map fun (r, series) => (r, series.length)).mergeSort fun a b => a.1.le b.1

/-- the pair in front answers for its request, the others for the rest -/
theorem get?_cons (r : Request) (old : List Series) (rest : Holdings) (request : Request) :
    get? ((r, old) :: rest) request = if request = r then some old else get? rest request := by
  rw [get?, List.lookup_cons]
  by_cases h : request = r
  · simp [h]
  · rw [beq_false_of_ne h, if_neg h, get?]

theorem get?_insert_self (request : Request) (series : List Series) (held : Holdings) :
    get? (insert request series held) request = some series := by
  induction held with
  | nil => simp [insert, get?_cons]
  | cons p rest ih =>
    obtain ⟨r, old⟩ := p
    unfold insert
    split
    · rename_i h
      simp [get?_cons, h]
    · rename_i h
      simp [get?_cons, h, ih]

theorem get?_insert_of_ne {request other : Request} (series : List Series) (held : Holdings) (h : other ≠ request) :
    get? (insert request series held) other = get? held other := by
  induction held with
  | nil => simp [insert, get?_cons, h]
  | cons p rest ih =>
    obtain ⟨r, old⟩ := p
    unfold insert
    split
    · rename_i hr
      subst hr
      simp [get?_cons, h]
    · simp [get?_cons, ih]

end Holdings

end MetricQuery
