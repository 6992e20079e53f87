/-
Functions that combine many series into fewer.

Groups are kept in order of first appearance of their key, and the members of a group in order of the input. Each group
becomes one series, gated by the x-files factor of its first member.
-/
import MetricQuery.Builtin.Shape
import MetricQuery.Series.Align

namespace MetricQuery.Builtin

open Target (Expr Call)

/-! ## Groups -/

/-- groups in order of first appearance of their key, and the place of each by its key -/
structure Groups (α : Type) where
  listed : List (String × List α)
  places : Keyed Nat

/-- a member put into the group of its key, at the end; a new key makes a new group -/
def Groups.add {α : Type} (g : Groups α) (key : String) (x : α) : Groups α :=
  match g.places.get? key with
  | some i => { g with listed := g.listed.modify i fun (k, xs) => (k, xs ++ [x]) }
  | none => ⟨g.listed ++ [(key, [x])], g.places.insert key g.listed.length⟩

def groupBy {α : Type} (key : α → String) (xs : List α) : List (String × List α) :=
  (xs.foldl (fun (g : Groups α) x => g.add (key x) x) ⟨[], []⟩).listed

/-- the x-files factor of the first series -/
def firstFactor : List Series → Float32
  | [] => 0.0
  | s :: _ => s.xFilesFactor

/-- one series for each group, named after its key -/
def aggregateGroups (r : Reducer) (groups : List (String × List Series)) : List Series :=
  groups.flatMap fun (key, members) => Series.aggregate key members r.apply (firstFactor members)

/-! ## Aggregation -/

def aggregate : Function :=
  (Mapping.simple fun c _ series => do
    let name ← c.stringOr "func" 1 ""
    let r ← reducerNamed name
    if series = [] then .ok []
    else
      let factor := (← c.float? "xFilesFactor" 2).elim (firstFactor series) Float.toFloat32
      let first := (c.args.head?.map Expr.render).getD ""
      .ok (Series.aggregate s!"{name}Series({first})" series r.apply factor)).toFunction
    [{ name := "aggregate", group := "Combine", text := "Aggregate series using the specified function.",
       params := [seriesList, { reducerParam "func" with required := true },
         { name := "xFilesFactor", type := .float }] }]

/-- one reducer over all series of all arguments, under its name with and without `Series` -/
def summarizer (base : String) (r : Reducer) : Function :=
  let description : Description :=
    { name := s!"{base}Series", group := "Combine", text := s!"Combine series point by point with '{base}'.",
      params := [{ name := "seriesLists", type := .seriesLists, required := true, variadic := true }] }
  { descriptions := [description, description.under base]
    evaluate := fun ops c w => do
      let found ← seriesPerArg ops c w
      let kept := found.filter fun (_, series) => series ≠ []
      -- arguments that matched nothing are not part of the name
      let argText :=
        if kept.length = c.args.length then c.argText else Text.joinWith "," (kept.map fun (e, _) => e.render)
      let series := kept.flatMap Prod.snd
      pure (Series.aggregate s!"{base}Series({argText})" series r.apply (firstFactor series)) }

def summarizers : List Function :=
  Reducer.names.filterMap fun base => (Reducer.ofName? base).map (summarizer base)

/-- a name without the nodes at some positions -/
def withoutNodes (positions : List Int) (name : String) : String :=
  let kept := (Text.split '.' name).zipIdx.filter fun (_, i) => !positions.contains (i : Int)
  Text.joinWith "." (kept.map Prod.fst)

def aggregateWithWildcards : Function :=
  (Mapping.simple fun c _ series => do
    let r ← reducerNamed (← c.stringAt 1)
    let positions ← c.intsFrom 2
    .ok (aggregateGroups r (groupBy (fun s => withoutNodes positions s.name) series))).toFunction
    [{ name := "aggregateWithWildcards", group := "Combine",
       text := "Aggregate series after removing the given name nodes, grouping by what is left.",
       params := [seriesList, { reducerParam "func" with required := true },
         { name := "positions", type := .integer, variadic := true }] }]

/-- the selector given as `nodeNum`: a string is a tag -/
def nodeSelector (c : Call) : Except EvalError Selector :=
  match c.namedOrAt? "nodeNum" 1 with
  | some (.string key _) => .ok (.tag key)
  | _ => Selector.node <$> c.intOr "nodeNum" 1 0

def groupByNode : Function :=
  (Mapping.simple fun c _ series => do
    let selector ← nodeSelector c
    let r ← reducerNamed (← c.stringOr "callback" 2 "average")
    .ok (aggregateGroups r (groupBy (fun s => s.groupKey [selector]) series))).toFunction
    [{ name := "groupByNode", group := "Combine",
       text := "Group series by one name node or tag and aggregate each group.",
       params := [seriesList, { name := "nodeNum", type := .nodeOrTag, required := true },
         { reducerParam "callback" with default := some (.string "average") }] }]

def groupByNodes : Function :=
  (Mapping.simple fun c _ series => do
    let r ← reducerNamed (← c.stringAt 1)
    let selectors ← c.selectorsFrom 2
    .ok (aggregateGroups r (groupBy (fun s => s.groupKey selectors) series))).toFunction
    [{ name := "groupByNodes", group := "Combine",
       text := "Group series by several name nodes or tags and aggregate each group.",
       params := [seriesList, { reducerParam "callback" with required := true },
         { name := "nodes", type := .nodeOrTag, variadic := true }] }]

def percentileOfSeries : Function :=
  (Mapping.simple fun c _ series => do
    let n ← c.floatOr "n" 1 0.0
    if !Reducer.isPercent n then throw (.invalidArgument c.function (.percentOutOfRange n))
    let interpolate ← c.boolOr "interpolate" 2 false
    let reducer xs := if interpolate then Samples.interpolated xs n else Samples.nearestRank xs n
    let first := (c.args.head?.map Expr.render).getD ""
    .ok (Series.aggregate s!"percentileOfSeries({first},{Decimal.plainText n})" series reducer (firstFactor series))).toFunction
    [{ name := "percentileOfSeries", group := "Combine", text := "Point by point percentile across the series list.",
       params := [seriesList, { name := "n", type := .float, required := true },
         { name := "interpolate", type := .boolean, default := some (.bool false) }] }]

/-! ## Division -/

/-- a quotient, missing where the divisor is missing or zero -/
def quotient (a b : Float) : Float :=
  if b == 0.0 || b.isNaN then Decimal.nan else a / b

/-- one series divided by another, both brought onto one grid first -/
def divide (dividend divisor : Series) : Series :=
  match Series.align [dividend, divisor] with
  | [a, b] =>
    ((a.shell s!"divideSeries({dividend.name},{divisor.name})").withValues (List.zipWith quotient a.values b.values))
  | _ => dividend

def divideSeries : Function where
  descriptions :=
    [{ name := "divideSeries", group := "Combine", text := "Divide each dividend series by a single divisor series.",
       params := [{ name := "dividendSeriesList", type := .seriesList, required := true },
         { name := "divisorSeries", type := .seriesList, required := true }] }]
  evaluate ops c w := do
    let dividends ← seriesAt ops c 0 w
    match ← singleSeriesAt ops c 1 w with
    | none => pure []
    | some divisor => pure (dividends.map fun s => divide s divisor)

def combining : List Function :=
  [aggregate] ++ summarizers ++ [aggregateWithWildcards, groupByNode, groupByNodes, percentileOfSeries, divideSeries]

end MetricQuery.Builtin
