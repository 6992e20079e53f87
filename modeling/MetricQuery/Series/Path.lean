/-
The metric path inside the name of a series.

Computed series are named after the calls that made them, such as `scale(a.b.c,2)`. `metricIn` finds the first metric
path in such a name, and `groupKey` joins nodes of that path and tags of the series to a key to group by.
-/
import MetricQuery.Series.Basic
import MetricQuery.Target.Syntax

namespace MetricQuery

/-- the path read so far with `braces` open groups, the rest of a name still to come.

An opening parenthesis means that what was read names a function, so reading starts over; any other character that a path
cannot hold ends it. -/
def metricScan (braces : Nat) (read : List Char) : List Char → List Char
  | [] => read
  | c :: r =>
    if Target.isNameChar c then metricScan braces (read ++ [c]) r
    else if c = '{' then metricScan (braces + 1) (read ++ [c]) r
    else if c = '}' ∧ 0 < braces then metricScan (braces - 1) (read ++ [c]) r
    else if c = ',' ∧ 0 < braces then metricScan braces (read ++ [c]) r
    else if c = '(' then metricScan braces [] r
    else read

/-- the first metric path inside a name -/
def metricIn (name : String) : String :=
  String.ofList (metricScan 0 [] name.toList)

/-- part of a series to group or name by: a node of its metric path, or a tag -/
inductive Selector where
  /-- counted from zero, or from the end where negative -/
  | node (index : Int)
  | tag (key : String)
  deriving DecidableEq, Repr

/-- what a selector picks; a node out of range gives nothing, a tag that is not there the empty text -/
def Selector.pick (nodes : List String) (tags : Tags) : Selector → Option String
  | .node n =>
    let index := if n < 0 then n + nodes.length else n
    if index < 0 then none else nodes[index.toNat]?
  | .tag key => some ((tags.get? key).getD "")

/-- what the selectors pick from a series, with points between -/
def Series.groupKey (s : Series) (selectors : List Selector) : String :=
  let nodes := Text.split '.' (metricIn s.name)
  Text.joinWith "." (selectors.filterMap (Selector.pick nodes s.tags))

end MetricQuery
