/-
Patterns made ready for a search: read from text, measured, and turned into programs.
-/
import MetricQuery.Pattern.Footprint
import MetricQuery.Pattern.Reader
import MetricQuery.Pattern.Search

namespace MetricQuery.Pattern

def Tree.regex (t : Tree) : Regex :=
  let program := t.root.program
  { program, steps := program.states.foldl (fun n s => n + s.width) 0, groups := t.groups, names := t.names }

/-- the regular expression that takes up a whole text, unless it is malformed or too large -/
def compile (text : String) : Except Fault Regex := do
  let tree ← parse text
  if tree.root.fits then .ok tree.regex else .error .tooLarge

end MetricQuery.Pattern
