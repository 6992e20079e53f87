/-
Sets of characters by the names that Unicode gives them.

Names are matched loosely: case, spaces, hyphens, underscores and a leading `is` do not count. A name alone is that of
a two-valued property, a general category or a script; with a value it is that of a property in `setOfValue?`.
-/
import MetricQuery.Unicode.Age
import MetricQuery.Unicode.Segmentation

namespace MetricQuery.Unicode

/-- a name without what does not count; `isc` is the one name that the leading `is` belongs to -/
def looseName (name : List Char) : List Char :=
  let marked := (name.take 2).map Char.toLower == ['i', 's']
  let rest := ((if marked then name.drop 2 else name).filter fun c =>
    c.val < 128 && c != ' ' && c != '_' && c != '-').map Char.toLower
  if marked && rest == ['c'] then ['i', 's', 'c'] else rest

/-- whether a loose name is one of some names -/
def namedBy (loose : List Char) (names : List String) : Bool :=
  names.any fun name => looseName name.toList == loose

def findNamed? (loose : List Char) (sets : List (List String × CodeSet)) : Option CodeSet :=
  (sets.find? fun entry => namedBy loose entry.1).map Prod.snd

/-- the script with a name, its characters given by `characters` -/
def findScript? (loose : List Char) (characters : Table → CodeSet) : Option CodeSet :=
  (scripts.find? fun t => namedBy loose t.names).map characters

/-- the code points assigned in a version of Unicode or before it -/
def assignedBy? (loose : List Char) : Option CodeSet :=
  let older := ages.takeWhile fun t => !namedBy loose t.names
  match ages.drop older.length with
  | t :: _ => some (.ofRanges ((older ++ [t]).flatMap fun t => rangesOfLines t.lines))
  | [] => none

/-- the set that a name alone stands for -/
def setOfName? (name : List Char) : Option CodeSet :=
  let loose := looseName name
  (findNamed? loose properties).or <| (findNamed? loose Category.named).or (findScript? loose Table.set)

/-- the set of the characters for which a property has a value -/
def setOfValue? (property value : List Char) : Option CodeSet :=
  let loose := looseName value
  let isNamed := namedBy (looseName property)
  if isNamed ["gc", "General_Category"] then findNamed? loose Category.named
  else if isNamed ["sc", "Script"] then findScript? loose Table.set
  else if isNamed ["scx", "Script_Extensions"] then findScript? loose Table.withShared
  else if isNamed ["Age"] then assignedBy? loose
  else if isNamed ["GCB", "Grapheme_Cluster_Break"] then findNamed? loose graphemeBreaks
  else if isNamed ["WB", "Word_Break"] then findNamed? loose wordBreaks
  else if isNamed ["SB", "Sentence_Break"] then findNamed? loose sentenceBreaks
  else none

end MetricQuery.Unicode
