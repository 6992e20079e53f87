/-
Functions that rename series.

`aliasQuery` fills a name with the last value of a series: the matches of a regular expression in the metric path are
replaced, what comes of it takes the place of the matches in a second text, and the value is put in place of the
specifiers of that text.
-/
import MetricQuery.Builtin.Shape
import MetricQuery.Decimal.Fixed
import MetricQuery.Pattern.Compile
import MetricQuery.Pattern.Template

namespace MetricQuery.Builtin

/-! ## New names -/

def aliasTo : Function :=
  (Mapping.perSeries fun c _ => do
    let name ← c.stringOr "newName" 1 ""
    .ok fun s => { s.renamed name with path := name }).toFunction
    [{ name := "alias", group := "Alias", text := "Replace the name of every series.",
       params := [seriesList, { name := "newName", type := .string, required := true }] }]

/-- the last node of a metric path -/
def lastNode (path : String) : String :=
  (Text.split '.' path).getLastD path

def aliasByMetric : Function :=
  (Mapping.perSeries fun _ _ => .ok fun s =>
    let name := lastNode ((s.tags.get? Tags.nameKey).getD (metricIn s.name))
    { s.renamed name with path := name }).toFunction
    [{ name := "aliasByMetric", group := "Alias", text := "Name each series after the last node of its metric path.",
       params := [seriesList] }]

/-- one function under two names -/
def aliasByNode : Function :=
  let description : Description :=
    { name := "aliasByNode", group := "Alias",
      text := "Name each series after selected name nodes or tag values, joined by '.'.",
      params := [seriesList, { name := "nodes", type := .nodeOrTag, variadic := true }] }
  (Mapping.perSeries fun c _ => do
    let selectors ← c.selectorsFrom 1
    .ok fun s => s.renamed (s.groupKey selectors)).toFunction
    [description, description.under "aliasByTags"]

/-! ## Back references -/

/-- a replacement with back references such as `\1`, as a template with references such as `${1}`.

A dollar sign is doubled, so that it stands for itself. `digits` holds the reference being read, if there is one. -/
def templateOf (digits : Option (List Char)) : List Char → List Char
  | [] => closeReference digits
  | c :: r =>
    match digits with
    | some ds =>
      if c.isDigit then templateOf (some (ds ++ [c])) r
      else closeReference (some ds) ++ outside c r
    | none => outside c r
where
  closeReference : Option (List Char) → List Char
    | some ds => '$' :: '\x7b' :: ds ++ ['\x7d']
    | none => []
  outside (c : Char) (r : List Char) : List Char :=
    if c = '\\' ∧ (r.head?.map Char.isDigit).getD false then templateOf (some []) r
    else if c = '$' then '$' :: '$' :: templateOf none r
    else c :: templateOf none r

/-! ## Values in text -/

/-- the text a specifier gives for a value, and the text behind the specifier; none if there is no specifier.

`%d` and `%i` cut the value to a whole number, `%f` writes six places and `%.Nf` as many as it says, `%g` and `%s` write
the value plainly, and `%%` is a percent sign. -/
def readSpecifier (value : Float) : List Char → Option (List Char × List Char)
  | '.' :: r =>
    let (ds, r) := Decimal.spanDigits r
    -- a count too large for a word counts as none
    let places := if Decimal.digitsValue ds < Nat.pow 2 64 then Decimal.digitsValue ds else 0
    match r with
    | 'f' :: r => some ((Decimal.fixedText places value).toList, r)
    | _ => none
  | 'd' :: r => some (wholeText value, r)
  | 'i' :: r => some (wholeText value, r)
  | 'f' :: r => some ((Decimal.fixedText 6 value).toList, r)
  | 'g' :: r => some ((Decimal.plainText value).toList, r)
  | 's' :: r => some ((Decimal.plainText value).toList, r)
  | '%' :: r => some (['%'], r)
  | _ => none
where
  wholeText (value : Float) : List Char :=
    if value.isFinite then (toString (truncate value)).toList else (Decimal.plainText value).toList

/-- a text with the specifiers in it replaced by a value; other percent signs stand for themselves -/
def formatValue (value : Float) : Nat → List Char → List Char
  | 0, _ => []
  | _, [] => []
  | fuel + 1, c :: r =>
    if c = '%' then
      match readSpecifier value r with
      | some (text, rest) => text ++ formatValue value fuel rest
      | none => '%' :: formatValue value fuel r
    else c :: formatValue value fuel r

/-- the name that `aliasQuery` gives to a series -/
def queriedName (search : Pattern.Regex) (replace newName : String) (s : Series) : String :=
  let path := (metricIn s.name).toList
  let template := templateOf none replace.toList
  let inserted := search.replaceAll path fun m => Pattern.expand (search.groupText path m) template
  let filled := search.replaceAll newName.toList fun _ => inserted
  String.ofList (formatValue (s.lastValue?.getD Decimal.nan) filled.length filled)

def aliasQuery : Function :=
  (Mapping.perSeries fun c _ => do
    let search ← c.stringOr "search" 1 ""
    let replace ← c.stringOr "replace" 2 ""
    let newName ← c.stringOr "newName" 3 ""
    match Pattern.compile search with
    | .error fault => throw (.invalidArgument c.function (.badSearchPattern fault.message))
    | .ok regex => .ok fun s => s.renamed (queriedName regex replace newName s)).toFunction
    [{ name := "aliasQuery", group := "Alias",
       text := "Rename each series with a name built from its path, filled in with its last non-null value.",
       params := [seriesList, { name := "search", type := .string, required := true },
         { name := "replace", type := .string, required := true },
         { name := "newName", type := .string, required := true }] }]

def aliasing : List Function := [aliasTo, aliasByMetric, aliasByNode, aliasQuery]

end MetricQuery.Builtin
