/-
Replacement templates that refer to groups.

In a template `$name` and `${name}` stand for the text of a group, by number or by name, and `$$` for a dollar sign. A
reference to a group that is not there stands for nothing; a dollar sign that begins no reference stands for itself.
-/
import MetricQuery.Pattern.Search
import MetricQuery.Decimal.Reader

namespace MetricQuery.Pattern

/-- a part of a template -/
inductive Piece where
  | char (c : Char)
  /-- a group by number or name -/
  | group (reference : List Char)
  deriving DecidableEq, Repr

def isReferenceChar (c : Char) : Bool :=
  c.isAlphanum || c == '_'

/-- the reference behind a dollar sign, and the text behind that -/
def readReference (s : List Char) : Option (List Char × List Char) :=
  match s with
  | '\x7b' :: r =>
    match r.dropWhile (· ≠ '\x7d') with
    | _ :: rest => some (r.takeWhile (· ≠ '\x7d'), rest)
    | [] => none
  | s =>
    let name := s.takeWhile isReferenceChar
    if name = [] then none else some (name, s.drop name.length)

/-- the pieces of a template -/
def readTemplate : Nat → List Char → List Piece
  | 0, _ => []
  | _, [] => []
  | fuel + 1, c :: r =>
    if c = '$' then
      match r with
      | '$' :: r => .char '$' :: readTemplate fuel r
      | r =>
        match readReference r with
        | some (reference, rest) => .group reference :: readTemplate fuel rest
        | none => .char '$' :: readTemplate fuel r
    else .char c :: readTemplate fuel r

/-- pieces put together, `group` giving the text of a reference -/
def expandPieces (group : List Char → List Char) (pieces : List Piece) : List Char :=
  pieces.flatMap fun
    | .char c => [c]
    | .group reference => group reference

/-- a template with its references replaced -/
def expand (group : List Char → List Char) (template : List Char) : List Char :=
  expandPieces group (readTemplate template.length template)

/-- the text of a reference in a match: digits that fit in a word are a number, anything else a name -/
def Regex.groupText (r : Regex) (s : List Char) (m : Match) (reference : List Char) : List Char :=
  let index := if reference ≠ [] ∧ reference.all Char.isDigit ∧ Decimal.digitsValue reference < Nat.pow 2 64
    then some (Decimal.digitsValue reference)
    else r.names.lookup (String.ofList reference)
  ((index.bind (m.group? s)).getD [])

end MetricQuery.Pattern
