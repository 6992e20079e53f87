/-
Text cut at a separator.

`splitAt sep s` lists the parts of `s` between the occurrences of `sep`, empty parts included: there is always one part
more than there are separators. `joinWith` puts parts together again.
-/
namespace MetricQuery.Text

/-- the parts of a text between the occurrences of one character -/
def splitAt (sep : Char) : List Char → List (List Char)
  | [] => [[]]
  | c :: r =>
    if c = sep then [] :: splitAt sep r
    else match splitAt sep r with
      | [] => [[c]]
      | part :: parts => (c :: part) :: parts

/-- the parts of a text between the occurrences of one character -/
def split (sep : Char) (s : String) : List String :=
  (splitAt sep s.toList).map String.ofList

/-- the text in front of the first `sep`, and the text behind it -/
def splitOnce (sep : Char) (s : List Char) : Option (List Char × List Char) :=
  match s.dropWhile (· ≠ sep) with
  | [] => none
  | _ :: value => some (s.takeWhile (· ≠ sep), value)

/-- parts with a separator between them -/
def joinWith (sep : String) (parts : List String) : String :=
  sep.intercalate parts

theorem splitAt_ne_nil (sep : Char) (s : List Char) : splitAt sep s ≠ [] := by
  induction s with
  | nil => simp [splitAt]
  | cons c r ih =>
    unfold splitAt
    split
    · simp
    · split <;> simp

end MetricQuery.Text
