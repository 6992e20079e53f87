/-
What can be wrong with a regular expression.
-/
namespace MetricQuery.Pattern

inductive Fault where
  | unclosedClass
  | badClass
  | badRange
  | unclosedGroup
  | unopenedGroup
  | badGroupName
  | badFlags
  | badEscape
  | badCodePoint
  | badBoundary
  | nothingToRepeat
  | badRepetition
  | lookAround
  | unknownProperty
  | notText
  | tooDeep
  /-- well formed, but too large to be searched for -/
  | tooLarge
  deriving DecidableEq, Repr

/-- how many levels of a pattern may lie within each other -/
def nestingLimit : Nat := 250

/-- the bytes that a pattern may take when it is made ready for a search -/
def sizeLimit : Nat := 10 * Nat.pow 2 20

/-- what is wrong with a malformed pattern, under the heading that every such diagnosis has -/
def Fault.message : Fault → String
  | .tooLarge => s!"Compiled regex exceeds size limit of {sizeLimit} bytes."
  | fault => "regex parse error: " ++ diagnosis fault
where
  diagnosis : Fault → String
    | .unclosedClass => "unclosed character class"
    | .badClass => "invalid character class"
    | .badRange => "invalid character class range"
    | .unclosedGroup => "unclosed group"
    | .unopenedGroup => "unopened group"
    | .badGroupName => "invalid group name"
    | .badFlags => "invalid flags"
    | .badEscape => "unrecognized escape sequence"
    | .badCodePoint => "invalid code point"
    | .badBoundary => "invalid word boundary"
    | .nothingToRepeat => "repetition operator missing expression"
    | .badRepetition => "invalid repetition"
    | .lookAround => "look-around is not supported"
    | .unknownProperty => "unknown property"
    | .notText => "pattern can match invalid text"
    | .tooDeep => "too many nested levels"
    | .tooLarge => "too large"

end MetricQuery.Pattern
