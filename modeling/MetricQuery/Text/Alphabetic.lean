/-
The characters that a name may be made of besides punctuation: letters, letter numbers and letter marks of every script.
-/
import MetricQuery.Unicode.Property

namespace MetricQuery.Text

/-- the property Alphabetic; ASCII is decided without its table -/
def isAlphabetic (c : Char) : Bool :=
  if c.val < 128 then c.isAlpha else Unicode.alphabetic.holds c

end MetricQuery.Text
