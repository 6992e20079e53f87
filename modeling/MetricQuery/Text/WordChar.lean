/-
The characters that regular expressions call digits and word characters.

A word character is alphabetic, a decimal digit, a mark, a connector such as `_`, or one of the two joiners.
-/
import MetricQuery.Text.Alphabetic

namespace MetricQuery.Text

def decimalDigits : Unicode.CodeSet := Unicode.Category.decimalNumber.set

def wordChars : Unicode.CodeSet :=
  Unicode.alphabetic ∪ Unicode.joinControl ∪
    Unicode.Category.union (.decimalNumber :: .connectorPunctuation :: Unicode.Category.marks)

def isDecimalDigit (c : Char) : Bool :=
  if c.val < 128 then c.isDigit else decimalDigits.holds c

def isWordChar (c : Char) : Bool :=
  if c.val < 128 then c.isAlphanum || c == '_' else wordChars.holds c

/-- the letters and the numbers of every kind -/
def isAlphanumeric (c : Char) : Bool :=
  isAlphabetic c || (Unicode.Category.union Unicode.Category.numbers).holds c

end MetricQuery.Text
