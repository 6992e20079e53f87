/-
Quoted text for dumps.

Between the quotes a character stands for itself unless it is a quote or backslash, has no glyph, or joins the character
before it; such a one is written as an escape.
-/
import MetricQuery.Text.Unprinted

namespace MetricQuery.Text

/-- a character inside quotes of the given kind -/
def escapeFor (quote c : Char) : List Char :=
  if c = quote ∨ c = '\\' then ['\\', c]
  else if c = '\n' then ['\\', 'n']
  else if c = '\r' then ['\\', 'r']
  else if c = '\t' then ['\\', 't']
  else if c = '\x00' then ['\\', '0']
  else if hasNoGlyph c || extendsGrapheme c then '\\' :: 'u' :: '\x7b' :: (Nat.toDigits 16 c.toNat ++ ['\x7d'])
  else [c]

/-- a text in double quotes -/
def quoted (s : String) : String :=
  String.ofList ('"' :: (s.toList.flatMap (escapeFor '"') ++ ['"']))

/-- a character in single quotes -/
def quotedChar (c : Char) : String :=
  String.ofList ('\'' :: (escapeFor '\'' c ++ ['\'']))

end MetricQuery.Text
