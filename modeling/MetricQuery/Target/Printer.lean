/-
Targets written as text.

Names and numbers are written as they were read, a string in its own quotes with those quotes escaped, and a call as its
name around the text of its argument list.
-/
import MetricQuery.Target.Syntax

namespace MetricQuery.Target

/-- the content of a string literal, each of its own quotes behind a backslash -/
def escapeQuote (q : Char) : List Char → List Char
  | [] => []
  | c :: r => if c = q then '\\' :: c :: escapeQuote q r else c :: escapeQuote q r

def renderString (value : String) (quote : Quote) : String :=
  String.ofList (quote.char :: (escapeQuote quote.char value.toList ++ [quote.char]))

/-- canonical text of an expression -/
def Expr.render : Expr → String
  | .name path => path
  | .call f _ _ argText => f ++ "(" ++ argText ++ ")"
  | .number _ literal => literal
  | .string value quote => renderString value quote
  | .flag value => if value then "true" else "false"

end MetricQuery.Target
