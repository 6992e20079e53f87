/-
Outlines of targets: the tree of an expression written out, on one line or with one part a line.

`Outline` is the shape of such a text: a word, a word with parts in brackets, fields or pairs in braces. Both layouts are
recursions on it, and `Expr.outline` says what the parts of an expression are.
-/
import MetricQuery.Decimal.Shortest
import MetricQuery.Target.Syntax
import MetricQuery.Text.Quoted

namespace MetricQuery.Target

/-- a text with parts -/
inductive Outline where
  | word (text : String)
  /-- parts behind a head, between an opening and a closing text; `gap` separates them from both on one line -/
  | parts (opening closing gap : String) (items : List (String × Outline))

namespace Outline

mutual

/-- all on one line -/
def line : Outline → String
  | .word text => text
  | .parts opening closing gap items =>
    if items.isEmpty then opening ++ closing
    else opening ++ gap ++ ", ".intercalate (lineItems items) ++ gap ++ closing

def lineItems : List (String × Outline) → List String
  | [] => []
  | (label, o) :: rest => (label ++ o.line) :: lineItems rest

end

mutual

/-- each part on a line of its own, further in than what holds it -/
def lines (indent : String) : Outline → String
  | .word text => text
  | .parts opening closing _ items =>
    if items.isEmpty then opening ++ closing
    else opening ++ "\n" ++ String.join (linesItems (indent ++ "    ") items) ++ indent ++ closing

def linesItems (indent : String) : List (String × Outline) → List String
  | [] => []
  | (label, o) :: rest => (indent ++ label ++ lines indent o ++ ",\n") :: linesItems indent rest

end

/-- a word around one part -/
def around (name : String) (o : Outline) : Outline :=
  .parts (name ++ "(") ")" "" [("", o)]

/-- a word with named fields -/
def fields (name : String) (items : List (String × Outline)) : Outline :=
  .parts (name ++ " \x7b") "\x7d" " " (items.map fun (label, o) => (label ++ ": ", o))

end Outline

mutual

def Expr.outline : Expr → Outline
  | .name path => .around "Name" (.word (Text.quoted path))
  | .call f args named argText =>
    .around "Call" (.fields "Call" [("name", .word (Text.quoted f)), ("args", .parts "[" "]" "" (outlineAll args)),
      ("named_args", .parts "\x7b" "\x7d" "" (outlineNamed named)), ("arg_string", .word (Text.quoted argText))])
  | .number value literal =>
    .fields "Const" [("value", .word (Decimal.NumberStyle.dump.write value)), ("literal", .word (Text.quoted literal))]
  | .string value quote =>
    .fields "String" [("value", .word (Text.quoted value)), ("quote", .word (Text.quotedChar quote.char))]
  | .flag value => .around "Bool" (.word (if value then "true" else "false"))

def outlineAll : List Expr → List (String × Outline)
  | [] => []
  | e :: rest => ("", e.outline) :: outlineAll rest

def outlineNamed : List (String × Expr) → List (String × Outline)
  | [] => []
  | (k, e) :: rest => (Text.quoted k ++ ": ", e.outline) :: outlineNamed rest

end

end MetricQuery.Target
