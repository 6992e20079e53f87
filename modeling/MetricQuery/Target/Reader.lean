/-
Targets read from text.

  expr    := name | number | string | name '(' args ')' | expr '|' name '(' args ')'
  args    := [ arg (',' arg)* ]
  arg     := expr | name '=' literal

`x | f(y)` means `f(x,y)`: each application takes what stands before the bar as its first argument. A name may hold
brace groups, in which commas belong to the name, and characters escaped by a backslash; `=` belongs to a name only
where nothing could follow it as a value. Text that starts like a number but goes on like a name is a name.

The readers work on the rest of the text and return what they left of it. `parsePart` reads one expression from the
start of a text, `parse` a text that holds nothing else. Fuel bounds the depth of the recursion; `enough` is more than
any text can use, because at least one character goes between two steps that spend fuel in a loop.
-/
import MetricQuery.Target.Printer
import MetricQuery.Target.ReadError
import MetricQuery.Text.Blank
import MetricQuery.Decimal.Reader

namespace MetricQuery.Target

open Text

/-- the text after the spaces it starts with -/
def skipSpaces (s : List Char) : List Char :=
  s.dropWhile isSpace

/-- the part of `s` in front of its suffix `rest` -/
def before (s rest : List Char) : List Char :=
  s.take (s.length - rest.length)

/-! ## Names -/

/-- a scanned name, the text left, and for each brace still open the text from it on, innermost first -/
structure NameScan where
  name : List Char
  rest : List Char
  opened : List (List Char)
  deriving DecidableEq

def NameScan.push (c : Char) (s : NameScan) : NameScan :=
  { s with name := c :: s.name }

/-- whether `=` with this text behind it belongs to the name -/
def endsName : List Char → Bool
  | [] => true
  | c :: _ => c == '=' || c == ',' || c == ')'

def scanName (opened : List (List Char)) : List Char → NameScan
  | [] => ⟨[], [], opened⟩
  | ['\\'] => ⟨[], [], opened⟩
  | '\\' :: c :: r => (scanName opened r).push c
  | c :: r =>
    if isNameChar c then (scanName opened r).push c
    else if c = '{' then (scanName ((c :: r) :: opened) r).push c
    else if c = '}' ∧ opened ≠ [] then (scanName opened.tail r).push c
    else if c = ',' ∧ opened ≠ [] then (scanName opened r).push c
    else if c = '=' ∧ endsName r then (scanName opened r).push c
    else ⟨[], c :: r, opened⟩

/-- a metric name; of several open braces the first is at fault -/
def readName (s : List Char) : Except Failure (List Char × List Char) :=
  let scan := scanName [] s
  match scan.opened.getLast? with
  | some rest => .error ⟨rest, .unmatchedBrace⟩
  | none => .ok (scan.name, scan.rest)

/-! ## Literals -/

def isNumberChar (c : Char) : Bool :=
  c.isDigit || c == '.' || c == '+' || c == '-' || c == 'e' || c == 'E'

/-- whether a name goes on with this text -/
def goesOn : List Char → Bool
  | [] => false
  | c :: _ => isNameChar c || c == '{' || c == '\\'

/-- the number a text starts with, unless the text goes on like a name -/
def readNumber (s : List Char) : Option (Expr × List Char) :=
  let literal := s.takeWhile isNumberChar
  let rest := s.dropWhile isNumberChar
  if goesOn rest then none
  else (Decimal.readFloat literal).map fun x => (.number x (String.ofList literal), rest)

/-- the content of a string literal up to its closing quote, and the text after that -/
def scanString (q : Char) : List Char → Option (List Char × List Char)
  | [] => none
  | [c] => if c = q then some ([], []) else none
  | c :: d :: r =>
    if c = q then some ([], d :: r)
    else if c = '\\' ∧ d = q then (scanString q r).map fun (v, rest) => (q :: v, rest)
    else (scanString q (d :: r)).map fun (v, rest) => (c :: v, rest)

/-- a string literal, `s` being the text from its opening quote on -/
def readString (quote : Quote) (s : List Char) : Except Failure (Expr × List Char) :=
  match scanString quote.char s.tail with
  | some (value, rest) => .ok (.string (String.ofList value) quote, rest)
  | none => .error ⟨s, .missingQuote quote⟩

/-! ## Arguments -/

def isTruthWord (word : String) : Bool :=
  isWordAnyCase word "true" || isWordAnyCase word "false"

/-- the value of a named argument: a bare `true` or `false` becomes a truth value, a call is refused -/
def namedValue : Expr → Option Expr
  | .name path =>
    if isWordAnyCase path "true" then some (.flag true)
    else if isWordAnyCase path "false" then some (.flag false)
    else some (.name path)
  | .call .. => none
  | e => some e

/-- a positional argument: a bare `true` or `false` becomes a string -/
def positionalValue : Expr → Expr
  | .name path => if isTruthWord path then .string path .single else .name path
  | e => e

/-- a call with one more argument in front; its argument text starts with that argument's text -/
def Call.withFirst (first : Expr) (c : Call) : Call :=
  { c with
    args := first :: c.args
    argText := if c.argText = "" then first.render else first.render ++ "," ++ c.argText }

/-- the arguments read so far and the text of each -/
structure ArgList where
  args : List Expr := []
  named : Keyed Expr := []
  pieces : List String := []

def ArgList.toCall (a : ArgList) (function : String) : Call :=
  ⟨function, a.args, a.named, ",".intercalate a.pieces⟩

def startsExpression (c : Char) : Bool :=
  isNameChar c || c == '\'' || c == '"' || c == '{' || c == '\\'

/-! ## Expressions -/

mutual

/-- an expression with the applications behind it, and whether there were any -/
def readPiped : Nat → List Char → Except Failure ((Expr × Bool) × List Char)
  | 0, s => .error ⟨s, .unexpected⟩
  | fuel + 1, s => do
    let (e, rest) ← readOperand fuel s
    readPipes fuel e false rest

/-- the applications behind `lhs` -/
def readPipes : Nat → Expr → Bool → List Char → Except Failure ((Expr × Bool) × List Char)
  | 0, _, _, s => .error ⟨s, .unexpected⟩
  | fuel + 1, lhs, piped, s =>
    match skipSpaces s with
    | '|' :: afterBar => do
      let (rhs, rest) ← readOperand fuel afterBar
      match rhs.call? with
      | some c => readPipes fuel (c.withFirst lhs).toExpr true rest
      | none => .error ⟨skipSpaces s, .pipeTarget⟩
    | rest => .ok ((lhs, piped), rest)

/-- an expression up to the first bar that is not inside it -/
def readOperand : Nat → List Char → Except Failure (Expr × List Char)
  | 0, s => .error ⟨s, .unexpected⟩
  | fuel + 1, s =>
    match skipSpaces s with
    | [] => .error ⟨[], .missingExpr⟩
    | c :: r =>
      if c = ',' ∨ c = ')' then .error ⟨c :: r, .missingExpr⟩
      else if c = '\'' then readString .single (c :: r)
      else if c = '"' then readString .double (c :: r)
      else if c.isDigit ∨ c = '-' ∨ c = '+' then
        match readNumber (c :: r) with
        | some found => .ok found
        | none => readNameOrCall fuel (c :: r)
      else readNameOrCall fuel (c :: r)

def readNameOrCall : Nat → List Char → Except Failure (Expr × List Char)
  | 0, s => .error ⟨s, .unexpected⟩
  | fuel + 1, s => do
    let (name, rest) ← readName s
    if name = [] then .error ⟨s, .unexpected⟩
    else match rest with
      | '(' :: inner =>
        match skipSpaces inner with
        | ')' :: after => .ok ((Call.mk (String.ofList name) [] [] "").toExpr, after)
        | _ => do
          let (args, after) ← readArgs fuel rest {} inner
          .ok ((args.toCall (String.ofList name)).toExpr, after)
      | _ => .ok (.name (String.ofList name), rest)

/-- the arguments from `s` on, up to the parenthesis that closes the one `opening` starts with -/
def readArgs : Nat → List Char → ArgList → List Char → Except Failure (ArgList × List Char)
  | 0, _, _, s => .error ⟨s, .unexpected⟩
  | fuel + 1, opening, acc, s => do
    let start := skipSpaces s
    if start = [] then .error ⟨opening, .missingParen⟩
    else
      let ((arg, piped), rest) ← readPiped fuel s
      let (acc, rest) ← match arg, rest with
        | .name key, '=' :: valueText => do
          let ((value, _), after) ← readPiped fuel valueText
          match namedValue value with
          | none => .error ⟨start, .badNamedArgument key⟩
          | some value =>
            if (acc.named.get? key).isSome then .error ⟨start, .duplicateNamedArgument key⟩
            else
              let piece := String.ofList (before s after)
              .ok ({ acc with named := acc.named.insert key value, pieces := acc.pieces ++ [piece] }, after)
        | arg, rest =>
          let piece := if piped then arg.render else String.ofList (before s rest)
          .ok ({ acc with args := acc.args ++ [positionalValue arg], pieces := acc.pieces ++ [piece] }, rest)
      match skipSpaces rest with
      | [] => .error ⟨opening, .missingParen⟩
      | c :: after =>
        if c = ')' then .ok (acc, after)
        else if c = ',' then readArgs fuel opening acc after
        else if startsExpression c then .error ⟨c :: after, .missingComma⟩
        else .error ⟨c :: after, .unexpected⟩

end

/-! ## Whole texts -/

/-- fuel that no text of this length can use up -/
def enough (s : List Char) : Nat :=
  4 * s.length + 8

/-- one expression from the start of a text, and the text it left -/
def readExpr (s : List Char) : Except Failure (Expr × List Char) := do
  let ((e, _), rest) ← readPiped (enough s) s
  .ok (e, rest)

/-- one expression from the start of a text, and the text it left -/
def parsePart (text : String) : Except ReadError (Expr × String) :=
  match readExpr text.toList with
  | .ok (e, rest) => .ok (e, String.ofList rest)
  | .error f => .error (f.locate text.toList)

/-- the expression that takes up a whole text, white space at its ends apart -/
def parse (text : String) : Except ReadError Expr :=
  match readExpr text.toList with
  | .error f => .error (f.locate text.toList)
  | .ok (e, rest) =>
    match trimStart rest with
    | [] => .ok e
    | trailing => .error (Failure.locate text.toList ⟨trailing, .unexpected⟩)

end MetricQuery.Target
