/-
JSON written as text, on one line or with one item a line. A broken value is written as null.
-/
import MetricQuery.Json.Value

namespace MetricQuery.Json

def hexChar (n : Nat) : Char :=
  (Nat.toDigits 16 n).headD '0'

/-- a character inside a string; quotes, backslashes and control characters are escaped -/
def escapeChar (c : Char) : List Char :=
  if c = '"' then ['\\', '"']
  else if c = '\\' then ['\\', '\\']
  else if c = '\n' then ['\\', 'n']
  else if c = '\r' then ['\\', 'r']
  else if c = '\t' then ['\\', 't']
  else if c = '\x08' then ['\\', 'b']
  else if c = '\x0c' then ['\\', 'f']
  else if c.toNat < 32 then ['\\', 'u', '0', '0', hexChar (c.toNat / 16), hexChar (c.toNat % 16)]
  else [c]

def quote (s : String) : String :=
  String.ofList ('"' :: (s.toList.flatMap escapeChar ++ ['"']))

mutual

/-- a value on one line, without spaces -/
def compact : Json → String
  | .null | .broken => "null"
  | .bool b => if b then "true" else "false"
  | .number literal => literal
  | .string s => quote s
  | .array items => "[" ++ ",".intercalate (compactItems items) ++ "]"
  | .object members => "\x7b" ++ ",".intercalate (compactMembers members) ++ "\x7d"

def compactItems : List Json → List String
  | [] => []
  | j :: rest => j.compact :: compactItems rest

def compactMembers : List (String × Json) → List String
  | [] => []
  | (k, j) :: rest => (quote k ++ ":" ++ j.compact) :: compactMembers rest

end

/-- items between brackets, each on a line of its own, two spaces further in than the brackets -/
def bracketed (indent : String) (opening closing : String) (items : List String) : String :=
  if items = [] then opening ++ closing
  else
    let inner := indent ++ "  "
    opening ++ "\n" ++ inner ++ (",\n" ++ inner).intercalate items ++ "\n" ++ indent ++ closing

mutual

/-- a value with one item a line, from the given indentation on -/
def prettyFrom (indent : String) : Json → String
  | .null | .broken => "null"
  | .bool b => if b then "true" else "false"
  | .number literal => literal
  | .string s => quote s
  | .array items => bracketed indent "[" "]" (prettyItems (indent ++ "  ") items)
  | .object members => bracketed indent "\x7b" "\x7d" (prettyMembers (indent ++ "  ") members)

def prettyItems (indent : String) : List Json → List String
  | [] => []
  | j :: rest => prettyFrom indent j :: prettyItems indent rest

def prettyMembers (indent : String) : List (String × Json) → List String
  | [] => []
  | (k, j) :: rest => (quote k ++ ": " ++ prettyFrom indent j) :: prettyMembers indent rest

end

/-- a value with one item a line -/
def pretty (j : Json) : String :=
  prettyFrom "" j

end MetricQuery.Json
