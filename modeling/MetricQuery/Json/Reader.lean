/-
JSON read from text.

`Json.parse` accepts exactly one value with white space around it. Control characters may not stand in a string. An
escaped surrogate without its partner leaves a broken value, and a key may occur more than once: what that means is for
the reader of the value.
-/
import MetricQuery.Json.Value

namespace MetricQuery.Json

def skipBlanks (s : List Char) : List Char :=
  s.dropWhile fun c => c == ' ' || c == '\n' || c == '\t' || c == '\r'

def hexDigit? (c : Char) : Option Nat :=
  if c.isDigit then some (c.toNat - '0'.toNat)
  else if 'a' ≤ c ∧ c ≤ 'f' then some (c.toNat - 'a'.toNat + 10)
  else if 'A' ≤ c ∧ c ≤ 'F' then some (c.toNat - 'A'.toNat + 10)
  else none

/-- four hexadecimal digits, and the text behind them -/
def readUnit : List Char → Option (Nat × List Char)
  | a :: b :: c :: d :: r => do
    let a ← hexDigit? a
    let b ← hexDigit? b
    let c ← hexDigit? c
    let d ← hexDigit? d
    some (((a * 16 + b) * 16 + c) * 16 + d, r)
  | _ => none

/-- the character of an escape `\u`, from its digits on; two surrogates in turn make one character, and one alone makes
none -/
def readEscapedUnit (s : List Char) : Option (Option Char × List Char) := do
  let (unit, r) ← readUnit s
  if 0xD800 ≤ unit ∧ unit < 0xDC00 then
    match r with
    | '\\' :: 'u' :: behind => do
      let (low, behind) ← readUnit behind
      if 0xDC00 ≤ low ∧ low < 0xE000 then
        some (some (Char.ofNat (0x10000 + (unit - 0xD800) * 0x400 + (low - 0xDC00))), behind)
      else some (none, r)
    | _ => some (none, r)
  else if 0xDC00 ≤ unit ∧ unit < 0xE000 then some (none, r)
  else some (some (Char.ofNat unit), r)

/-- the character of an escape, from behind its backslash on -/
def readEscape : List Char → Option (Option Char × List Char)
  | '"' :: r => some (some '"', r)
  | '\\' :: r => some (some '\\', r)
  | '/' :: r => some (some '/', r)
  | 'b' :: r => some (some '\x08', r)
  | 'f' :: r => some (some '\x0c', r)
  | 'n' :: r => some (some '\n', r)
  | 'r' :: r => some (some '\r', r)
  | 't' :: r => some (some '\t', r)
  | 'u' :: r => readEscapedUnit r
  | _ => none

/-- the content of a string up to its closing quote, unless it is broken, and the text behind it; `read` holds what stands
in front, the last character first -/
def readText : Nat → Option (List Char) → List Char → Option (Option String × List Char)
  | 0, _, _ => none
  | _, _, [] => none
  | fuel + 1, read, c :: r =>
    if c = '"' then some (read.map fun cs => String.ofList cs.reverse, r)
    else if c = '\\' then
      (readEscape r).bind fun (e, r) => readText fuel (e.bind fun e => read.map (e :: ·)) r
    else if c.toNat < 32 then none
    else readText fuel (read.map (c :: ·)) r

def isNumeralChar (c : Char) : Bool :=
  c.isDigit || c == '-' || c == '+' || c == '.' || c == 'e' || c == 'E'

/-- a number; what follows it may not look like part of it, as nothing that may follow a value does -/
def readNumber (s : List Char) : Option (Json × List Char) :=
  let literal := s.takeWhile isNumeralChar
  match readNumeral literal with
  | some (_, []) => some (.number (String.ofList literal), s.dropWhile isNumeralChar)
  | _ => none

/-- a word that stands for a value -/
def readWord (word : List Char) (value : Json) (s : List Char) : Option (Json × List Char) :=
  if word.isPrefixOf s then some (value, s.drop word.length) else none

mutual

def readValue : Nat → List Char → Option (Json × List Char)
  | 0, _ => none
  | fuel + 1, s =>
    match skipBlanks s with
    | '"' :: r => (readText fuel (some []) r).map fun (text, r) => (text.elim .broken .string, r)
    | '[' :: r =>
      match skipBlanks r with
      | ']' :: r => some (.array [], r)
      | _ => (readItems fuel r).map fun (items, r) => (.array items, r)
    | '\x7b' :: r =>
      match skipBlanks r with
      | '\x7d' :: r => some (.object [], r)
      | _ => (readMembers fuel r).map fun (members, r) => (members.elim .broken .object, r)
    | 'n' :: r => readWord ['n', 'u', 'l', 'l'] .null ('n' :: r)
    | 't' :: r => readWord ['t', 'r', 'u', 'e'] (.bool true) ('t' :: r)
    | 'f' :: r => readWord ['f', 'a', 'l', 's', 'e'] (.bool false) ('f' :: r)
    | rest => readNumber rest

/-- items up to the closing bracket -/
def readItems : Nat → List Char → Option (List Json × List Char)
  | 0, _ => none
  | fuel + 1, s => do
    let (item, r) ← readValue fuel s
    match skipBlanks r with
    | ',' :: r => do
      let (items, r) ← readItems fuel r
      some (item :: items, r)
    | ']' :: r => some ([item], r)
    | _ => none

/-- members up to the closing brace, unless a key is broken -/
def readMembers : Nat → List Char → Option (Option (List (String × Json)) × List Char)
  | 0, _ => none
  | fuel + 1, s =>
    match skipBlanks s with
    | '"' :: r => do
      let (key, r) ← readText fuel (some []) r
      match skipBlanks r with
      | ':' :: r => do
        let (value, r) ← readValue fuel r
        let first := key.map fun key => (key, value)
        match skipBlanks r with
        | ',' :: r => do
          let (rest, r) ← readMembers fuel r
          some (first.bind fun m => rest.map (m :: ·), r)
        | '\x7d' :: r => some (first.map ([·]), r)
        | _ => none
      | _ => none
    | _ => none

end

/-- the value that a text holds -/
def parse (text : String) : Option Json :=
  let s := text.toList
  match readValue (2 * s.length + 2) s with
  | some (value, rest) => if skipBlanks rest = [] then some value else none
  | none => none

end MetricQuery.Json
