/-
Escapes in patterns: a backslash and what it gives the characters behind it.

An escape stands for a character, a set of characters or an assertion. Sets are the kinds of digits, spaces and word
characters and those that Unicode names.
-/
import MetricQuery.Pattern.Cursor
import MetricQuery.Pattern.Fault
import MetricQuery.Json.Reader
import MetricQuery.Unicode.Lookup

namespace MetricQuery.Pattern

open Unicode (CodeSet)

/-- what an escape stands for -/
inductive Escape where
  /-- a character; `isByte` if it was written as the value of a byte -/
  | char (c : Char) (isByte : Bool)
  | set (s : CodeSet)
  | assert (a : Assertion)

/-! ## Characters by number -/

/-- the character of a hexadecimal code point -/
def charOfHex (digits : List Char) : Except Fault Char :=
  match digits.mapM Json.hexDigit? with
  | none => .error .badCodePoint
  | some ns =>
    let n := ns.foldl (fun n d => 16 * n + d) 0
    if digits = [] ∨ ¬ n.isValidChar then .error .badCodePoint else .ok (Char.ofNat n)

/-- some characters, and what counts behind them -/
def takeCounted (verbose : Bool) : Nat → List Char → Option (List Char × List Char)
  | 0, s => some ([], s)
  | _ + 1, [] => none
  | n + 1, c :: r => (takeCounted verbose n (skip verbose r)).map fun (cs, r) => (c :: cs, r)

/-- the characters that count up to `stop`, and the text right behind it -/
def takeUntil (verbose : Bool) (stop : Char) (s : List Char) : Option (List Char × List Char) :=
  match s with
  | [] => none
  | c :: r =>
    if c = stop then some ([], r)
    else (takeUntil verbose stop (skip verbose r)).map fun (cs, r) => (c :: cs, r)
termination_by s.length
decreasing_by exact Nat.lt_succ_of_le (length_skip_le _ _)

/-- a code point of `width` hexadecimal digits, or of any number of them in braces -/
def readHex (verbose : Bool) (width : Nat) (s : List Char) : Except Fault (Escape × List Char) :=
  match skip verbose s with
  | '\x7b' :: r =>
    match takeUntil verbose '\x7d' (skip verbose r) with
    | some (digits, r) => do .ok (.char (← charOfHex digits) false, skip verbose r)
    | none => .error .badCodePoint
  | s =>
    match takeCounted verbose width s with
    | some (digits, r) => do .ok (.char (← charOfHex digits) (width = 2), r)
    | none => .error .badCodePoint

/-! ## Named sets -/

/-- a text split at the first place where `mark` stands -/
def splitAtMark (mark : List Char) : List Char → Option (List Char × List Char)
  | [] => none
  | c :: r =>
    if mark.isPrefixOf (c :: r) then some ([], (c :: r).drop mark.length)
    else (splitAtMark mark r).map fun (before, behind) => (c :: before, behind)

/-- the set that stands between the braces of `\p`, and whether it is the complement that is meant -/
def namedSet (name : List Char) : Option CodeSet × Bool :=
  match splitAtMark ['!', '='] name with
  | some (property, value) => (Unicode.setOfValue? property value, true)
  | none =>
    match (splitAtMark [':'] name).or (splitAtMark ['='] name) with
    | some (property, value) => (Unicode.setOfValue? property value, false)
    | none => (Unicode.setOfName? name, false)

/-- a property of characters, by one letter or by a name in braces -/
def readProperty (flags : Flags) (negated : Bool) (s : List Char) : Except Fault (Escape × List Char) := do
  let (name, r) ← match skip flags.verbose s with
    | [] => Except.error Fault.badEscape
    | '\x7b' :: r =>
      match takeUntil flags.verbose '\x7d' (skip flags.verbose r) with
      | some found => .ok found
      | none => .error .badEscape
    | c :: r => if c = '\\' then .error .badEscape else .ok ([c], skip flags.verbose r)
  match namedSet name with
  | (some s, complemented) =>
    if !flags.unicode then .error .notText
    else .ok (.set (if negated != complemented then (flags.fold s).complement else flags.fold s), r)
  | (none, _) => .error .unknownProperty

/-! ## Kinds of characters -/

def asciiDigits : CodeSet := .ofLines ["30-39"]

def asciiSpaces : CodeSet := .ofLines ["9-D 20"]

def asciiWordChars : CodeSet := .ofLines ["30-39 41-5A 5F 61-7A"]

/-- a kind of character or its complement, which among ASCII characters alone is no text -/
def kind (flags : Flags) (negated : Bool) (full ascii : CodeSet) : Except Fault CodeSet :=
  if !negated then .ok (if flags.unicode then full else ascii)
  else if flags.unicode then .ok full.complement
  else .error .notText

/-! ## Assertions -/

def isBoundaryChar (c : Char) : Bool :=
  c.isAlpha || c == '-'

/-- a word boundary. Braces behind it give its kind if they begin with a letter; else they are read as a repetition. -/
def readBoundary (flags : Flags) (s : List Char) : Except Fault (Escape × List Char) :=
  let ascii := !flags.unicode
  let plain := Except.ok (Escape.assert (.wordBoundary ascii), s)
  match s with
  | '\x7b' :: r =>
    match skip flags.verbose r with
    | [] => .error .badBoundary
    | c :: r =>
      if !isBoundaryChar c then plain
      else match takeUntil flags.verbose '\x7d' (c :: r) with
        | none => .error .badBoundary
        | some (name, r) =>
          match String.ofList name with
          | "start" => .ok (.assert (.wordStart ascii), r)
          | "end" => .ok (.assert (.wordEnd ascii), r)
          | "start-half" => .ok (.assert (.wordStartHalf ascii), r)
          | "end-half" => .ok (.assert (.wordEndHalf ascii), r)
          | _ => .error .badBoundary
  | _ => plain

/-- an escape, from behind its backslash on -/
def readEscape (flags : Flags) : List Char → Except Fault (Escape × List Char)
  | [] => .error .badEscape
  | c :: r =>
    let char (c : Char) : Except Fault (Escape × List Char) := .ok (.char c false, r)
    let set (negated : Bool) (full ascii : CodeSet) : Except Fault (Escape × List Char) := do
      .ok (.set (← kind flags negated full ascii), r)
    let ascii := !flags.unicode
    match c with
    | 'd' => set false Text.decimalDigits asciiDigits
    | 'D' => set true Text.decimalDigits asciiDigits
    | 's' => set false Unicode.whiteSpace asciiSpaces
    | 'S' => set true Unicode.whiteSpace asciiSpaces
    | 'w' => set false Text.wordChars asciiWordChars
    | 'W' => set true Text.wordChars asciiWordChars
    | 'p' => readProperty flags false r
    | 'P' => readProperty flags true r
    | 'x' => readHex flags.verbose 2 r
    | 'u' => readHex flags.verbose 4 r
    | 'U' => readHex flags.verbose 8 r
    | 'a' => char '\x07'
    | 'f' => char '\x0c'
    | 't' => char '\t'
    | 'n' => char '\n'
    | 'r' => char '\r'
    | 'v' => char '\x0b'
    | 'A' => .ok (.assert .textStart, r)
    | 'z' => .ok (.assert .textEnd, r)
    | 'b' => readBoundary flags r
    | 'B' => .ok (.assert (.notWordBoundary ascii), r)
    | '<' => .ok (.assert (.wordStart ascii), r)
    | '>' => .ok (.assert (.wordEnd ascii), r)
    | c => if c.toNat < 128 ∧ ¬ c.isAlphanum then char c else .error .badEscape

end MetricQuery.Pattern
