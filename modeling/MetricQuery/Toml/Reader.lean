/-
TOML read from text.

Every reader returns what it found and the text behind it. Lines hold a key with a value, a header, or nothing; a comment
may end any of them. Arrays and tables stand fewer than `depthLimit` deep in each other, and a key has fewer parts than
that. `Toml.parse` reads a whole document.
-/
import MetricQuery.Toml.Value
import MetricQuery.Json.Reader

namespace MetricQuery.Toml

/-! ## Blanks and comments -/

def isGap (c : Char) : Bool :=
  c == ' ' || c == '\t'

def skipGap (s : List Char) : List Char :=
  s.dropWhile isGap

/-- whether a character may stand in a comment or between single quotes -/
def isPlain (c : Char) : Bool :=
  c == '\t' || (32 ≤ c.toNat && c.toNat ≠ 127)

/-- the end of a line, if the text starts with one -/
def readLineEnd : List Char → Option (List Char)
  | '\n' :: r => some r
  | '\r' :: '\n' :: r => some r
  | _ => none

/-- the text behind a comment that it may start with -/
def skipRemark : List Char → List Char
  | '#' :: r => r.dropWhile isPlain
  | s => s

/-- what may end a line: blanks and a comment, then a line end or the end of the text -/
def readLineRest (s : List Char) : Option (List Char) :=
  match skipRemark (skipGap s) with
  | [] => some []
  | s => readLineEnd s

/-- the text behind blanks, comments and line ends -/
def skipLines : Nat → List Char → List Char
  | 0, s => s
  | fuel + 1, s =>
    let s := skipRemark (skipGap s)
    match readLineEnd s with
    | some r => skipLines fuel r
    | none => s

/-! ## Strings -/

/-- the character of hexadecimal digits -/
def charOf (digits : List Char) : Option Char := do
  let ns ← digits.mapM Json.hexDigit?
  let n := ns.foldl (fun n d => 16 * n + d) 0
  if n.isValidChar then some (Char.ofNat n) else none

/-- the character of an escape, from behind its backslash on -/
def readEscape : List Char → Option (Char × List Char)
  | 'b' :: r => some ('\x08', r)
  | 't' :: r => some ('\t', r)
  | 'n' :: r => some ('\n', r)
  | 'f' :: r => some ('\x0c', r)
  | 'r' :: r => some ('\r', r)
  | '"' :: r => some ('"', r)
  | '\\' :: r => some ('\\', r)
  | 'u' :: r => if r.length < 4 then none else (charOf (r.take 4)).map fun c => (c, r.drop 4)
  | 'U' :: r => if r.length < 8 then none else (charOf (r.take 8)).map fun c => (c, r.drop 8)
  | _ => none

/-- the content of a string in double quotes up to the closing one -/
def readBasic : Nat → List Char → Option (List Char × List Char)
  | 0, _ => none
  | fuel + 1, s =>
    match s with
    | [] => none
    | '"' :: r => some ([], r)
    | '\\' :: r => do
      let (c, r) ← readEscape r
      let (cs, r) ← readBasic fuel r
      some (c :: cs, r)
    | c :: r => if isPlain c then (readBasic fuel r).map fun (cs, r) => (c :: cs, r) else none

/-- the content of a string in single quotes up to the closing one -/
def readLiteral (s : List Char) : Option (List Char × List Char) :=
  let content := s.takeWhile fun c => isPlain c && c != '\''
  match s.drop content.length with
  | '\'' :: r => some (content, r)
  | _ => none

/-- the end of a string in tripled quotes: up to two quotes more belong to the content -/
def readTripleEnd (q : Char) (s : List Char) : Option (List Char × List Char) :=
  let quotes := min 5 (s.takeWhile (· = q)).length
  if 3 ≤ quotes then some (List.replicate (quotes - 3) q, s.drop quotes) else none

/-- the text behind blanks and line ends -/
def skipEmptyLines : List Char → List Char
  | '\n' :: r => skipEmptyLines r
  | '\r' :: '\n' :: r => skipEmptyLines r
  | c :: r => if isGap c then skipEmptyLines r else c :: r
  | [] => []

/-- the text behind a backslash at the end of a line: blanks and line ends, of which there is at least one -/
def skipContinuation (s : List Char) : Option (List Char) :=
  (readLineEnd (skipGap s)).map skipEmptyLines

/-- the content of a string in tripled quotes up to the closing ones -/
def readTriple (q : Char) : Nat → List Char → Option (List Char × List Char)
  | 0, _ => none
  | fuel + 1, s =>
    match readTripleEnd q s with
    | some found => some found
    | none =>
      match s with
      | [] => none
      | '\r' :: '\n' :: r => (readTriple q fuel r).map fun (cs, r) => ('\n' :: cs, r)
      | '\n' :: r => (readTriple q fuel r).map fun (cs, r) => ('\n' :: cs, r)
      | c :: r =>
        if c = '\\' ∧ q = '"' then
          match skipContinuation r with
          | some r => readTriple q fuel r
          | none => do
            let (c, r) ← readEscape r
            let (cs, r) ← readTriple q fuel r
            some (c :: cs, r)
        else if isPlain c then (readTriple q fuel r).map fun (cs, r) => (c :: cs, r)
        else none

/-- the text behind a line end that it may start with -/
def skipFirstLineEnd (s : List Char) : List Char :=
  (readLineEnd s).getD s

/-- a string of any of the four kinds -/
def readString : List Char → Option (String × List Char)
  | '"' :: '"' :: '"' :: r => done (readTriple '"' (r.length + 1) (skipFirstLineEnd r))
  | '\'' :: '\'' :: '\'' :: r => done (readTriple '\'' (r.length + 1) (skipFirstLineEnd r))
  | '"' :: r => done (readBasic (r.length + 1) r)
  | '\'' :: r => done (readLiteral r)
  | _ => none
where
  done (found : Option (List Char × List Char)) : Option (String × List Char) :=
    found.map fun (cs, r) => (String.ofList cs, r)

/-! ## Keys -/

def isBareKeyChar (c : Char) : Bool :=
  c.isAlphanum || c == '_' || c == '-'

/-- one part of a key; quoted parts stand on one line -/
def readKeyPart (s : List Char) : Option (String × List Char) :=
  match s with
  | '"' :: r => (readBasic (r.length + 1) r).map fun (cs, r) => (String.ofList cs, r)
  | '\'' :: r => (readLiteral r).map fun (cs, r) => (String.ofList cs, r)
  | s =>
    let part := s.takeWhile isBareKeyChar
    if part = [] then none else some (String.ofList part, s.drop part.length)

/-- a bound on how deep values stand in each other, and on the parts of a key -/
def depthLimit : Nat := 80

/-- a key of up to so many parts: the parts in front of the last, and the last, with points between -/
def readParts : Nat → List Char → Option (List String × String × List Char)
  | 0, _ => none
  | most + 1, s => do
    let (part, r) ← readKeyPart (skipGap s)
    match skipGap r with
    | '.' :: r => do
      let (path, key, r) ← readParts most r
      some (part :: path, key, r)
    | r => some ([], part, r)

def readKey (s : List Char) : Option (List String × String × List Char) :=
  readParts (depthLimit - 1) s

/-! ## Numbers, dates and times -/

/-- digits, single underscores between them, of a base up to sixteen -/
def digitsIn (base : Nat) (s : List Char) : Option (List Char) :=
  let isDigit (c : Char) : Bool := (Json.hexDigit? c).any (· < base)
  let rec go (afterDigit : Bool) : List Char → Option (List Char)
    | [] => if afterDigit then some [] else none
    | c :: r =>
      if isDigit c then (go true r).map (c :: ·)
      else if c = '_' ∧ afterDigit ∧ (r.head?.map isDigit).getD false then go false r
      else none
  go false s

def valueIn (base : Nat) (digits : List Char) : Nat :=
  (digits.filterMap Json.hexDigit?).foldl (fun n d => base * n + d) 0

/-- decimal digits without a zero in front -/
def wholeDigits (s : List Char) : Option (List Char) :=
  match digitsIn 10 s with
  | some ('0' :: _ :: _) => none
  | other => other

def int? (n : Int) : Option Toml :=
  if -Int.pow 2 63 ≤ n ∧ n < Int.pow 2 63 then some (.int n) else none

/-- a whole number that takes up the text -/
def readInt (s : List Char) : Option Toml :=
  match s with
  | '0' :: 'x' :: r => (digitsIn 16 r).bind fun ds => int? (valueIn 16 ds)
  | '0' :: 'o' :: r => (digitsIn 8 r).bind fun ds => int? (valueIn 8 ds)
  | '0' :: 'b' :: r => (digitsIn 2 r).bind fun ds => int? (valueIn 2 ds)
  | s =>
    let (negative, s) := Decimal.readSign s
    (wholeDigits s).bind fun ds => int? (if negative then -(valueIn 10 ds : Int) else valueIn 10 ds)

/-- a number with a fraction or an exponent that takes up the text; one that is too large is refused -/
def readFloat (s : List Char) : Option Toml := do
  let (_, body) := Decimal.readSign s
  if body = ['i', 'n', 'f'] ∨ body = ['n', 'a', 'n'] then (Decimal.readFloat s).map .float
  else
    let mantissa := body.takeWhile fun c => c != 'e' && c != 'E'
    let exponent := body.drop mantissa.length
    let whole := mantissa.takeWhile (· ≠ '.')
    let fraction := mantissa.drop whole.length
    let _ ← wholeDigits whole
    if fraction ≠ [] then
      let _ ← digitsIn 10 (fraction.drop 1)
    if exponent ≠ [] then
      let _ ← digitsIn 10 (Decimal.readSign (exponent.drop 1)).2
    if fraction = [] ∧ exponent = [] then none
    else
      let x ← Decimal.readFloat (s.filter (· ≠ '_'))
      if x == Decimal.infinity false then none else some (.float x)

/-- a number of `width` digits between two bounds -/
def readField (width least most : Nat) (s : List Char) : Option (Nat × List Char) :=
  let ds := s.take width
  let n := Decimal.digitsValue ds
  if ds.length = width ∧ ds.all Char.isDigit ∧ least ≤ n ∧ n ≤ most then some (n, s.drop width) else none

def readMark (c : Char) : List Char → Option (List Char)
  | [] => none
  | d :: r => if c = d then some r else none

def monthLength (year month : Nat) : Nat :=
  if month = 2 then (if year % 4 = 0 ∧ (year % 100 ≠ 0 ∨ year % 400 = 0) then 29 else 28)
  else if month = 4 ∨ month = 6 ∨ month = 9 ∨ month = 11 then 30
  else 31

def readDate (s : List Char) : Option (List Char) := do
  let (year, s) ← readField 4 0 9999 s
  let (month, s) ← readField 2 1 12 (← readMark '-' s)
  let (_, s) ← readField 2 1 (monthLength year month) (← readMark '-' s)
  some s

def readTime (s : List Char) : Option (List Char) := do
  let (_, s) ← readField 2 0 23 s
  let (_, s) ← readField 2 0 59 (← readMark ':' s)
  let (_, s) ← readField 2 0 60 (← readMark ':' s)
  match s with
  | '.' :: r =>
    let (ds, r) := Decimal.spanDigits r
    if ds = [] then none else some r
  | s => some s

/-- the distance from UTC behind a time, if there is one -/
def readOffset (s : List Char) : Option (List Char) :=
  match s with
  | c :: r =>
    if c = 'Z' ∨ c = 'z' then some r
    else if c = '+' ∨ c = '-' then do
      let (_, s) ← readField 2 0 23 r
      let (_, s) ← readField 2 0 59 (← readMark ':' s)
      some s
    else some (c :: r)
  | [] => some []

/-- a date, a time, or both -/
def readDateTime (s : List Char) : Option (List Char) :=
  match readDate s with
  | some r =>
    match r with
    | c :: after =>
      if c = 'T' ∨ c = 't' then (readTime after).bind readOffset
      else if c = ' ' then ((readTime after).bind readOffset).orElse fun _ => some r
      else some r
    | [] => some []
  | none => readTime s

def isScalarChar (c : Char) : Bool :=
  c.isAlphanum || c == '_' || c == '+' || c == '-' || c == '.'

/-- a number, a truth value, a date or a time -/
def readScalar (s : List Char) : Option (Toml × List Char) :=
  match readDateTime s with
  | some r => some (.dateTime, r)
  | none =>
    let word := s.takeWhile isScalarChar
    let r := s.drop word.length
    if word = ['t', 'r', 'u', 'e'] then some (.bool true, r)
    else if word = ['f', 'a', 'l', 's', 'e'] then some (.bool false, r)
    else ((readInt word).orElse fun _ => readFloat word).map fun v => (v, r)

/-! ## Values -/

mutual

/-- a value in which arrays and tables stand up to `room` deep -/
def readValue : Nat → Nat → List Char → Option (Toml × List Char)
  | 0, _, _ => none
  | fuel + 1, room, s =>
    match s with
    | '[' :: r =>
      match room with
      | 0 => none
      | room + 1 => (readItems fuel room r).map fun (items, r) => (.array items, r)
    | '\x7b' :: r =>
      match room with
      | 0 => none
      | room + 1 =>
        match skipGap r with
        | '\x7d' :: r => some (.table [], r)
        | _ => (readPairs fuel room [] r).map fun (members, r) => (.table (membersToToml members), r)
    | c :: r =>
      if c = '"' ∨ c = '\'' then (readString (c :: r)).map fun (text, r) => (.string text, r)
      else readScalar (c :: r)
    | [] => none

/-- items up to the closing bracket; blanks, comments, line ends and a last comma do not count -/
def readItems : Nat → Nat → List Char → Option (List Toml × List Char)
  | 0, _, _ => none
  | fuel + 1, room, s =>
    match skipLines s.length s with
    | ']' :: r => some ([], r)
    | s => do
      let (item, r) ← readValue fuel room s
      match skipLines r.length r with
      | ',' :: r => do
        let (items, r) ← readItems fuel room r
        some (item :: items, r)
      | ']' :: r => some ([item], r)
      | _ => none

/-- pairs up to the closing brace, all on one line -/
def readPairs : Nat → Nat → Members → List Char → Option (Members × List Char)
  | 0, _, _, _ => none
  | fuel + 1, room, members, s => do
    let (path, key, r) ← readKey s
    let r ← readMark '=' (skipGap r)
    let (v, r) ← readValue fuel room (skipGap r)
    let members ← addValue path key v false members
    match skipGap r with
    | ',' :: r => readPairs fuel room members r
    | '\x7d' :: r => some (members, r)
    | _ => none

end

/-! ## Documents -/

/-- a header: whether it is in double brackets, its path and its key -/
def readHeader (s : List Char) : Option (Bool × List String × String × List Char) := do
  let (double, s) ← match s with
    | '[' :: '[' :: r => some (true, r)
    | '[' :: r => some (false, r)
    | _ => none
  let (path, key, r) ← readKey s
  let r ← readMark ']' (skipGap r)
  let r ← if double then readMark ']' r else some r
  some (double, path, key, r)

/-- the lines of a document, `current` being the path of the table that keys belong to -/
def readLines : Nat → List String → Members → List Char → Option Members
  | 0, _, _, _ => none
  | fuel + 1, current, members, s =>
    let s := skipLines s.length s
    match s with
    | [] => some members
    | '[' :: _ => do
      let (double, path, key, r) ← readHeader s
      let members ← if double then openTables path key members else openTable path key members
      readLines fuel (path ++ [key]) members (← readLineRest r)
    | _ => do
      let (path, key, r) ← readKey s
      let r ← readMark '=' (skipGap r)
      let (v, r) ← readValue (2 * r.length + 2) (depthLimit - 1) (skipGap r)
      let members ← updateAt false (addValue path key v) current false members
      readLines fuel current members (← readLineRest r)

/-- the table that a whole text describes; a mark of byte order at its start does not count -/
def parse (text : String) : Option Toml :=
  let s := match text.toList with
    | '\ufeff' :: r => r
    | s => s
  (readLines (s.length + 2) [] [] s).map fun members => .table (membersToToml members)

end MetricQuery.Toml
