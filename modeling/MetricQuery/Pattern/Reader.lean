/-
Regular expressions read from text.

The syntax has literals, `.`, classes in brackets, escapes, groups that are numbered, named or neither, alternatives,
greedy and lazy repetition, and the flags `i`, `m`, `s`, `U`, `u`, `x` and `R`. A repetition needs something to repeat and
a brace always begins one. There are no back references and no assertions that look around. Groups, classes, repetitions,
alternatives and sequences are levels, of which only so many may lie within each other.
-/
import MetricQuery.Pattern.Bracket
import MetricQuery.Decimal.Reader

namespace MetricQuery.Pattern

/-- a part of a pattern: the node it stands for and its depth. Flags on their own cannot be repeated. -/
structure Part where
  node : Node
  depth : Nat
  repeatable : Bool := true

/-! ## Repetition -/

/-- digits that count, and the text behind them -/
def takeDigits (verbose : Bool) (s : List Char) : List Char × List Char :=
  match s with
  | [] => ([], [])
  | c :: r =>
    if c.isDigit then
      let (ds, r) := takeDigits verbose (skip verbose r)
      (c :: ds, r)
    else ([], c :: r)
termination_by s.length
decreasing_by exact Nat.lt_succ_of_le (length_skip_le _ _)

/-- a count with white space around it -/
def readCount (verbose : Bool) (s : List Char) : Option (Nat × List Char) :=
  let (ds, r) := takeDigits verbose (s.dropWhile Text.isBlank)
  let n := Decimal.digitsValue ds
  if ds = [] ∨ Nat.pow 2 32 ≤ n then none else some (n, skip verbose (r.dropWhile Text.isBlank))

/-- the bounds of a counted repetition, from behind its opening brace on -/
def readBounds (verbose : Bool) (s : List Char) : Option ((Nat × Option Nat) × List Char) := do
  let (least, r) ← readCount verbose (skip verbose s)
  match r with
  | '\x7d' :: r => some ((least, some least), r)
  | ',' :: r =>
    match skip verbose r with
    | '\x7d' :: r => some ((least, none), r)
    | r => do
      let (most, r) ← readCount verbose r
      match r with
      | '\x7d' :: r => if most < least then none else some ((least, some most), r)
      | _ => none
  | _ => none

/-- the bounds that a text begins with, if it begins with a repetition -/
def readRepetition? (verbose : Bool) : List Char → Option (Except Fault ((Nat × Option Nat) × List Char))
  | '*' :: r => some (.ok ((0, none), r))
  | '+' :: r => some (.ok ((1, none), r))
  | '?' :: r => some (.ok ((0, some 1), r))
  | '\x7b' :: r =>
    match readBounds verbose r with
    | some (bounds, r) => some (.ok (bounds, skip verbose r))
    | none => some (.error .badRepetition)
  | _ => none

/-- a part with the repetitions behind it; a question mark right behind one swaps its greed -/
def readRepetitions (flags : Flags) : Nat → Part → List Char → Except Fault (Part × List Char)
  | 0, p, s => .ok (p, s)
  | fuel + 1, p, s =>
    let s := skip flags.verbose s
    match readRepetition? flags.verbose s with
    | none => .ok (p, s)
    | some found => do
      if !p.repeatable then throw .nothingToRepeat
      let ((least, most), r) ← found
      let (greedy, r) := match r with
        | '?' :: r => (flags.swapGreed, r)
        | r => (!flags.swapGreed, r)
      readRepetitions flags fuel ⟨.repeated p.node least most greedy, p.depth + 1, true⟩ r

/-! ## Literals and assertions -/

/-- a character; without Unicode it may not be half of a text, and only ASCII letters have case -/
def literal (flags : Flags) (c : Char) (isByte : Bool) : Except Fault Node :=
  if isByte ∧ ¬ flags.unicode ∧ 128 ≤ c.toNat then .error .notText
  else .ok (.ofSet (flags.fold (.single c.toNat)))

/-- a point: any character but the end of a line -/
def anyChar (flags : Flags) : Except Fault Node :=
  if !flags.unicode then .error .notText
  else if flags.dotAll then .ok (.ofSet .all)
  else if flags.returns then .ok (.ofSet (Unicode.CodeSet.ofCodes [0xA, 0xD]).complement)
  else .ok (.ofSet (Unicode.CodeSet.single 0xA).complement)

def startNode (flags : Flags) : Node :=
  .assert (if flags.multiLine then (if flags.returns then .returnLineStart else .lineStart) else .textStart)

def endNode (flags : Flags) : Node :=
  .assert (if flags.multiLine then (if flags.returns then .returnLineEnd else .lineEnd) else .textEnd)

/-! ## Groups -/

def isNameStart (c : Char) : Bool :=
  c == '_' || Text.isAlphabetic c

def isNamePart (c : Char) : Bool :=
  c == '_' || c == '.' || c == '[' || c == ']' || Text.isAlphanumeric c

/-- the name of a group up to `>` -/
def readGroupName (names : List (String × Nat)) (s : List Char) : Except Fault (String × List Char) :=
  let name := s.takeWhile (· ≠ '>')
  match name, s.drop name.length with
  | c :: cs, _ :: r =>
    let text := String.ofList (c :: cs)
    if isNameStart c && cs.all isNamePart && !names.any (fun (n, _) => n == text) then .ok (text, r)
    else .error .badGroupName
  | _, _ => .error .badGroupName

/-- what an opening parenthesis begins -/
inductive Opening where
  | numbered
  | named (name : String)
  | plain (flags : Flags)
  /-- flags for the rest of the group around it -/
  | setFlags (flags : Flags)

/-- what a parenthesis begins, from behind it on -/
def readOpening (i : Cursor) : Except Fault (Opening × List Char) :=
  match i.rest with
  | '?' :: '<' :: '=' :: _ => .error .lookAround
  | '?' :: '<' :: '!' :: _ => .error .lookAround
  | '?' :: '=' :: _ => .error .lookAround
  | '?' :: '!' :: _ => .error .lookAround
  | '?' :: 'P' :: '<' :: r => do
    let (name, r) ← readGroupName i.names r
    .ok (.named name, r)
  | '?' :: '<' :: r => do
    let (name, r) ← readGroupName i.names r
    .ok (.named name, r)
  | '?' :: ')' :: _ => .error .nothingToRepeat
  | '?' :: r =>
    match readFlags i.flags [] true r with
    | some (flags, ':', r) => .ok (.plain flags, r)
    | some (flags, _, r) => .ok (.setFlags flags, r)
    | none => .error .badFlags
  | r => .ok (.numbered, r)

/-- the position at the beginning of a group's alternatives, `r` being the text from there on -/
def Cursor.enter (i : Cursor) (opening : Opening) (r : List Char) : Cursor :=
  match opening with
  | .numbered => { i with rest := r, groups := i.groups + 1 }
  | .named name => { i with rest := r, groups := i.groups + 1, names := i.names ++ [(name, i.groups + 1)] }
  | .plain flags => { i with rest := r, flags := flags }
  | .setFlags flags => { i with rest := r, flags := flags }

/-- what a group that was opened at `i` makes of its alternatives -/
def Opening.wrap (i : Cursor) : Opening → Node → Node
  | .numbered => .group (i.groups + 1)
  | .named _ => .group (i.groups + 1)
  | .plain _ => id
  | .setFlags _ => id

/-- a group at its closing parenthesis, the flags being those of the text around it again -/
def closeGroup (outer : Cursor) (wrap : Node → Node) (p : Part) (i : Cursor) : Except Fault (Part × Cursor) :=
  match i.rest with
  | ')' :: r => .ok (⟨wrap p.node, p.depth + 1, true⟩, { i with rest := r, flags := outer.flags })
  | _ => .error .unclosedGroup

/-! ## Sequences and alternatives -/

/-- parts in a row, the last of them first -/
def sequenceOf (parts : List Part) : Part :=
  ⟨.sequence (parts.reverse.map Part.node), depthOver (parts.map Part.depth), true⟩

def choiceOf (branches : List Part) : Part :=
  ⟨.choice (branches.map Part.node), depthOver (branches.map Part.depth), true⟩

mutual

/-- alternatives up to the end of the text or of the group; `levels` more groups may be opened in them -/
def readBranches : Nat → Nat → Cursor → Except Fault (List Part × Cursor)
  | 0, _, _ => .error .tooDeep
  | fuel + 1, levels, i => do
    let (first, i) ← readSequence fuel levels [] i
    match i.rest with
    | '|' :: r => do
      let (others, i) ← readBranches fuel levels (i.at r)
      .ok (sequenceOf first :: others, i)
    | _ => .ok ([sequenceOf first], i)

/-- the parts behind `before` in the same alternative, the last of them first -/
def readSequence : Nat → Nat → List Part → Cursor → Except Fault (List Part × Cursor)
  | 0, _, _, _ => .error .tooDeep
  | fuel + 1, levels, before, i => do
    let i := i.skip
    match i.rest with
    | [] => .ok (before, i)
    | c :: r =>
      if c = '|' ∨ c = ')' then .ok (before, i)
      else do
        let (p, i) ← readPart fuel levels c (i.at r)
        let (p, r) ← readRepetitions i.flags i.rest.length p i.rest
        readSequence fuel levels (p :: before) (i.at r)

/-- one part that starts with `c` -/
def readPart : Nat → Nat → Char → Cursor → Except Fault (Part × Cursor)
  | 0, _, _, _ => .error .tooDeep
  | fuel + 1, levels, c, i =>
    if c = '(' then readGroup fuel levels i
    else if c = '[' then do
      let ((s, depth), r) ← readClass i.flags (2 * i.rest.length + 2) nestingLimit i.rest
      .ok (⟨.ofSet s, depth, true⟩, i.at r)
    else if c = '\\' then do
      match ← readEscape i.flags i.rest with
      | (.char c isByte, r) => do .ok (⟨← literal i.flags c isByte, 0, true⟩, i.at r)
      | (.set s, r) => .ok (⟨.ofSet s, 0, true⟩, i.at r)
      | (.assert a, r) => .ok (⟨.assert a, 0, true⟩, i.at r)
    else if c = '.' then do .ok (⟨← anyChar i.flags, 0, true⟩, i)
    else if c = '^' then .ok (⟨startNode i.flags, 0, true⟩, i)
    else if c = '$' then .ok (⟨endNode i.flags, 0, true⟩, i)
    else if c = '*' ∨ c = '+' ∨ c = '?' ∨ c = '\x7b' then .error .nothingToRepeat
    else do .ok (⟨← literal i.flags c false, 0, true⟩, i)

/-- a group, from behind its opening parenthesis on; flags set inside it end with it -/
def readGroup : Nat → Nat → Cursor → Except Fault (Part × Cursor)
  | 0, _, _ => .error .tooDeep
  | fuel + 1, levels, i => do
    let (opening, r) ← readOpening i.skip
    match opening, levels with
    | .setFlags flags, _ => .ok (⟨.empty, 0, false⟩, { i with rest := r, flags := flags })
    | _, 0 => .error .tooDeep
    | opening, levels + 1 => do
      let (branches, j) ← readBranches fuel levels (i.enter opening r)
      closeGroup i (opening.wrap i) (choiceOf branches) j

end

/-- a pattern as a tree, with the number of its groups and the names that some of them have -/
structure Tree where
  root : Node
  groups : Nat
  names : List (String × Nat)

/-- the tree of the pattern that takes up a whole text -/
def parse (text : String) : Except Fault Tree := do
  let s := text.toList
  let (branches, i) ← readBranches (4 * s.length + 4) nestingLimit ⟨s, {}, 0, []⟩
  let whole := choiceOf branches
  if i.rest ≠ [] then throw .unopenedGroup
  if nestingLimit < whole.depth then throw .tooDeep
  .ok ⟨whole.node, i.groups, i.names⟩

end MetricQuery.Pattern
