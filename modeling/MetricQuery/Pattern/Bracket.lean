/-
Classes in brackets: sets of characters written with items, ranges, classes within the class and set operations.

A class is read together with its depth, the number of levels that lie within each other in it: the class itself, every
set operation and every run of two or more items is a level.
-/
import MetricQuery.Pattern.Escape

namespace MetricQuery.Pattern

open Unicode (CodeSet)

/-- the depth of something made of parts with the given depths; a part on its own is no level -/
def depthOver : List Nat → Nat
  | [] => 0
  | [d] => d
  | ds => 1 + ds.foldl max 0

/-! ## Items -/

/-- an item of a class before it is known whether it begins a range -/
inductive Item where
  | char (c : Char)
  | set (s : CodeSet)

/-- an item at the start of a text. Without Unicode only ASCII characters may stand in a class. -/
def readItem (flags : Flags) : List Char → Except Fault (Item × List Char)
  | [] => .error .unclosedClass
  | c :: r => do
    let (escape, r) ← if c = '\\' then readEscape flags r else .ok (.char c false, r)
    match escape with
    | .char c _ => if flags.unicode ∨ c.toNat < 128 then .ok (.char c, r) else .error .notText
    | .set s => .ok (.set s, r)
    | .assert _ => .error .badClass

def Item.toSet : Item → CodeSet
  | .char c => .single c.toNat
  | .set s => s

/-- an item, or the range that begins with it -/
def readRange (flags : Flags) (s : List Char) : Except Fault (CodeSet × List Char) := do
  let (first, r) ← readItem flags s
  match skip flags.verbose r with
  | '-' :: r =>
    let ahead := if flags.verbose then peekBlank false r else r.head?
    if ahead = some ']' ∨ ahead = some '-' then .ok (first.toSet, '-' :: r)
    else do
      let (last, r) ← readItem flags (skip flags.verbose r)
      match first, last with
      | .char lo, .char hi => if hi < lo then .error .badRange else .ok (⟨[(lo.toNat, hi.toNat)]⟩, r)
      | _, _ => .error .badClass
  | r => .ok (first.toSet, r)

/-! ## Named classes -/

/-- the ASCII classes that have a name between colons -/
def asciiClass? (name : String) : Option CodeSet :=
  match name with
  | "alnum" => some (.ofLines ["30-39 41-5A 61-7A"])
  | "alpha" => some (.ofLines ["41-5A 61-7A"])
  | "ascii" => some (.ofLines ["0-7F"])
  | "blank" => some (.ofLines ["9 20"])
  | "cntrl" => some (.ofLines ["0-1F 7F"])
  | "digit" => some asciiDigits
  | "graph" => some (.ofLines ["21-7E"])
  | "lower" => some (.ofLines ["61-7A"])
  | "print" => some (.ofLines ["20-7E"])
  | "punct" => some (.ofLines ["21-2F 3A-40 5B-60 7B-7E"])
  | "space" => some asciiSpaces
  | "upper" => some (.ofLines ["41-5A"])
  | "word" => some asciiWordChars
  | "xdigit" => some (.ofLines ["30-39 41-46 61-66"])
  | _ => none

/-- a named class with whether it is negated, from its opening bracket on, if there is one -/
def readNamed? : List Char → Option ((CodeSet × Bool) × List Char)
  | '[' :: ':' :: r =>
    let negated := r.head? == some '^'
    let r := if negated then r.tail else r
    let name := r.takeWhile (· ≠ ':')
    match asciiClass? (String.ofList name), r.drop name.length with
    | some s, ':' :: ']' :: r => some ((s, negated), r)
    | _, _ => none
  | _ => none

/-- the complement of a set, after the case of its members has been dealt with; without Unicode it must stay ASCII -/
def finish (flags : Flags) (negated : Bool) (s : CodeSet) : Except Fault CodeSet :=
  let s := if negated then (flags.fold s).complement else flags.fold s
  if flags.unicode ∨ s.isAscii then .ok s else .error .notText

/-! ## Operations -/

/-- how the operands of a class are joined -/
inductive SetOp where
  | and
  | diff
  | symmDiff

def SetOp.apply : SetOp → CodeSet → CodeSet → CodeSet
  | .and, s, t => s ∩ t
  | .diff, s, t => s \ t
  | .symmDiff, s, t => s.symmDiff t

/-- the set operation that a text starts with -/
def readSetOp? : List Char → Option (SetOp × List Char)
  | '&' :: '&' :: r => some (.and, r)
  | '-' :: '-' :: r => some (.diff, r)
  | '~' :: '~' :: r => some (.symmDiff, r)
  | _ => none

/-- what was read of a class: the items since the last operation with their depths, and what comes before with its depth
and the operation -/
structure ClassParts where
  before : Option ((CodeSet × Nat) × SetOp) := none
  items : CodeSet := .empty
  depths : List Nat := []

/-- the operands joined so far, with their depth -/
def ClassParts.close (flags : Flags) (p : ClassParts) : CodeSet × Nat :=
  let depth := depthOver p.depths
  match p.before with
  | none => (p.items, depth)
  | some ((s, d), op) => (op.apply (flags.fold s) (flags.fold p.items), 1 + max d depth)

def ClassParts.add (p : ClassParts) (s : CodeSet) (depth : Nat) : ClassParts :=
  { p with items := p.items ∪ s, depths := depth :: p.depths }

/-! ## Classes -/

/-- the hyphens that a class begins with stand for themselves -/
def readHyphens (verbose : Bool) : Nat → ClassParts → List Char → ClassParts × List Char
  | fuel + 1, p, '-' :: r => readHyphens verbose fuel (p.add (.single 0x2D) 0) (skip verbose r)
  | _, p, s => (p, s)

/-- the beginning of a class from behind its opening bracket on: whether it is negated, and the characters that only here
stand for themselves -/
def readStart (verbose : Bool) (s : List Char) : Bool × ClassParts × List Char :=
  let s := skip verbose s
  let negated := s.head? == some '^'
  let s := if negated then skip verbose s.tail else s
  match readHyphens verbose s.length {} s with
  | (⟨none, _, []⟩, ']' :: r) => (negated, ClassParts.add {} (.single 0x5D) 0, skip verbose r)
  | (p, s) => (negated, p, s)

mutual

/-- a class, from behind its opening bracket on, with its depth; `levels` may still be opened in it -/
def readClass (flags : Flags) : Nat → Nat → List Char → Except Fault ((CodeSet × Nat) × List Char)
  | 0, _, _ => .error .tooDeep
  | _, 0, _ => .error .tooDeep
  | fuel + 1, levels + 1, s => do
    let (negated, p, s) := readStart flags.verbose s
    let ((set, depth), r) ← readItems flags fuel levels p s
    .ok ((← finish flags negated set, 1 + depth), r)

/-- the items of a class up to its closing bracket -/
def readItems (flags : Flags) : Nat → Nat → ClassParts → List Char → Except Fault ((CodeSet × Nat) × List Char)
  | 0, _, _, _ => .error .tooDeep
  | fuel + 1, levels, p, s =>
    match skip flags.verbose s with
    | [] => .error .unclosedClass
    | ']' :: r => .ok (p.close flags, r)
    | '[' :: r =>
      match readNamed? ('[' :: r) with
      | some ((named, negated), r) => do
        readItems flags fuel levels (p.add (← finish flags negated named) 0) r
      | none => do
        let ((set, depth), r) ← readClass flags fuel levels r
        readItems flags fuel levels (p.add set depth) r
    | s =>
      match readSetOp? s with
      | some (op, r) => readItems flags fuel levels { before := some (p.close flags, op) } r
      | none => do
        let (set, r) ← readRange flags s
        readItems flags fuel levels (p.add set 0) r

end

/-- the class that takes up a whole text, with its depth -/
def parseClass (text : List Char) : Except Fault (CodeSet × Nat) :=
  match text with
  | '[' :: r => do
    let (found, r) ← readClass {} (2 * r.length + 2) nestingLimit r
    if r = [] then .ok found else .error .badClass
  | _ => .error .badClass

end MetricQuery.Pattern
