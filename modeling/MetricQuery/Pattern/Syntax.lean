/-
Regular expressions as trees.

A node is a text, a set of characters, an assertion, a group, a sequence, a choice or a repetition. The constructing
functions `Node.ofSet`, `sequence`, `choice` and `repeated` keep trees in one form: texts that follow each other are one
text, a choice among characters is a set, and a choice whose branches begin alike is made behind their common beginning.
The form matters, because a search prefers what comes first in it and because a pattern is measured by it.
-/
import MetricQuery.Text.WordChar
import MetricQuery.Unicode.CaseFold

namespace MetricQuery.Pattern

open Unicode (CodeSet)

/-- a condition on a place between two characters -/
inductive Assertion where
  | textStart
  | textEnd
  | lineStart
  | lineEnd
  /-- line ends made of a carriage return, a line feed or both -/
  | returnLineStart
  | returnLineEnd
  | wordBoundary (ascii : Bool)
  | notWordBoundary (ascii : Bool)
  | wordStart (ascii : Bool)
  | wordEnd (ascii : Bool)
  | wordStartHalf (ascii : Bool)
  | wordEndHalf (ascii : Bool)
  deriving DecidableEq, Repr

inductive Node where
  | empty
  | text (cs : List Char)
  /-- one character of a set; of the empty set there is none -/
  | oneOf (s : CodeSet)
  | assert (a : Assertion)
  /-- a group whose text is kept under a number -/
  | group (index : Nat) (inner : Node)
  | seq (parts : List Node)
  /-- the first branch is preferred -/
  | alt (branches : List Node)
  /-- at least `least` times and at most `most` times; greedy repetition prefers more -/
  | rep (inner : Node) (least : Nat) (most : Option Nat) (greedy : Bool)

namespace Node

mutual

/-- whether two nodes are equal -/
def same : Node → Node → Bool
  | .empty, .empty => true
  | .text a, .text b => a == b
  | .oneOf s, .oneOf t => s == t
  | .assert a, .assert b => a == b
  | .group i a, .group j b => i == j && a.same b
  | .seq as, .seq bs => allSame as bs
  | .alt as, .alt bs => allSame as bs
  | .rep a least most greedy, .rep b least' most' greedy' =>
    least == least' && most == most' && greedy == greedy' && a.same b
  | _, _ => false

def allSame : List Node → List Node → Bool
  | [], [] => true
  | a :: as, b :: bs => a.same b && allSame as bs
  | _, _ => false

end

/-! ## Widths -/

mutual

/-- whether a node only matches the empty text -/
def isZeroWidth : Node → Bool
  | .empty => true
  | .text _ => false
  | .oneOf _ => false
  | .assert _ => true
  | .group _ inner => inner.isZeroWidth
  | .seq parts => areZeroWidth parts
  | .alt branches => areZeroWidth branches
  | .rep inner _ _ _ => inner.isZeroWidth

def areZeroWidth : List Node → Bool
  | [] => true
  | n :: rest => n.isZeroWidth && areZeroWidth rest

end

mutual

/-- the length of the shortest text that a node may match, where one can be told -/
def leastWidth : Node → Option Nat
  | .empty => some 0
  | .text cs => some cs.length
  | .oneOf s => if s = .empty then none else some 1
  | .assert _ => some 0
  | .group _ inner => inner.leastWidth
  | .seq parts => seqWidth parts
  | .alt branches => altWidth branches
  | .rep inner least _ _ => inner.leastWidth.map (· * least)

def seqWidth : List Node → Option Nat
  | [] => some 0
  | n :: rest =>
    match n.leastWidth, seqWidth rest with
    | some a, some b => some (a + b)
    | _, _ => none

def altWidth : List Node → Option Nat
  | [] => none
  | [n] => n.leastWidth
  | n :: rest =>
    match n.leastWidth, altWidth rest with
    | some a, some b => some (min a b)
    | _, _ => none

end

/-- whether a node takes at least one character in every match -/
def takesSome (n : Node) : Bool :=
  n.leastWidth.any (0 < ·)

/-! ## Construction -/

/-- one character of a set; a set of one character is a text -/
def ofSet (s : CodeSet) : Node :=
  match s.ranges with
  | [(lo, hi)] => if lo = hi then .text [Char.ofNat lo] else .oneOf s
  | _ => .oneOf s

/-- a part in front of others, joined with them if both are texts -/
def consPart : Node → List Node → List Node
  | .text a, .text b :: rest => .text (a ++ b) :: rest
  | n, rest => n :: rest

/-- a node in front of the parts of a sequence -/
def consNode : Node → List Node → List Node
  | .empty, rest => rest
  | .seq parts, rest => parts.foldr consPart rest
  | n, rest => consPart n rest

def sequence (nodes : List Node) : Node :=
  match nodes.foldr consNode [] with
  | [] => .empty
  | [n] => n
  | parts => .seq parts

/-- repetition; what matches the empty text alone is repeated at most once -/
def repeated (inner : Node) (least : Nat) (most : Option Nat) (greedy : Bool) : Node :=
  let least := if inner.isZeroWidth then min least 1 else least
  let most := if inner.isZeroWidth then some ((most.map (min · 1)).getD 1) else most
  if least = 0 ∧ most = some 0 then .empty
  else if least = 1 ∧ most = some 1 then inner
  else .rep inner least most greedy

/-- the code point of a text of one character -/
def code? : Node → Option Nat
  | .text [c] => some c.toNat
  | _ => none

def set? : Node → Option CodeSet
  | .oneOf s => some s
  | _ => none

def parts? : Node → Option (List Node)
  | .seq parts => some parts
  | _ => none

/-- the set that nodes amount to if all are texts of one character or all are sets -/
def union? (nodes : List Node) : Option CodeSet :=
  ((nodes.mapM code?).map CodeSet.ofCodes).or <|
    (nodes.mapM set?).map fun sets => .ofRanges (sets.flatMap CodeSet.ranges)

/-- the beginning that two lists share -/
def commonStart : List Node → List Node → List Node
  | a :: as, b :: bs => if a.same b then a :: commonStart as bs else []
  | _, _ => []

/-- the branches of a choice, those of choices among them included -/
def branches : Node → List Node
  | .alt branches => branches
  | n => [n]

/-- a choice of branches; `fuel` bounds how often a common beginning is taken out -/
def choiceWith (fuel : Nat) (nodes : List Node) : Node :=
  match nodes.flatMap branches with
  | [] => .oneOf .empty
  | [n] => n
  | all =>
    match union? all with
    | some s => ofSet s
    | none =>
      match fuel, all.mapM parts? with
      | fuel + 1, some (first :: others) =>
        match others.foldl commonStart first with
        | [] => .alt all
        | start =>
          let behind := (first :: others).map fun parts => sequence (parts.drop start.length)
          sequence (start ++ [choiceWith fuel behind])
      | _, _ => .alt all

def choice (nodes : List Node) : Node :=
  choiceWith nodes.length nodes

end Node

end MetricQuery.Pattern
