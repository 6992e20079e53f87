/-
Sets of Unicode scalar values.

A set is a list of closed ranges, ascending and with a gap between one and the next, so that each set has one form and
equality of sets is equality of lists. `CodeSet.ofRanges` brings any ranges into this form. The surrogates are no
scalar values: the last one before them and the first one behind them are neighbours, and a range may reach across
them. Intersection and difference are made of union and complement.
-/
namespace MetricQuery.Unicode

/-- the greatest scalar value -/
def lastCode : Nat := 0x10FFFF

/-- the scalar value behind another -/
def codeAfter (n : Nat) : Nat :=
  if n = 0xD7FF then 0xE000 else n + 1

/-- the scalar value in front of another -/
def codeBefore (n : Nat) : Nat :=
  if n = 0xE000 then 0xD7FF else n - 1

structure CodeSet where
  ranges : List (Nat × Nat)
  deriving DecidableEq, Repr

namespace CodeSet

def empty : CodeSet := ⟨[]⟩

def all : CodeSet := ⟨[(0, lastCode)]⟩

/-- ranges in ascending order of their first members behind the range from `lo` to `hi`, joined where they touch -/
def joinFrom (lo hi : Nat) : List (Nat × Nat) → List (Nat × Nat)
  | [] => [(lo, hi)]
  | (lo', hi') :: rest =>
    if lo' ≤ codeAfter hi then joinFrom lo (max hi hi') rest else (lo, hi) :: joinFrom lo' hi' rest

/-- the set of ranges in ascending order of their first members -/
def ofAscending : List (Nat × Nat) → CodeSet
  | [] => empty
  | (lo, hi) :: rest => ⟨joinFrom lo hi rest⟩

def startsFirst (a b : Nat × Nat) : Bool :=
  a.1 ≤ b.1

def ofRanges (ranges : List (Nat × Nat)) : CodeSet :=
  ofAscending (ranges.mergeSort startsFirst)

def single (n : Nat) : CodeSet := ⟨[(n, n)]⟩

def ofCodes (codes : List Nat) : CodeSet :=
  ofRanges (codes.map fun n => (n, n))

instance : Union CodeSet := ⟨fun s t => ofAscending (s.ranges.merge t.ranges startsFirst)⟩

/-- the gaps between ranges and behind them, from `start` on -/
def gaps (start : Nat) : List (Nat × Nat) → List (Nat × Nat)
  | [] => if start ≤ lastCode then [(start, lastCode)] else []
  | (lo, hi) :: rest =>
    if start < lo then (start, codeBefore lo) :: gaps (codeAfter hi) rest else gaps (codeAfter hi) rest

def complement (s : CodeSet) : CodeSet := ⟨gaps 0 s.ranges⟩

instance : Inter CodeSet := ⟨fun s t => (s.complement ∪ t.complement).complement⟩

instance : SDiff CodeSet := ⟨fun s t => (s.complement ∪ t).complement⟩

/-- the members of one of two sets but not of both -/
def symmDiff (s t : CodeSet) : CodeSet :=
  (s ∪ t) \ (s ∩ t)

/-- whether ascending ranges hold `n`; the search ends at the first range past it -/
def inRanges (n : Nat) : List (Nat × Nat) → Bool
  | [] => false
  | (lo, hi) :: rest => if n < lo then false else n ≤ hi || inRanges n rest

def holdsCode (s : CodeSet) (n : Nat) : Bool :=
  inRanges n s.ranges

def holds (s : CodeSet) (c : Char) : Bool :=
  s.holdsCode c.toNat

/-- whether all members are ASCII characters -/
def isAscii (s : CodeSet) : Bool :=
  s.ranges.all fun (_, hi) => hi < 128

end CodeSet

/-! ## Sets in writing -/

/-- a range being read: its first code point, if a hyphen has come, and the hexadecimal digits since -/
structure RangeText where
  first : Option Nat
  code : Nat

/-- reads ranges such as `41-5A`, which are in hexadecimal and have spaces between them -/
def readRanges (pending : RangeText) : List Char → List (Nat × Nat)
  | [] => [(pending.first.getD pending.code, pending.code)]
  | c :: rest =>
    if c = ' ' then (pending.first.getD pending.code, pending.code) :: readRanges ⟨none, 0⟩ rest
    else if c = '-' then readRanges ⟨some pending.code, 0⟩ rest
    else readRanges ⟨pending.first, 16 * pending.code + (if c.isDigit then c.toNat - 48 else c.toNat - 55)⟩ rest

def rangesOfLines (lines : List String) : List (Nat × Nat) :=
  lines.flatMap fun line => readRanges ⟨none, 0⟩ line.toList

/-- the set of the ranges written down in some lines -/
def CodeSet.ofLines (lines : List String) : CodeSet :=
  .ofRanges (rangesOfLines lines)

/-- a set of code points as it is written down, under its names -/
structure Table where
  names : List String
  lines : List String

def Table.set (t : Table) : CodeSet :=
  .ofLines t.lines

end MetricQuery.Unicode
