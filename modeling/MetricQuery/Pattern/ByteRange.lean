/-
Ranges of characters as sequences of ranges of bytes in UTF-8.

The characters of a sequence are those whose bytes lie in its ranges one by one. A range of characters is split where the
number of bytes changes, at the surrogates, and so far that the last bytes of each part take all their values, or the
parts differ in their last byte alone.
-/
namespace MetricQuery.Pattern

/-- the first and the last value that a byte may have -/
abbrev ByteRange := Nat × Nat

def utf8Bytes (c : Char) : List Nat :=
  (String.utf8EncodeChar c).map UInt8.toNat

/-- the first of some places at which a range has to be split; each is the last character of a first part -/
def splitPoint? (lo hi : Nat) : Option Nat :=
  if lo < 0xE000 ∧ 0xD7FF < hi ∧ lo ≤ 0xD7FF ∧ 0xE000 ≤ hi then some 0xD7FF
  else ([0x7F, 0x7FF, 0xFFFF].find? fun last => lo ≤ last && last < hi).or <|
    if hi < 0x80 then none
    else [0x40, 0x1000, 0x40000].findSome? fun block =>
      if lo / block = hi / block then none
      else if lo % block ≠ 0 then some (lo / block * block + block - 1)
      else if hi % block ≠ block - 1 then some (hi / block * block - 1)
      else none

/-- the sequences of a range of characters, in ascending order -/
def byteSequences : Nat → Nat → Nat → List (List ByteRange)
  | 0, _, _ => []
  | fuel + 1, lo, hi =>
    match splitPoint? lo hi with
    | some last => byteSequences fuel lo last ++ byteSequences fuel (if last = 0xD7FF then 0xE000 else last + 1) hi
    | none => [(utf8Bytes (Char.ofNat lo)).zip (utf8Bytes (Char.ofNat hi))]

/-- the sequences of a set given by its ranges; no range has to be split more often than the fuel allows -/
def sequencesOf (ranges : List (Nat × Nat)) : List (List ByteRange) :=
  ranges.flatMap fun (lo, hi) => byteSequences 32 lo hi

end MetricQuery.Pattern
