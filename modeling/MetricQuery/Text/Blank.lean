/-
White space, in the two senses the query language uses.

`isBlank` is the Unicode property White_Space; intervals, numbers in quotes and the end of a target are trimmed by it.
`isSpace` is the narrower set that may stand between the tokens of a target.
-/
namespace MetricQuery.Text

/-- the property White_Space -/
def isBlank (c : Char) : Bool :=
  let n := c.toNat
  (0x9 ≤ n && n ≤ 0xD) || n == 0x20 || n == 0x85 || n == 0xA0 || n == 0x1680 || (0x2000 ≤ n && n ≤ 0x200A) ||
    n == 0x2028 || n == 0x2029 || n == 0x202F || n == 0x205F || n == 0x3000

/-- space, tab, line feed and carriage return -/
def isSpace (c : Char) : Bool :=
  c == ' ' || c == '\t' || c == '\n' || c == '\r'

def trimStart (s : List Char) : List Char :=
  s.dropWhile isBlank

/-- white space removed from both ends -/
def trim (s : List Char) : List Char :=
  ((trimStart s).reverse.dropWhile isBlank).reverse

theorem isBlank_of_isSpace {c : Char} (h : isSpace c = true) : isBlank c = true := by
  simp only [isSpace, Bool.or_eq_true, beq_iff_eq] at h
  rcases h with ((rfl | rfl) | rfl) | rfl <;> rfl

end MetricQuery.Text
