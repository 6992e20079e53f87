/-
Reading positions in a pattern: the text left, the flags in force and the groups met so far.

In verbose mode white space and comments do not count between the characters of most tokens, so moving on by a character
also passes over them.
-/
import MetricQuery.Pattern.Syntax
import MetricQuery.Text.Blank

namespace MetricQuery.Pattern

/-! ## Text that does not count -/

/-- the text behind white space and comments, each comment ending with its line -/
def skipBlank (inComment : Bool) : List Char → List Char
  | [] => []
  | c :: r =>
    if inComment then skipBlank (c ≠ '\n') r
    else if c = '#' then skipBlank true r
    else if Text.isBlank c then skipBlank false r
    else c :: r

/-- the text behind what does not count, where `verbose` says that something does not -/
def skip (verbose : Bool) (s : List Char) : List Char :=
  if verbose then skipBlank false s else s

theorem length_skipBlank_le (inComment : Bool) (s : List Char) : (skipBlank inComment s).length ≤ s.length := by
  induction s generalizing inComment with
  | nil => simp [skipBlank]
  | cons c r ih =>
    rw [skipBlank]
    split
    · exact Nat.le_succ_of_le (ih _)
    · split
      · exact Nat.le_succ_of_le (ih _)
      · split
        · exact Nat.le_succ_of_le (ih _)
        · exact Nat.le_refl _

theorem length_skip_le (verbose : Bool) (s : List Char) : (skip verbose s).length ≤ s.length := by
  cases verbose
  · exact Nat.le_refl _
  · exact length_skipBlank_le false s

/-- the character that a hyphen in a class looks ahead to. The search for it goes past a comment's mark, but not past the
first character of the comment itself. -/
def peekBlank (inComment : Bool) : List Char → Option Char
  | [] => none
  | c :: r =>
    if Text.isBlank c then peekBlank inComment r
    else if c = '#' ∧ ¬ inComment then peekBlank true r
    else some c

/-! ## Flags -/

structure Flags where
  anyCase : Bool := false
  multiLine : Bool := false
  dotAll : Bool := false
  swapGreed : Bool := false
  /-- off, characters that are not ASCII are never told apart by kind or case -/
  unicode : Bool := true
  verbose : Bool := false
  returns : Bool := false

/-- one flag switched on or off -/
def Flags.set (f : Flags) (c : Char) (on : Bool) : Option Flags :=
  match c with
  | 'i' => some { f with anyCase := on }
  | 'm' => some { f with multiLine := on }
  | 's' => some { f with dotAll := on }
  | 'U' => some { f with swapGreed := on }
  | 'u' => some { f with unicode := on }
  | 'x' => some { f with verbose := on }
  | 'R' => some { f with returns := on }
  | _ => none

/-- flags up to `:` or `)`; each may be named once, and a minus sign switches off those behind it -/
def readFlags (flags : Flags) (seen : List Char) (on : Bool) : List Char → Option (Flags × Char × List Char)
  | [] => none
  | c :: r =>
    if c = ':' ∨ c = ')' then if seen.head? = some '-' then none else some (flags, c, r)
    else if c = '-' then if on then readFlags flags ('-' :: seen) false r else none
    else if seen.contains c then none
    else match flags.set c on with
      | some flags => readFlags flags (c :: seen) on r
      | none => none

/-- a set with the characters that differ from its own only in case, where case does not count -/
def Flags.fold (f : Flags) (s : Unicode.CodeSet) : Unicode.CodeSet :=
  if f.anyCase then if f.unicode then s.anyCase else s.anyAsciiCase else s

/-! ## Positions -/

structure Cursor where
  rest : List Char
  flags : Flags
  groups : Nat
  names : List (String × Nat)

def Cursor.skip (i : Cursor) : Cursor :=
  { i with rest := Pattern.skip i.flags.verbose i.rest }

/-- the position in front of a later part of the text -/
def Cursor.at (i : Cursor) (rest : List Char) : Cursor :=
  { i with rest := rest }

end MetricQuery.Pattern
