/-
Characters that a quoted dump writes as code points: those without a glyph of their own (controls, format characters,
separators other than the plain space, private use, unassigned) and the marks that extend the character before them.
-/
import MetricQuery.Unicode.Property

namespace MetricQuery.Text

/-- the space among these is told apart by being ASCII -/
def glyphless : Unicode.CodeSet :=
  Unicode.Category.unassigned.set ∪
    Unicode.Category.union (.control :: .format :: .privateUse :: Unicode.Category.separators)

def hasNoGlyph (c : Char) : Bool :=
  if c.val < 128 then c.val < 32 || c.val == 127 else glyphless.holds c

def extendsGrapheme (c : Char) : Bool :=
  if c.val < 128 then false else Unicode.graphemeExtend.holds c

end MetricQuery.Text
