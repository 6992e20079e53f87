/-
Globs: patterns for metric paths.

In a glob `?` stands for one character and `*` for any run of characters, but neither for a point; `{a,b}` stands for any
one of its alternatives, which may be empty and may hold further groups, and `[...]` for one character of a class. All
other characters stand for themselves, and so do `}` and `,` outside a group.

`Glob.parse` builds the tree in one pass over the text with a stack of open groups. `Glob.accepts` marks the places of a
name that can be reached, part by part, so its work grows with the glob and the name and not with the ways to match.
`Glob.compile` only admits globs that stay within the limits of the regular expressions they amount to.
-/
import MetricQuery.Pattern.Footprint
import MetricQuery.Pattern.Reader

namespace MetricQuery

namespace Glob

/-- a part of a glob -/
inductive Part where
  | char (c : Char)
  | anyChar
  | anyRun
  /-- a class with its depth as a class of a regular expression -/
  | oneOf (s : Unicode.CodeSet) (depth : Nat)
  | group (alternatives : List (List Part))

end Glob

/-- parts in a row -/
abbrev Glob := List Glob.Part

namespace Glob

/-! ## Reading -/

/-- an open group, or the glob as a whole: the alternatives that are complete, and the parts of the one being read -/
structure Frame where
  complete : List Glob
  parts : Glob

def Frame.push (f : Frame) (p : Part) : Frame :=
  { f with parts := f.parts ++ [p] }

def Frame.alternatives (f : Frame) : List Glob :=
  f.complete ++ [f.parts]

/-- the text of a class; a backslash in it stands for itself -/
def classText (content : List Char) : List Char :=
  '[' :: (content.flatMap fun c => if c = '\\' then ['\\', '\\'] else [c]) ++ [']']

/-- reads on with `top` as the innermost open frame and `outer` those around it -/
def read (top : Frame) (outer : List Frame) : List Char → Option Glob
  | [] => if outer = [] then some top.parts else none
  | c :: r =>
    if c = '[' then readSet top outer [] r
    else if c = '*' then read (top.push .anyRun) outer r
    else if c = '?' then read (top.push .anyChar) outer r
    else if c = '{' then read ⟨[], []⟩ (top :: outer) r
    else match outer with
      | [] => read (top.push (.char c)) [] r
      | next :: rest =>
        if c = '}' then read (next.push (.group top.alternatives)) rest r
        else if c = ',' then read ⟨top.alternatives, []⟩ (next :: rest) r
        else read (top.push (.char c)) (next :: rest) r
where
  /-- reads on inside a class of which `content` is known, up to the first closing bracket -/
  readSet (top : Frame) (outer : List Frame) (content : List Char) : List Char → Option Glob
    | [] => none
    | c :: r =>
      if c = ']' then
        match Pattern.parseClass (classText content) with
        | .ok (s, depth) => read (top.push (.oneOf s depth)) outer r
        | .error _ => none
      else readSet top outer (content ++ [c]) r

/-- the glob that a text holds, unless a group or class in it is not closed or a class is malformed -/
def parse (text : String) : Option Glob :=
  read ⟨[], []⟩ [] text.toList

/-! ## Matching -/

/-- for each place of a text whether it is reached: a mark in front of every character, and one at the end -/
abbrev Marks := List Bool

/-- the places one character behind a marked one -/
def stepOver (takes : Char → Bool) (s : List Char) (marks : Marks) : Marks :=
  false :: List.zipWith (fun c marked => marked && takes c) s marks

/-- the places a run of characters other than points behind a marked one; `carried` says that a run leads to the first -/
def runOver (carried : Bool) : List Char → Marks → Marks
  | c :: r, m :: ms => (carried || m) :: runOver ((carried || m) && c != '.') r ms
  | _, m :: _ => [carried || m]
  | _, [] => []

mutual

/-- the places that a part leads to from marked ones -/
def Part.advance : Part → List Char → Marks → Marks
  | .char c, s, marks => stepOver (· == c) s marks
  | .anyChar, s, marks => stepOver (· != '.') s marks
  | .anyRun, s, marks => runOver false s marks
  | .oneOf set _, s, marks => stepOver set.holds s marks
  | .group alternatives, s, marks => advanceAny alternatives s marks

/-- the places that parts in a row lead to -/
def advanceAll : List Part → List Char → Marks → Marks
  | [], _, marks => marks
  | p :: ps, s, marks => advanceAll ps s (p.advance s marks)

/-- the places that any of the alternatives leads to -/
def advanceAny : List (List Part) → List Char → Marks → Marks
  | [], _, marks => marks.map fun _ => false
  | ps :: rest, s, marks => List.zipWith (· || ·) (advanceAll ps s marks) (advanceAny rest s marks)

end

/-- whether a glob matches the whole of a name -/
def accepts (g : Glob) (name : String) : Bool :=
  let s := name.toList
  (advanceAll g s (true :: List.replicate s.length false)).getLastD false

/-! ## Limits -/

open Pattern (Node)

def notPoint : Node :=
  .ofSet (Unicode.CodeSet.single 0x2E).complement

mutual

/-- the regular expression of a part -/
def Part.node : Part → Node
  | .char c => .text [c]
  | .anyChar => notPoint
  | .anyRun => .repeated notPoint 0 none true
  | .oneOf s _ => .ofSet s
  | .group alternatives => .choice (alternativeNodes alternatives)

def partNodes : List Part → List Node
  | [] => []
  | p :: ps => p.node :: partNodes ps

def alternativeNodes : List (List Part) → List Node
  | [] => []
  | ps :: rest => .sequence (partNodes ps) :: alternativeNodes rest

end

mutual

/-- how many levels lie within each other in the regular expression of a part -/
def Part.depth : Part → Nat
  | .char _ => 0
  | .anyChar => 1
  | .anyRun => 2
  | .oneOf _ depth => depth
  | .group alternatives => 1 + Pattern.depthOver (alternativeDepths alternatives)

def partDepths : List Part → List Nat
  | [] => []
  | p :: ps => p.depth :: partDepths ps

def alternativeDepths : List (List Part) → List Nat
  | [] => []
  | ps :: rest => Pattern.depthOver (partDepths ps) :: alternativeDepths rest

end

/-- whether the regular expression of the glob, which stands between the two ends of a text, stays within its limits -/
def fits (g : Glob) : Bool :=
  Pattern.depthOver (0 :: 0 :: partDepths g) ≤ Pattern.nestingLimit &&
    (Node.sequence (.assert .textStart :: partNodes g ++ [.assert .textEnd])).fits

/-- the glob that a text holds, unless it is malformed or beyond the limits -/
def compile (text : String) : Option Glob :=
  (parse text).filter fits

end Glob

end MetricQuery
