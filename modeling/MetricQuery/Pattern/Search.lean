/-
Matches of regular expressions in text.

Of the matches that begin first, the preferred one is taken. A search follows the states of a program depth first and
enters each state at most once at each place, because what did not lead to a match from there the first time does not
lead to one later; so a search takes no more steps than there are states and places. `matches` lists the matches from
left to right; they do not overlap, and an empty one does not touch the end of the one before.
-/
import Std.Data.HashSet
import MetricQuery.Pattern.Program

namespace MetricQuery.Pattern

/-- a place in a text: the character in front of it, the text behind it, and the number of characters before it -/
structure Place where
  prev : Option Char
  rest : List Char
  index : Nat

def Place.start (s : List Char) : Place := ⟨none, s, 0⟩

/-- the place one character on -/
def Place.next? (p : Place) : Option Place :=
  match p.rest with
  | [] => none
  | c :: r => some ⟨some c, r, p.index + 1⟩

/-! ## Assertions -/

def isWord (ascii : Bool) (c : Option Char) : Bool :=
  match c with
  | none => false
  | some c => if ascii then c.isAlphanum || c == '_' else Text.isWordChar c

def Assertion.holds (a : Assertion) (p : Place) : Bool :=
  let next := p.rest.head?
  match a with
  | .textStart => p.prev.isNone
  | .textEnd => next.isNone
  | .lineStart => p.prev.isNone || p.prev == some '\n'
  | .lineEnd => next.isNone || next == some '\n'
  | .returnLineStart => p.prev.isNone || p.prev == some '\n' || (p.prev == some '\r' && next != some '\n')
  | .returnLineEnd => next.isNone || next == some '\r' || (next == some '\n' && p.prev != some '\r')
  | .wordBoundary ascii => isWord ascii p.prev != isWord ascii next
  | .notWordBoundary ascii => isWord ascii p.prev == isWord ascii next
  | .wordStart ascii => !isWord ascii p.prev && isWord ascii next
  | .wordEnd ascii => isWord ascii p.prev && !isWord ascii next
  | .wordStartHalf ascii => !isWord ascii p.prev
  | .wordEndHalf ascii => !isWord ascii next

/-! ## Search -/

/-- an end of a group, as a search came by it -/
structure Mark where
  group : Nat
  isEnd : Bool
  index : Nat

/-- a way through the program so far: where it is, and the marks it came by, the latest first -/
structure Path where
  state : Nat
  place : Place
  marks : List Mark

/-- the paths that a path goes on with at a state other than the accepting one, the preferred one first -/
def Path.steps (p : Path) : State → List Path
  | .char c next =>
    match p.place.rest with
    | [] => []
    | d :: rest => if d = c then [{ p with state := next, place := ⟨some d, rest, p.place.index + 1⟩ }] else []
  | .oneOf s next =>
    match p.place.rest with
    | [] => []
    | d :: rest => if s.holds d then [{ p with state := next, place := ⟨some d, rest, p.place.index + 1⟩ }] else []
  | .assert a next => if a.holds p.place then [{ p with state := next }] else []
  | .groupStart i next => [{ p with state := next, marks := ⟨i, false, p.place.index⟩ :: p.marks }]
  | .groupEnd i next => [{ p with state := next, marks := ⟨i, true, p.place.index⟩ :: p.marks }]
  | .choose next => next.map fun state => { p with state := state }
  | .accept => []

/-- the states entered so far, each with the place -/
abbrev Entered := Std.HashSet (Nat × Nat)

/-- follows paths, the first one and all that it leads to before the others, until one is accepted -/
def Program.follow (program : Program) : Nat → List Path → Entered → Option Path × Entered
  | 0, _, entered => (none, entered)
  | _, [], entered => (none, entered)
  | fuel + 1, p :: rest, entered =>
    if entered.contains (p.state, p.place.index) then program.follow fuel rest entered
    else match program.states[p.state]? with
      | none => program.follow fuel rest entered
      | some .accept => (some p, entered)
      | some state => program.follow fuel (p.steps state ++ rest) (entered.insert (p.state, p.place.index))

/-- how many paths a state may go on with -/
def State.width : State → Nat
  | .choose next => next.length
  | _ => 1

/-- a regular expression made ready for a search: its program with the number of steps from all states together, and the
number of its groups with the names that some of them have -/
structure Regex where
  program : Program
  steps : Nat
  groups : Nat
  names : List (String × Nat)

/-- a match: its span and the marks of its groups -/
structure Match where
  start : Nat
  stop : Nat
  marks : List Mark

/-- the first match that begins in the text behind a place, `fuel` bounding the paths followed from each place -/
def Program.findIn (program : Program) (fuel : Nat) (entered : Entered) (prev : Option Char) (index : Nat) :
    List Char → Option Match
  | [] =>
    ((program.follow fuel [⟨program.start, ⟨prev, [], index⟩, []⟩] entered).1).map fun p =>
      ⟨index, p.place.index, p.marks⟩
  | c :: rest =>
    match program.follow fuel [⟨program.start, ⟨prev, c :: rest, index⟩, []⟩] entered with
    | (some p, _) => some ⟨index, p.place.index, p.marks⟩
    | (none, entered) => program.findIn fuel entered (some c) (index + 1) rest

def Regex.findFrom (r : Regex) (p : Place) : Option Match :=
  r.program.findIn ((r.steps + 1) * (p.rest.length + 1) + 1) ∅ p.prev p.index p.rest

/-- whether there is a match anywhere in a text -/
def Regex.occursIn (r : Regex) (text : String) : Bool :=
  (r.findFrom (.start text.toList)).isSome

/-! ## All matches -/

/-- the place some characters on, or the end of the text -/
def Place.advance : Nat → Place → Place
  | 0, p => p
  | n + 1, p =>
    match p.next? with
    | some q => q.advance n
    | none => p

/-- matches from a place on, `last` being the end of the match before -/
def Regex.matchesFrom (r : Regex) : Nat → Option Nat → Place → List Match
  | 0, _, _ => []
  | fuel + 1, last, p =>
    match r.findFrom p with
    | none => []
    | some m =>
      if m.start = m.stop ∧ last = some m.stop then
        match p.next? with
        | some q => r.matchesFrom fuel none q
        | none => []
      else m :: r.matchesFrom fuel (some m.stop) (p.advance (m.stop - p.index))

/-- all matches in a text, from left to right -/
def Regex.matches (r : Regex) (s : List Char) : List Match :=
  r.matchesFrom (2 * s.length + 2) none (.start s)

/-- the text between two places -/
def textBetween (s : List Char) (start stop : Nat) : List Char :=
  (s.drop start).take (stop - start)

/-- the latest place that a match has marked as an end of a group -/
def Match.mark? (m : Match) (group : Nat) (isEnd : Bool) : Option Nat :=
  (m.marks.find? fun mark => mark.group == group && mark.isEnd == isEnd).map Mark.index

/-- the text of a group; group zero is the whole match, and a group that took no part has no text -/
def Match.group? (m : Match) (s : List Char) (index : Nat) : Option (List Char) :=
  if index = 0 then some (textBetween s m.start m.stop)
  else match m.mark? index false, m.mark? index true with
    | some start, some stop => some (textBetween s start stop)
    | _, _ => none

/-- a text with every match replaced, `done` characters of it being dealt with -/
def replaceMatches (s : List Char) (replacement : Match → List Char) (done : Nat) : List Match → List Char
  | [] => s.drop done
  | m :: rest => textBetween s done m.start ++ replacement m ++ replaceMatches s replacement m.stop rest

/-- a text with every match replaced by a text made of the match -/
def Regex.replaceAll (r : Regex) (s : List Char) (replacement : Match → List Char) : List Char :=
  replaceMatches s replacement 0 (r.matches s)

end MetricQuery.Pattern
