/-
Patterns as programs: numbered states that a search goes through.

A state asks for a character, holds a condition, keeps the place as the start or end of a group, or goes on at any of
several states in order of preference. `Node.program` builds the program of a tree from its end to its beginning, so that
the state to go on with is known before the states that lead to it. A repetition leads back to a state of its own, which
stands behind the repeated part; if that part may be empty, one more state in front of it decides whether to enter it.
-/
import MetricQuery.Pattern.Syntax

namespace MetricQuery.Pattern

open Unicode (CodeSet)

inductive State where
  | char (c : Char) (next : Nat)
  | oneOf (s : CodeSet) (next : Nat)
  | assert (a : Assertion) (next : Nat)
  | groupStart (index : Nat) (next : Nat)
  | groupEnd (index : Nat) (next : Nat)
  /-- goes on at one of several states; the earlier ones are preferred -/
  | choose (next : List Nat)
  | accept

/-- a program under construction: the state that leads into what was built last, and all states so far -/
structure Builder where
  entry : Nat
  states : Array State

namespace Builder

/-- a state in front of what was built last -/
def push (b : Builder) (s : State) : Builder :=
  ⟨b.states.size, b.states.push s⟩

/-- the states that a repetition goes on with: its inside first if it is greedy -/
def order (greedy : Bool) (inside behind : Nat) : List Nat :=
  if greedy then [inside, behind] else [behind, inside]

/-- a state that goes either into what was built last or on to `behind` -/
def pushChoice (b : Builder) (greedy : Bool) (behind : Nat) : Builder :=
  b.push (.choose (order greedy b.entry behind))

/-- what `inner` builds in front of `behind`, with a state behind it that leads back to its beginning or on; the first
number is that of the state behind -/
def loop (greedy : Bool) (inner : Builder → Builder) : Builder → Nat × Builder
  | ⟨behind, states⟩ =>
    let back := states.size
    match inner ⟨back, states.push (.choose [])⟩ with
    | ⟨entry, states⟩ => (back, ⟨entry, states.setIfInBounds back (.choose (order greedy entry behind))⟩)

/-- what `inner` builds some times in a row -/
def times (n : Nat) (inner : Builder → Builder) (b : Builder) : Builder :=
  n.repeat inner b

/-- what `inner` builds up to some times in a row, each time with the choice of going on behind all of them -/
def upTo (n : Nat) (greedy : Bool) (inner : Builder → Builder) : Builder → Builder
  | ⟨behind, states⟩ => n.repeat (fun b => (inner b).pushChoice greedy behind) ⟨behind, states⟩

/-- what `inner` builds at least some times in a row; `takesSome` says that it takes a character each time -/
def atLeast (n : Nat) (greedy takesSome : Bool) (inner : Builder → Builder) : Builder → Builder
  | ⟨behind, states⟩ =>
    match n, loop greedy inner ⟨behind, states⟩ with
    | 0, (back, built) => if takesSome then { built with entry := back } else built.pushChoice greedy behind
    | n + 1, (_, built) => built.times n inner

end Builder

mutual

/-- the states of a node in front of what was built -/
def Node.build : Node → Builder → Builder
  | .empty, b => b
  | .text cs, b => cs.foldr (fun c b => b.push (.char c b.entry)) b
  | .oneOf s, b => b.push (.oneOf s b.entry)
  | .assert a, b => b.push (.assert a b.entry)
  | .group index inner, b =>
    let built := inner.build (b.push (.groupEnd index b.entry))
    built.push (.groupStart index built.entry)
  | .seq parts, b => buildSequence parts b
  | .alt branches, b =>
    let (entries, built) := buildBranches branches b.entry b
    built.push (.choose entries)
  | .rep inner least most greedy, b =>
    match most with
    | none => b.atLeast least greedy inner.takesSome fun b => inner.build b
    | some most => (b.upTo (most - least) greedy fun b => inner.build b).times least fun b => inner.build b

def buildSequence : List Node → Builder → Builder
  | [], b => b
  | n :: rest, b => n.build (buildSequence rest b)

/-- branches that all go on at `behind`, with the states that lead into them -/
def buildBranches : List Node → Nat → Builder → List Nat × Builder
  | [], _, b => ([], b)
  | n :: rest, behind, b =>
    let (entries, built) := buildBranches rest behind b
    let built := n.build { built with entry := behind }
    (built.entry :: entries, built)

end

structure Program where
  states : Array State
  start : Nat

/-- the program of a tree -/
def Node.program (n : Node) : Program :=
  let built := n.build (Builder.push ⟨0, #[]⟩ .accept)
  ⟨built.states, built.entry⟩

end MetricQuery.Pattern
