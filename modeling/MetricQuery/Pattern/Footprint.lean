/-
How much memory a pattern takes when it is made ready for a search.

A pattern is held as two machines over bytes, one that reads forwards and keeps the groups and one that reads backwards
and does not. Each state takes 32 bytes, each transition of a state with several of them 8 more, and each way on from a
choice 4 more. A repetition holds its inside as often as its counts say. The machine of a set of characters shares the
states that lead on in the same way, as far as they are still remembered. A pattern fits if both machines stay within
`sizeLimit`.
-/
import Std.Data.HashMap
import MetricQuery.Pattern.ByteRange
import MetricQuery.Pattern.Fault
import MetricQuery.Pattern.Syntax

namespace MetricQuery.Pattern

open Unicode (CodeSet)

/-! ## Tallies -/

/-- the states so far, which are numbered from zero on, and the bytes they take beyond those that every state takes -/
structure Tally where
  states : Nat
  extra : Nat

def Tally.bytes (t : Tally) : Nat :=
  32 * t.states + t.extra

/-- more states, unless that is too much -/
def Tally.add (t : Tally) (states extra : Nat) : Option Tally :=
  let t := ⟨t.states + states, t.extra + extra⟩
  if t.bytes ≤ sizeLimit then some t else none

/-- a choice between two ways -/
def Tally.addChoice (t : Tally) : Option Tally :=
  t.add 1 8

/-- what `measure` adds, some times over -/
def Tally.times (measure : Tally → Option Tally) : Nat → Tally → Option Tally
  | 0, t => some t
  | n + 1, t =>
    match measure t with
    | some t => t.times measure n
    | none => none

/-! ## States that are shared -/

/-- states remembered by what they lead to. There are so many slots, and what comes to the same slot later takes it. -/
structure Memory where
  slots : Nat
  held : Std.HashMap Nat (List Nat × Nat)

/-- the slot of a key, by the multiplying hash of its numbers -/
def Memory.slot (m : Memory) (key : List Nat) : Nat :=
  (key.foldl (fun (h : UInt64) n => (h ^^^ n.toUInt64) * 1099511628211) 14695981039346656037).toNat % m.slots

/-- the number of the state with a key, which is added with what it takes if it is not remembered -/
def Memory.state (m : Memory) (t : Tally) (key : List Nat) (extra : Nat) : Option (Nat × Memory × Tally) :=
  let slot := m.slot key
  let add := (t.add 1 extra).map fun u => (t.states, { m with held := m.held.insert slot (key, t.states) }, u)
  match m.held[slot]? with
  | some (held, n) => if held == key then some (n, m, t) else add
  | none => add

/-- sequences that begin with the same range, one after the other, with that range and what comes behind it -/
def groupByFirst : List (List ByteRange) → List (ByteRange × List (List ByteRange))
  | [] => []
  | [] :: rest => groupByFirst rest
  | (r :: behind) :: rest =>
    match groupByFirst rest with
    | (r', others) :: groups =>
      if r = r' then (r, behind :: others) :: groups else (r, [behind]) :: (r', others) :: groups
    | [] => [(r, [behind])]

mutual

/-- the state that leads through some sequences to `target`, no sequence being longer than the fuel -/
def measureSequences (target : Nat) :
    Nat → List (List ByteRange) → Memory → Tally → Option (Nat × Memory × Tally)
  | 0, _, m, t => some (target, m, t)
  | fuel + 1, sequences, m, t =>
    if sequences.all List.isEmpty then some (target, m, t)
    else
      match measureGroups target fuel (groupByFirst sequences) m t with
      | some (key, m, t) => m.state t key (8 * (key.length / 3))
      | none => none

/-- the numbers that tell a state apart: the two ends of each range and the state it leads to -/
def measureGroups (target fuel : Nat) :
    List (ByteRange × List (List ByteRange)) → Memory → Tally → Option (List Nat × Memory × Tally)
  | [], m, t => some ([], m, t)
  | ((lo, hi), behind) :: rest, m, t =>
    match measureSequences target fuel behind m t with
    | some (next, m, t) =>
      match measureGroups target fuel rest m t with
      | some (key, m, t) => some (lo :: hi :: next :: key, m, t)
      | none => none
    | none => none

end

/-- a chain of single ranges from the end of a sequence to its beginning, `behind` being the state that it leads to -/
def measureChain (behind : Nat) : List ByteRange → Memory → Tally → Option (Memory × Tally)
  | [], m, t => some (m, t)
  | (lo, hi) :: rest, m, t =>
    match m.state t [behind, lo, hi] 0 with
    | some (n, m, t) => measureChain n rest m t
    | none => none

def measureChains (target : Nat) : List (List ByteRange) → Memory → Tally → Option Tally
  | [], _, t => some t
  | ranges :: rest, m, t =>
    match measureChain target ranges m t with
    | some (m, t) => (t.add 0 4).bind (measureChains target rest m)
    | none => none

/-- one character of a set: ASCII needs a single state, and what takes several bytes a state for each of them -/
def measureSet (backward : Bool) (s : CodeSet) (t : Tally) : Option Tally :=
  if s.isAscii then t.add 2 (8 * s.ranges.length)
  else if backward then do
    let u ← t.add 2 0
    measureChains (t.states + 1) (sequencesOf s.ranges) ⟨1000, ∅⟩ u
  else do
    let u ← t.add 1 0
    let (_, _, u) ← measureSequences t.states 4 (sequencesOf s.ranges) ⟨10000, ∅⟩ u
    some u

/-! ## Choices among texts -/

/-- texts as a tree of their bytes. A text that ends at a node closes the branches there, so that it is preferred to
longer ones that come later. -/
inductive Trie where
  | node (closed : List (List (Nat × Trie))) (current : List (Nat × Trie))

namespace Trie

def leaf : Trie := .node [] []

def insert : List Nat → Trie → Trie
  | [], .node closed current =>
    if current.isEmpty && closed.all List.isEmpty && !closed.isEmpty then .node closed current
    else .node (closed ++ [current]) []
  | b :: bs, .node closed current =>
    match current.lookup b with
    | some child => .node closed (current.map fun (c, t) => if c = b then (c, insert bs child) else (c, t))
    | none => .node closed (current ++ [(b, insert bs leaf)])

mutual

/-- the states of a tree, with the bytes that they take beyond those that every state takes -/
def measure : Trie → Nat × Nat
  | .node closed current =>
    let (states, extra, filled) := measureChunks closed
    let (states', extra') := measureEdges current
    let isLeaf := current.isEmpty && filled == 0
    let filled := if current.isEmpty then filled else filled + 1
    if isLeaf then (0, 0)
    else (states + states' + 1 + chunkStates current,
      extra + extra' + chunkExtra current + 4 * (filled + closed.length))

/-- the states of branches that are closed, and how many times there were any -/
def measureChunks : List (List (Nat × Trie)) → Nat × Nat × Nat
  | [] => (0, 0, 0)
  | chunk :: rest =>
    let (states, extra) := measureEdges chunk
    let (states', extra', filled) := measureChunks rest
    (states + states' + chunkStates chunk, extra + extra' + chunkExtra chunk,
      if chunk.isEmpty then filled else filled + 1)

def measureEdges : List (Nat × Trie) → Nat × Nat
  | [] => (0, 0)
  | (_, t) :: rest =>
    let (states, extra) := t.measure
    let (states', extra') := measureEdges rest
    (states + states', extra + extra')

def chunkStates (chunk : List (Nat × Trie)) : Nat :=
  if chunk.isEmpty then 0 else 1

def chunkExtra (chunk : List (Nat × Trie)) : Nat :=
  if chunk.length ≤ 1 then 0 else 8 * chunk.length

end

end Trie

/-- the texts of branches that are all texts -/
def texts? (branches : List Node) : Option (List (List Char)) :=
  branches.mapM fun
    | Node.text cs => some cs
    | _ => none

def measureTexts (backward : Bool) (texts : List (List Char)) (t : Tally) : Option Tally :=
  let bytes := texts.map fun cs => cs.flatMap utf8Bytes
  let trie := (bytes.map fun bs => if backward then bs.reverse else bs).foldl (fun t bs => t.insert bs) Trie.leaf
  let (states, extra) := trie.measure
  t.add (states + 1) extra

/-! ## Trees -/

mutual

/-- the tally with the machine of a node -/
def Node.measure (backward : Bool) : Node → Tally → Option Tally
  | .empty, t => t.add 1 0
  | .text cs, t => t.add ((cs.map Char.utf8Size).sum) 0
  | .oneOf s, t => measureSet backward s t
  | .assert _, t => t.add 1 0
  | .group _ inner, t =>
    if backward then inner.measure backward t
    else do
      let t ← t.add 1 0
      let t ← inner.measure backward t
      t.add 1 0
  | .seq parts, t => if backward then measureReversed parts t else measureParts parts t
  | .alt branches, t =>
    match texts? branches with
    | some texts => measureTexts backward texts t
    | none => measureBranches backward 0 branches t
  | .rep inner least most _, t =>
    let one (t : Tally) : Option Tally := inner.measure backward t
    match least, most with
    | 0, some 1 => do
      let t ← t.addChoice
      let t ← one t
      t.add 1 0
    | 0, none =>
      if inner.takesSome then do one (← t.addChoice)
      else do
        let t ← one t
        t.add 3 16
    | least, none => do
      let t ← t.times one least
      t.addChoice
    | least, some most =>
      if least = most then t.times one least
      else do
        let t ← if least = 0 then t.add 1 0 else t.times one least
        let t ← t.add 1 0
        t.times (fun t => do one (← t.addChoice)) (most - least)

def measureParts : List Node → Tally → Option Tally
  | [], t => some t
  | n :: rest, t => (n.measure false t).bind (measureParts rest)

def measureReversed : List Node → Tally → Option Tally
  | [], t => some t
  | n :: rest, t => (measureReversed rest t).bind (n.measure true)

/-- branches with a state in front of them and one behind them, which come with the second branch -/
def measureBranches (backward : Bool) (done : Nat) : List Node → Tally → Option Tally
  | [], t => some t
  | n :: rest, t =>
    match n.measure backward t with
    | some t =>
      ((if done = 1 then t.add 2 8 else if done = 0 then some t else t.add 0 4)).bind
        (measureBranches backward (done + 1) rest)
    | none => none

end

/-! ## Patterns -/

mutual

/-- whether every match of a node begins at the start of the text -/
def Node.startsText : Node → Bool
  | .assert a => a == .textStart
  | .group _ inner => inner.startsText
  | .seq parts => firstStartsText parts
  | .alt branches => allStartText branches
  | .rep inner least _ _ => 0 < least && inner.startsText
  | _ => false

def firstStartsText : List Node → Bool
  | [] => false
  | n :: rest => n.startsText || (n.isZeroWidth && firstStartsText rest)

def allStartText : List Node → Bool
  | [] => true
  | n :: rest => n.startsText && allStartText rest

end

mutual

/-- whether every match of a node ends at the end of the text -/
def Node.endsText : Node → Bool
  | .assert a => a == .textEnd
  | .group _ inner => inner.endsText
  | .seq parts => lastEndsText parts
  | .alt branches => allEndText branches
  | .rep inner least _ _ => 0 < least && inner.endsText
  | _ => false

/-- the same of nodes in a row, of which those behind the one that ends the text take no character -/
def lastEndsText : List Node → Bool
  | [] => false
  | n :: rest => lastEndsText rest || (Node.areZeroWidth rest && n.endsText)

def allEndText : List Node → Bool
  | [] => true
  | n :: rest => n.endsText && allEndText rest

end

/-- the tally of a whole pattern: unless it only matches at one end, the machine may first pass over any bytes -/
def Node.footprint (backward : Bool) (root : Node) : Option Tally := do
  let anchored := if backward then root.endsText else root.startsText
  let t ← if anchored then Tally.add ⟨0, 0⟩ 1 0 else Tally.add ⟨0, 0⟩ 3 16
  let t ← root.measure backward (⟨t.states + (if backward then 0 else 1), t.extra⟩)
  t.add (if backward then 1 else 2) 0

/-- whether both machines of a pattern stay within the limit -/
def Node.fits (root : Node) : Bool :=
  (root.footprint false).isSome && (root.footprint true).isSome

end MetricQuery.Pattern
