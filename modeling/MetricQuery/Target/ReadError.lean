/-
What can be wrong with the text of a target, and where.

While a target is read, a `Failure` carries the text that was left when the fault was found. `Failure.locate` turns it
into a `ReadError`, which names the byte at which that rest starts and, where the fault is a character, the character.
-/
import MetricQuery.Target.Syntax

namespace MetricQuery.Target

/-- a fault in the text of a target; positions count the bytes of its UTF-8 form -/
inductive ReadError where
  | missingExpr (position : Nat)
  | unexpectedCharacter (position : Nat) (character : Char)
  | missingQuote (position : Nat) (quote : Quote)
  | missingParen (position : Nat)
  | unmatchedBrace (position : Nat)
  | missingComma (position : Nat) (character : Char)
  | badNamedArgument (position : Nat) (name : String)
  | duplicateNamedArgument (position : Nat) (name : String)
  | pipeTarget (position : Nat)
  deriving DecidableEq, Repr

namespace ReadError

def position : ReadError → Nat
  | .missingExpr p | .unexpectedCharacter p _ | .missingQuote p _ | .missingParen p | .unmatchedBrace p
  | .missingComma p _ | .badNamedArgument p _ | .duplicateNamedArgument p _ | .pipeTarget p => p

def message : ReadError → String
  | .missingExpr p => s!"missing expression at position {p}"
  | .unexpectedCharacter p c => s!"unexpected character '{c}' at position {p}"
  | .missingQuote p q => s!"missing closing quote for {q.char} opened at position {p}"
  | .missingParen p => s!"missing closing parenthesis for '(' at position {p}"
  | .unmatchedBrace p => s!"unmatched '\x7b' at position {p}"
  | .missingComma p c => s!"missing comma before '{c}' at position {p}"
  | .badNamedArgument p name => s!"named argument '{name}' at position {p} must be a literal"
  | .duplicateNamedArgument p name => s!"duplicate named argument '{name}' at position {p}"
  | .pipeTarget p => s!"'|' at position {p} must be followed by a function call"

end ReadError

/-- the kind of a fault, before its place in the whole text is known -/
inductive Fault where
  | missingExpr
  | missingQuote (quote : Quote)
  | missingParen
  | unmatchedBrace
  | missingComma
  | badNamedArgument (name : String)
  | duplicateNamedArgument (name : String)
  | pipeTarget
  | unexpected
  deriving DecidableEq, Repr

/-- a fault and the text that was left when it was found -/
structure Failure where
  rest : List Char
  fault : Fault
  deriving DecidableEq, Repr

/-- bytes of the UTF-8 form -/
def byteLength (s : List Char) : Nat :=
  s.foldl (fun n c => n + c.utf8Size) 0

/-- the failure as seen from the whole text -/
def Failure.locate (text : List Char) (f : Failure) : ReadError :=
  let position := byteLength text - byteLength f.rest
  match f.fault, f.rest with
  | .missingExpr, _ => .missingExpr position
  | .missingQuote q, _ => .missingQuote position q
  | .missingParen, _ => .missingParen position
  | .unmatchedBrace, _ => .unmatchedBrace position
  | .badNamedArgument name, _ => .badNamedArgument position name
  | .duplicateNamedArgument name, _ => .duplicateNamedArgument position name
  | .pipeTarget, _ => .pipeTarget position
  | .missingComma, c :: _ => .missingComma position c
  | .unexpected, c :: _ => .unexpectedCharacter position c
  | .missingComma, [] => .missingExpr position
  | .unexpected, [] => .missingExpr position

end MetricQuery.Target
