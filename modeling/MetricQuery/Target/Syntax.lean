/-
Render targets: trees of function calls over metric paths and literals.

A call keeps, beside its arguments, the text of its argument list. Names of computed series quote that text, so a target
is shown the way it was written and not rebuilt from the tree.
-/
import MetricQuery.Keyed
import MetricQuery.Text.Alphabetic

namespace MetricQuery.Target

/-- the quote around a string literal -/
inductive Quote where
  | single
  | double
  deriving DecidableEq, Repr

def Quote.char : Quote → Char
  | .single => '\''
  | .double => '"'

/-- an expression of the target language -/
inductive Expr where
  /-- a metric path or glob pattern -/
  | name (path : String)
  /-- a function applied to positional and named arguments; named ones are kept in ascending order of key -/
  | call (function : String) (args : List Expr) (named : List (String × Expr)) (argText : String)
  /-- a number with its text, so that `2e-3` is shown as it was written -/
  | number (value : Float) (literal : String)
  | string (value : String) (quote : Quote)
  /-- a truth value; only named arguments hold one -/
  | flag (value : Bool)
  deriving Inhabited

/-- one call of a target, taken apart -/
structure Call where
  function : String
  args : List Expr := []
  named : Keyed Expr := []
  argText : String := ""

def Call.toExpr (c : Call) : Expr :=
  .call c.function c.args c.named c.argText

namespace Expr

def call? : Expr → Option Call
  | .call f args named argText => some ⟨f, args, named, argText⟩
  | _ => none

/-- whether the expression stands for a list of series -/
def isSeries : Expr → Bool
  | .name _ => true
  | .call .. => true
  | _ => false

/-- the word messages use for this kind of expression -/
def kind : Expr → String
  | .name _ => "name"
  | .call .. => "function"
  | .number .. => "constant"
  | .string .. => "string"
  | .flag _ => "boolean"

end Expr

/-! ## Comparison -/

mutual

/-- same tree; numbers are compared by value, so two literals that are not numbers differ -/
def Expr.same : Expr → Expr → Bool
  | .name a, .name b => a == b
  | .call f as ns s, .call g bs ms t => f == g && sameAll as bs && sameNamed ns ms && s == t
  | .number x s, .number y t => x == y && s == t
  | .string a q, .string b r => a == b && q == r
  | .flag a, .flag b => a == b
  | _, _ => false

def sameAll : List Expr → List Expr → Bool
  | [], [] => true
  | a :: as, b :: bs => a.same b && sameAll as bs
  | _, _ => false

def sameNamed : List (String × Expr) → List (String × Expr) → Bool
  | [], [] => true
  | (k, a) :: as, (l, b) :: bs => k == l && a.same b && sameNamed as bs
  | _, _ => false

end

/-! ## Depth -/

mutual

/-- levels of nesting; a leaf has one -/
def Expr.depth : Expr → Nat
  | .call _ args named _ => 1 + max (depthAll args) (depthNamed named)
  | _ => 1

def depthAll : List Expr → Nat
  | [] => 0
  | e :: es => max e.depth (depthAll es)

def depthNamed : List (String × Expr) → Nat
  | [] => 0
  | (_, e) :: es => max e.depth (depthNamed es)

end

/-! ## Arguments by place and by key -/

namespace Call

def arg? (c : Call) (index : Nat) : Option Expr :=
  c.args[index]?

def named? (c : Call) (key : String) : Option Expr :=
  c.named.get? key

/-- the named argument if there is one, otherwise the positional one -/
def namedOrAt? (c : Call) (key : String) (index : Nat) : Option Expr :=
  (c.named? key).or (c.arg? index)

def hasArg (c : Call) (key : String) (index : Nat) : Bool :=
  (c.namedOrAt? key index).isSome

end Call

/-! ## Characters -/

/-- whether a character may stand in a bare metric name -/
def isNameChar (c : Char) : Bool :=
  c.isAlphanum || ['.', '_', '-', '*', '?', ':', '[', ']', '^', '$', '<', '>', '&', '#', '/', '%', '@', '+', '~'].contains c ||
    Text.isAlphabetic c

/-- whether a word is `lower` in any case of its ASCII letters -/
def isWordAnyCase (word lower : String) : Bool :=
  word.toList.map Char.toLower == lower.toList

end MetricQuery.Target
