/-
Arguments one by one.

`Arg` is what one argument adds to a list of arguments. What argument a text starts with does not depend on the list it
is read onto; that only has to be without its key (`reads_arg_iff`). So the arguments of a call are read behind any
others that take the same keys (`Reads.args_push`).
-/
import MetricQuery.Proofs.Target.CallText

namespace MetricQuery.Target

open Text

/-- one argument: its value, under its key if it has one, and the text kept of it -/
inductive Arg where
  | positional (value : Expr) (piece : String)
  | named (key : String) (value : Expr) (piece : String)

namespace Arg

def args : Arg → List Expr
  | .positional value _ => [value]
  | .named .. => []

def pairs : Arg → List (String × Expr)
  | .positional .. => []
  | .named key value _ => [(key, value)]

def piece : Arg → String
  | .positional _ piece | .named _ _ piece => piece

/-- the key of the argument, if it has one, is not taken -/
def NewIn (a : Arg) (table : Keyed Expr) : Prop :=
  ∀ p ∈ a.pairs, table.get? p.1 = none

end Arg

namespace ArgList

/-- a list of arguments with one more -/
def push (acc : ArgList) (a : Arg) : ArgList :=
  ⟨acc.args ++ a.args, acc.named.insertAll a.pairs, acc.pieces ++ [a.piece]⟩

def pushAll (acc : ArgList) (l : List Arg) : ArgList :=
  l.foldl push acc

theorem withNamed_eq_push (acc : ArgList) (key : String) (value : Expr) (piece : String) :
    acc.withNamed key value piece = acc.push (.named key value piece) := by
  simp [withNamed, push, Arg.args, Arg.pairs, Arg.piece, Keyed.insertAll]

theorem withArg_eq_push (acc : ArgList) (e : Expr) (piece : String) :
    acc.withArg e piece = acc.push (.positional (positionalValue e) piece) :=
  rfl

theorem pushAll_eq (acc : ArgList) (l : List Arg) :
    acc.pushAll l =
      ⟨acc.args ++ l.flatMap Arg.args, acc.named.insertAll (l.flatMap Arg.pairs), acc.pieces ++ l.map Arg.piece⟩ := by
  induction l generalizing acc with
  | nil => simp [pushAll, Keyed.insertAll]
  | cons a l ih =>
    show (acc.push a).pushAll l = _
    rw [ih]
    simp [push, Keyed.insertAll, List.foldl_append]

end ArgList

/-! ## Pieces -/

theorem ofList_before_ne_empty {s rest : List Char} (h : rest.length < s.length) :
    String.ofList (before s rest) ≠ "" := by
  intro hempty
  have hlen := congrArg (fun t => t.toList.length) hempty
  simp only [String.toList_ofList, before, List.length_take, String.toList_empty, List.length_nil] at hlen
  omega

theorem Call.render_ne_empty (c : Call) : c.toExpr.render ≠ "" := by
  intro hempty
  have hlen := congrArg (fun t => t.toList.length) hempty
  simp only [Call.toExpr, Expr.render, String.toList_append, List.length_append, String.toList_empty,
    List.length_nil] at hlen
  have hparen : ")".toList.length = 1 := rfl
  omega

theorem Reads.piece_ne_empty {e : Expr} {p : Bool} {s rest : List Char} (h : Reads (.piped e p) s rest) :
    pieceOf e p s rest ≠ "" := by
  have hlen : rest.length < s.length := h.length_le
  unfold pieceOf
  rcases h.piped_cases with ⟨rfl, -⟩ | ⟨rfl, c, rfl⟩
  · exact ofList_before_ne_empty hlen
  · exact c.render_ne_empty

/-! ## Arguments behind others -/

/-- an argument that a text starts with, and the text it leaves -/
inductive ReadsArg : Arg → List Char → List Char → Prop
  | named {s key b v value b' after value'} (hkey : Reads (.piped (.name key) b) s ('=' :: v))
    (hvalue : Reads (.piped value b') v after) (hv : namedValue value = some value') :
    ReadsArg (.named key value' (String.ofList (before s after))) s after
  | positional {s e b rest} (h : Reads (.piped e b) s rest) (hkey : ∀ key v, e = .name key → rest ≠ '=' :: v) :
    ReadsArg (.positional (positionalValue e) (pieceOf e b s rest)) s rest

/-- **An argument is read alike onto any list** that does not hold its key. -/
theorem reads_arg_iff {acc acc' : ArgList} {s rest : List Char} :
    Reads (.arg acc acc') s rest ↔ ∃ a, ReadsArg a s rest ∧ a.NewIn acc.named ∧ acc' = acc.push a := by
  constructor
  · intro h
    cases h with
    | named hkey hvalue hv hnew =>
      refine ⟨_, .named hkey hvalue hv, ?_, acc.withNamed_eq_push _ _ _⟩
      intro p hp
      rw [List.mem_singleton.1 hp]
      exact hnew
    | positional h hkey =>
      refine ⟨_, .positional h hkey, ?_, acc.withArg_eq_push _ _⟩
      intro p hp
      cases hp
  · rintro ⟨a, ha, hnew, rfl⟩
    cases ha with
    | @named _ key _ _ _ _ _ value' hkey hvalue hv =>
      rw [← ArgList.withNamed_eq_push]
      exact .named hkey hvalue hv (hnew (key, value') (List.mem_singleton.2 rfl))
    | positional h hkey =>
      rw [← ArgList.withArg_eq_push]
      exact .positional h hkey

theorem Arg.eq_of_push {a b : Arg} (h : ArgList.push {} a = ArgList.push {} b) : a = b := by
  cases a <;> cases b <;>
    simp_all [ArgList.push, Arg.args, Arg.pairs, Arg.piece, Keyed.insertAll, Keyed.insert]

namespace ReadsArg

variable {a : Arg} {s rest : List Char} (h : ReadsArg a s rest)
include h

theorem reads : Reads (.arg {} (ArgList.push {} a)) s rest :=
  reads_arg_iff.2 ⟨a, h, fun _ _ => rfl, rfl⟩

theorem length_lt : rest.length < s.length :=
  h.reads.length_le

theorem skipSpaces_ne : skipSpaces s ≠ [] :=
  h.reads.skipSpaces_ne

/-- no space is left behind an argument -/
theorem skipSpaces_rest : skipSpaces rest = rest := by
  cases h with
  | named hkey hvalue hv =>
    cases hvalue with
    | piped _ h => exact h.at_rest.1
  | positional h hkey =>
    cases h with
    | piped _ h => exact h.at_rest.1

theorem piece_ne_empty : a.piece ≠ "" := by
  have hlen := h.length_lt
  cases h with
  | named hkey hvalue hv => exact ofList_before_ne_empty hlen
  | positional h hkey => exact h.piece_ne_empty

omit h in
/-- an argument in front of a closing parenthesis is read wherever an argument may end -/
theorem replace {v : List Char} (h : ReadsArg a (v ++ ')' :: rest) (')' :: rest)) {k : List Char} (hk : Stops k) :
    ReadsArg a (v ++ k) k := by
  obtain ⟨v', hv, hread⟩ := h.reads.replace
  cases List.append_cancel_right hv
  obtain ⟨b, hb, -, hpush⟩ := reads_arg_iff.1 (hread k ⟨by simp, Or.inl hk⟩)
  rwa [Arg.eq_of_push hpush]

end ReadsArg

/-- **Arguments are read alike behind any others** under the same keys. -/
theorem Reads.args_push {acc acc' : ArgList} {s rest : List Char} (h : Reads (.args acc acc') s rest) :
    ∃ l : List Arg, l ≠ [] ∧ (∀ a ∈ l, a.piece ≠ "") ∧ acc' = acc.pushAll l ∧
      ∀ acc₂ : ArgList, acc₂.named = acc.named → Reads (.args acc₂ (acc₂.pushAll l)) s rest := by
  generalize hi : Item.args acc acc' = i at h
  induction h generalizing acc with
  | last h hs =>
    cases hi
    obtain ⟨a, ha, hnew, rfl⟩ := reads_arg_iff.1 h
    refine ⟨[a], by simp, by simpa using ha.piece_ne_empty, rfl, fun acc₂ hacc => ?_⟩
    exact .last (reads_arg_iff.2 ⟨a, ha, by rwa [hacc], rfl⟩) hs
  | more h hs hmore _ ih =>
    cases hi
    obtain ⟨a, ha, hnew, rfl⟩ := reads_arg_iff.1 h
    obtain ⟨l, -, hpieces, hacc', hreads⟩ := ih rfl
    refine ⟨a :: l, by simp, by simpa using ⟨ha.piece_ne_empty, hpieces⟩, hacc', fun acc₂ hacc => ?_⟩
    have hnamed : (acc₂.push a).named = acc₂.named.insertAll a.pairs := rfl
    rw [hacc] at hnamed
    exact .more (reads_arg_iff.2 ⟨a, ha, by rwa [hacc], rfl⟩) hs (hreads (acc₂.push a) hnamed)
  | _ => cases hi

end MetricQuery.Target
