import Stencil.Expr

/-!
This module contains the parts of an expression: the expressions that stand directly in a node, and
from these the subtrees of a tree.
-/

namespace Stencil

variable {H : Type}

def Step.children : Step H → List (Expr H)
  | .property _ => []
  | .method _ args => args
  | .index key => [key]

namespace Expr

def children : Expr H → List (Expr H)
  | const _ | var _ | classRef _ | staticField _ _ => []
  | unary _ operand => [operand]
  | binary _ left right => [left, right]
  | ternary cond yes no => [cond, yes, no]
  | array items => items
  | map entries => entries.flatMap fun entry => [entry.1, entry.2]
  | group inner => [inner]
  | staticCall _ _ args => args
  | chain base steps => base :: steps.flatMap Step.children

inductive Subtree (s : Expr H) : Expr H → Prop where
  | refl : Subtree s s
  | child {e t : Expr H} : e ∈ t.children → Subtree s e → Subtree s t

theorem subtree_iff {s t : Expr H} : Subtree s t ↔ s = t ∨ ∃ e ∈ t.children, Subtree s e := by
  constructor
  . intro h
    cases h with
    | refl => exact .inl rfl
    | child he h => exact .inr ⟨_, he, h⟩
  . rintro (rfl | ⟨e, he, h⟩)
    . exact .refl
    . exact .child he h

end Expr

end Stencil
