import Stencil.Expr

/-!
This module contains the folding of whole trees: every operator, choice and group is rebuilt by
its folding constructor, from the leaves to the root and from left to right, and everything else
is rebuilt as it is. The first operator that fails on constants gives the error, also where an
evaluation would not have come to it.
-/

namespace Stencil

namespace Expr

variable {H : Type} [HostObject H]

mutual
def fold : Expr H → Eval (Expr H)
  | const v => .ok (const v)
  | var name => .ok (var name)
  | unary op operand => do
    foldUnary op (← fold operand)
  | binary op left right => do
    let left ← fold left
    let right ← fold right
    foldBinary op left right
  | ternary cond yes no => do
    let cond ← fold cond
    let yes ← fold yes
    let no ← fold no
    foldTernary cond yes no
  | array items => do
    return array (← foldAll items)
  | map entries => do
    return map (← foldEntries entries)
  | group inner => do
    return foldGroup (← fold inner)
  | classRef cls => .ok (classRef cls)
  | staticField cls name => .ok (staticField cls name)
  | staticCall cls method args => do
    return staticCall cls method (← foldAll args)
  | chain base steps => do
    let base ← fold base
    return chain base (← foldSteps steps)

def foldAll : List (Expr H) → Eval (List (Expr H))
  | [] => .ok []
  | e :: rest => do
    let e ← fold e
    return e :: (← foldAll rest)

def foldEntries : List (Expr H × Expr H) → Eval (List (Expr H × Expr H))
  | [] => .ok []
  | (k, e) :: rest => do
    let k ← fold k
    let e ← fold e
    return (k, e) :: (← foldEntries rest)

def foldSteps : List (Step H) → Eval (List (Step H))
  | [] => .ok []
  | step :: rest => do
    let step ← foldStep step
    return step :: (← foldSteps rest)

def foldStep : Step H → Eval (Step H)
  | .property name => .ok (.property name)
  | .method name args => do
    return .method name (← foldAll args)
  | .index key => do
    return .index (← fold key)
end

end Expr

end Stencil
