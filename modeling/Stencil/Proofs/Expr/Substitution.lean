import Stencil.Expr
import Stencil.Proofs.Outcome

/-!
This module contains the substitution of constants for variables. Replacing variables by the values
that an environment gives them changes nothing about the value of an expression there.
-/

namespace Stencil

variable {H : Type}

def Env.Extends (env : Env H) (bound : String → Option (Value H)) : Prop :=
  ∀ name v, bound name = some v → env.lookup name = some v

namespace Expr

mutual
def substitute (bound : String → Option (Value H)) : Expr H → Expr H
  | const v => const v
  | var name =>
    match bound name with
    | some v => const v
    | none => var name
  | unary op operand => unary op (operand.substitute bound)
  | binary op left right => binary op (left.substitute bound) (right.substitute bound)
  | ternary cond yes no =>
    ternary (cond.substitute bound) (yes.substitute bound) (no.substitute bound)
  | array items => array (substituteAll bound items)
  | map entries => map (substituteEntries bound entries)
  | group inner => group (inner.substitute bound)
  | classRef cls => classRef cls
  | staticField cls name => staticField cls name
  | staticCall cls method args => staticCall cls method (substituteAll bound args)
  | chain base steps => chain (base.substitute bound) (substituteSteps bound steps)

def substituteAll (bound : String → Option (Value H)) : List (Expr H) → List (Expr H)
  | [] => []
  | e :: rest => e.substitute bound :: substituteAll bound rest

def substituteEntries (bound : String → Option (Value H)) :
    List (Expr H × Expr H) → List (Expr H × Expr H)
  | [] => []
  | (k, e) :: rest => (k.substitute bound, e.substitute bound) :: substituteEntries bound rest

def substituteSteps (bound : String → Option (Value H)) : List (Step H) → List (Step H)
  | [] => []
  | step :: rest => substituteStep bound step :: substituteSteps bound rest

def substituteStep (bound : String → Option (Value H)) : Step H → Step H
  | .property name => .property name
  | .method name args => .method name (substituteAll bound args)
  | .index key => .index (key.substitute bound)
end

variable [HostObject H] {env : Env H} {bound : String → Option (Value H)}

mutual
theorem eval_substitute (h : env.Extends bound) :
    ∀ e : Expr H, eval env (e.substitute bound) = eval env e
  | const v => by
    simp only [substitute]
  | var name => by
    simp only [substitute]
    split
    . next v hv => simp only [eval, h name v hv]
    . rfl
  | unary op operand => by
    simp only [substitute, eval, eval_substitute h operand]
  | binary op left right => by
    simp only [substitute, eval, eval_substitute h left, eval_substitute h right]
  | ternary cond yes no => by
    simp only [substitute, eval, eval_substitute h cond, eval_substitute h yes, eval_substitute h no]
  | array items => by
    simp only [substitute, eval, evalAll_substituteAll h items]
  | map entries => by
    simp only [substitute, eval, evalEntries_substituteEntries h entries]
  | group inner => by
    simp only [substitute, eval, eval_substitute h inner]
  | classRef cls => by
    simp only [substitute]
  | staticField cls name => by
    simp only [substitute]
  | staticCall cls method args => by
    simp only [substitute, eval, evalAll_substituteAll h args]
  | chain base steps => by
    simp only [substitute, eval, eval_substitute h base, evalSteps_substituteSteps h steps]

theorem evalAll_substituteAll (h : env.Extends bound) :
    ∀ es : List (Expr H), evalAll env (substituteAll bound es) = evalAll env es
  | [] => by
    simp only [substituteAll]
  | e :: rest => by
    simp only [substituteAll, evalAll, eval_substitute h e, evalAll_substituteAll h rest]

theorem evalEntries_substituteEntries (h : env.Extends bound) :
    ∀ (es : List (Expr H × Expr H)) (m : ValueMap H),
      evalEntries env m (substituteEntries bound es) = evalEntries env m es
  | [], m => by
    simp only [substituteEntries]
  | (k, e) :: rest, m => by
    simp only [substituteEntries, evalEntries, eval_substitute h k, eval_substitute h e,
      evalEntries_substituteEntries h rest]

theorem evalSteps_substituteSteps (h : env.Extends bound) :
    ∀ (ss : List (Step H)) (target : Value H),
      evalSteps env target (substituteSteps bound ss) = evalSteps env target ss
  | [], target => by
    simp only [substituteSteps]
  | s :: rest, target => by
    simp only [substituteSteps, evalSteps, evalStep_substituteStep h s,
      evalSteps_substituteSteps h rest]

theorem evalStep_substituteStep (h : env.Extends bound) :
    ∀ (s : Step H) (target : Value H),
      evalStep env target (substituteStep bound s) = evalStep env target s
  | .property name, target => by
    simp only [substituteStep]
  | .method name args, target => by
    simp only [substituteStep, evalStep, evalAll_substituteAll h args]
  | .index key, target => by
    simp only [substituteStep, evalStep, eval_substitute h key]
end

end Expr

end Stencil
