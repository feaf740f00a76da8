import Stencil.Classes.Builtin
import Stencil.Proofs.Indexing
import Stencil.Proofs.Outcome

/-!
This module contains what calls of built-in methods come to for values as arguments, and the proof
that they come to the same in an expression.
-/

namespace Stencil

variable {H : Type}

theorem ClassRegistry.name_of_resolve {r : ClassRegistry H} {cls : StaticClass H} {name : String}
    (h : r.resolve name = some cls) : cls.name = name := by
  rw [ClassRegistry.resolve] at h
  have hname := List.find?_some h
  exact beq_iff_eq.mp hname

variable [HostObject H]

def Classes.call (now : Int64) (className method : String) (args : List (Value H)) : Eval (Value H) :=
  Expr.orMissing (.unresolvedStatic className method)
    (((ClassRegistry.builtin now).resolve className).bind fun cls => cls.call method args)

namespace Expr

variable {env : Env H}

theorem evalAll_const (args : List (Value H)) : evalAll env (args.map const) = .ok args := by
  induction args with
  | nil => rfl
  | cons v args ih => rw [List.map_cons, evalAll, ih, eval]; rfl

theorem eval_staticCall_const {now : Int64} {className : String} {cls : StaticClass H}
    (h : (ClassRegistry.builtin now).resolve className = some cls) (method : String)
    (args : List (Value H)) :
    eval env (staticCall cls method (args.map const)) = Classes.call now className method args := by
  rw [eval, evalAll_const, Outcome.ok_bind, ClassRegistry.name_of_resolve h, Classes.call, h]
  rfl

theorem eval_method_const (henv : env.members = .builtin) (v : Value H) (name : String)
    (args : List (Value H)) :
    eval env (chain (const v) [.method name (args.map const)]) = v.call name args := by
  rw [eval, eval, Outcome.ok_bind, evalSteps, evalStep, evalAll_const, Outcome.ok_bind, henv]
  exact bind_pure _

end Expr

end Stencil
