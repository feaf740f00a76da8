import Stencil.Value.Basic

/-!
This module contains what methods ask of their arguments: how many there are, and of which kind each
one is. The number is looked at before the kinds, and the kinds from left to right.
-/

namespace Stencil

namespace Arguments

variable {H : Type}

def wrongNumber (method : String) (expected : Arity) (args : List (Value H)) : EvalError :=
  .callResolution method (.arity expected args.length)

def none (method : String) (args : List (Value H)) (result : Value H) : Eval (Value H) :=
  match args with
  | [] => .ok result
  | _ => .error (wrongNumber method (.exactly 0) args)

def one (method : String) (args : List (Value H)) : Eval (Value H) :=
  match args with
  | [v] => .ok v
  | _ => .error (wrongNumber method (.exactly 1) args)

def two (method : String) (args : List (Value H)) : Eval (Value H × Value H) :=
  match args with
  | [v, w] => .ok (v, w)
  | _ => .error (wrongNumber method (.exactly 2) args)

variable [HostObject H]

def wrongKind (method : String) (index : Nat) (expected : ArgumentKind) (v : Value H) : EvalError :=
  .callResolution method (.argument index expected v.typeName)

def text (method : String) (index : Nat) (v : Value H) : Eval String :=
  match v with
  | .str s => .ok s
  | _ => .error (wrongKind method index .text v)

def integer (method : String) (index : Nat) (v : Value H) : Eval Int64 :=
  match v with
  | .int n => .ok n
  | _ => .error (wrongKind method index .integer v)

def number (method : String) (index : Nat) (v : Value H) : Eval Float :=
  match v.asDecimal? with
  | some x => .ok x
  | _ => .error (wrongKind method index .number v)

def oneText (method : String) (args : List (Value H)) : Eval String := do
  text method 0 (← one method args)

def oneInteger (method : String) (args : List (Value H)) : Eval Int64 := do
  integer method 0 (← one method args)

def oneNumber (method : String) (args : List (Value H)) : Eval Float := do
  number method 0 (← one method args)

def twoTexts (method : String) (args : List (Value H)) : Eval (String × String) := do
  let (v, w) ← two method args
  return (← text method 0 v, ← text method 1 w)

def twoNumbers (method : String) (args : List (Value H)) : Eval (Float × Float) := do
  let (v, w) ← two method args
  return (← number method 0 v, ← number method 1 w)

end Arguments

end Stencil
