import Stencil.Value.Basic

/-!
This module contains the variables of a program run: names and the values they are bound to.
-/

namespace Stencil

structure Variables (H : Type) where
  bindings : List (String × Value H)

namespace Variables

variable {H : Type}

def empty : Variables H :=
  ⟨[]⟩

def set (vars : Variables H) (name : String) (v : Value H) : Variables H :=
  ⟨go vars.bindings⟩
where
  go : List (String × Value H) → List (String × Value H)
    | [] => [(name, v)]
    | (n, w) :: rest => if n = name then (n, v) :: rest else (n, w) :: go rest

def get? (vars : Variables H) (name : String) : Option (Value H) :=
  vars.bindings.lookup name

def size (vars : Variables H) : Nat :=
  vars.bindings.length

def isEmpty (vars : Variables H) : Bool :=
  vars.bindings.isEmpty

def extend (vars : Variables H) (bindings : List (String × Value H)) : Variables H :=
  bindings.foldl (fun vars (name, v) => vars.set name v) vars

end Variables

end Stencil
