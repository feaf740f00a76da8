import Std.Data.HashMap.Lemmas
import Std.Data.TreeMap.Lemmas
import Stencil.Proofs.Value.Map
import Stencil.Variables

/-!
This module contains the structures in which an evaluation can look up its variables. Built from the
same bindings, all of them give a name the value that it was bound to last.
-/

namespace Stencil

variable {H : Type}

/--
A structure that bindings of names to values are kept in: a table by hash, a table in order, the
variables of a program run, or a map of the language with the names as keys.
-/
inductive ContextKind where
  | hashed
  | ordered
  | program
  | map
  deriving Repr, DecidableEq

namespace ContextKind

def lookup [BEq H] (bindings : List (String × Value H)) :
    ContextKind → String → Option (Value H)
  | hashed, name =>
    (bindings.foldl (fun m b => m.insert b.1 b.2) (∅ : Std.HashMap String (Value H)))[name]?
  | ordered, name =>
    (bindings.foldl (fun m b => m.insert b.1 b.2) (∅ : Std.TreeMap String (Value H)))[name]?
  | program, name => (Variables.empty.extend bindings).get? name
  | map, name => (ValueMap.ofEntries (bindings.map fun b => (.str b.1, b.2))).getText? name

end ContextKind

theorem lookup_cons_ite {V : Type} (name : String) (v : V) (rest : List (String × V))
    (other : String) :
    ((name, v) :: rest).lookup other = if name = other then some v else rest.lookup other := by
  rw [List.lookup_cons]
  by_cases h : name = other
  . simp [h]
  . have hne : (other == name) = false := beq_false_of_ne (Ne.symm h)
    simp [h, hne]

theorem Variables.get?_set (vars : Variables H) (name : String) (v : Value H) (other : String) :
    (vars.set name v).get? other = if name = other then some v else vars.get? other := by
  obtain ⟨bindings⟩ := vars
  simp only [set, get?]
  induction bindings with
  | nil => rw [set.go, lookup_cons_ite]
  | cons binding rest ih =>
    obtain ⟨n, w⟩ := binding
    rw [set.go, lookup_cons_ite]
    split
    . next h =>
      rw [lookup_cons_ite, h]
      split <;> rfl
    . next h =>
      rw [lookup_cons_ite, ih]
      split
      . next hn =>
        rw [if_neg (fun hname => h (hn.trans hname.symm))]
      . rfl

theorem lookup_foldl_insert {M V : Type} (insert : M → String → V → M)
    (get? : M → String → Option V)
    (h : ∀ m name v other, get? (insert m name v) other
      = if name = other then some v else get? m other)
    (bindings : List (String × V)) (m : M) (name : String) :
    get? (bindings.foldl (fun m b => insert m b.1 b.2) m) name
      = (bindings.reverse.lookup name).or (get? m name) := by
  induction bindings generalizing m with
  | nil => simp
  | cons binding rest ih =>
    rw [List.foldl_cons, ih, List.reverse_cons, List.lookup_append, h, Option.or_assoc]
    congr 1
    rw [lookup_cons_ite]
    split <;> rfl

namespace ContextKind

variable [BEq H]

theorem lookup_eq (kind : ContextKind) (bindings : List (String × Value H)) (name : String) :
    kind.lookup bindings name = bindings.reverse.lookup name := by
  cases kind with
  | hashed =>
    have h := lookup_foldl_insert (fun (m : Std.HashMap String (Value H)) n v => m.insert n v)
      (fun m n => m[n]?) (by simp [Std.HashMap.getElem?_insert]) bindings ∅ name
    simpa [lookup] using h
  | ordered =>
    have h := lookup_foldl_insert (fun (m : Std.TreeMap String (Value H)) n v => m.insert n v)
      (fun m n => m[n]?) (by simp [Std.TreeMap.getElem?_insert]) bindings ∅ name
    simpa [lookup] using h
  | program =>
    have h := lookup_foldl_insert Variables.set (fun m n => m.get? n) Variables.get?_set
      bindings Variables.empty name
    simpa [lookup, Variables.extend, Variables.empty, Variables.get?] using h
  | map =>
    have h := lookup_foldl_insert (fun m n v => ValueMap.insert (.str n) v m)
      (fun m n => ValueMap.getText? n m) (fun m n v other => ValueMap.getText?_insert n v other m)
      bindings [] name
    simpa [lookup, ValueMap.ofEntries, List.foldl_map, ValueMap.getText?] using h

end ContextKind

end Stencil
