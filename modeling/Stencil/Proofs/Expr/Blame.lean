import Stencil.Proofs.Expr.Mentions
import Stencil.Proofs.Members

/-!
This module contains what an evaluation comes to where no object of a host is involved: a value
without such objects, or an error that blames no variable but a named one which is unbound.
-/

namespace Stencil

open Outcome

variable {H : Type}

def EvalError.BlamesMissing (lookup : String → Option (Value H)) (names : String → Prop)
    (e : EvalError) : Prop :=
  ∀ name, e = .unresolvedVariable name → names name ∧ lookup name = none

abbrev EndsAtHome (lookup : String → Option (Value H)) (names : String → Prop)
    (r : Eval (Value H)) : Prop :=
  Ends Value.HostFree (EvalError.BlamesMissing lookup names) r

variable {lookup : String → Option (Value H)} {names : String → Prop} {α : Type} {r : Eval α}

theorem ends_of_noVariable {good : α → Prop}
    (h : Ends good EvalError.NoVariable r) : Ends good (EvalError.BlamesMissing lookup names) r :=
  h.mono (fun _ hv => hv) fun _ he name hname => absurd hname (he name)

theorem ends_orMissing {missing : EvalError} {o : Option (Eval (Value H))}
    (hmissing : missing.NoVariable) (h : ∀ r, o = some r → Native r) :
    EndsAtHome lookup names (Expr.orMissing missing o) := by
  cases o with
  | none => exact ends_of_noVariable (ends_error.mpr hmissing)
  | some r => exact ends_of_noVariable (h r rfl)

variable [HostObject H]

namespace Expr

/--
A node that brings along only what is the language's own: a constant without objects of a host, or a
class that is built in.
-/
def IsHomemade (now : Int64) : Expr H → Prop
  | const v => v.HostFree
  | staticField cls _ | staticCall cls _ _ => cls ∈ (ClassRegistry.builtin now).classes
  | _ => True

def Homemade (now : Int64) (e : Expr H) : Prop :=
  ∀ s, Subtree s e → s.IsHomemade now

theorem homemade_iff {now : Int64} {e : Expr H} :
    e.Homemade now ↔ e.IsHomemade now ∧ ∀ s ∈ e.children, s.Homemade now := by
  constructor
  . intro h
    exact ⟨h e .refl, fun s hs t ht => h t (.child hs ht)⟩
  . rintro ⟨h, hchildren⟩ s hs
    rw [subtree_iff] at hs
    rcases hs with rfl | ⟨t, ht, hs⟩
    . exact h
    . exact hchildren t ht s hs

/--
An expression over named variables. To none of these is an object of a host bound.
-/
structure Enclosed (now : Int64) (lookup : String → Option (Value H)) (names : String → Prop)
    (e : Expr H) : Prop where
  homemade : e.Homemade now
  named (name : String) : e.Mentions name → names name
  bound (name : String) (v : Value H) : names name → lookup name = some v → v.HostFree

variable {now : Int64} {lookup : String → Option (Value H)} {names : String → Prop}

theorem Enclosed.child {e : Expr H} (h : e.Enclosed now lookup names) :
    ∀ s ∈ e.children, s.Enclosed now lookup names :=
  fun s hs => ⟨(homemade_iff.mp h.homemade).2 s hs, fun name hname => h.named name (hname.child hs),
    h.bound⟩

-- The names stay fixed in the induction over the tree: whatever a part mentions is one of them.

mutual
theorem ends_eval : ∀ e : Expr H, e.Enclosed now lookup names →
    EndsAtHome lookup names (eval ⟨lookup, Members.builtin⟩ e)
  | const v, h => by
    rw [eval]
    exact h.homemade (const v) .refl
  | var name, h => by
    have hnamed := h.named name (mentions_var name)
    simp only [eval]
    split
    . next v hv => exact h.bound name v hnamed hv
    . next hv =>
      rintro x hx
      cases hx
      exact ⟨hnamed, hv⟩
  | unary op operand, h => by
    rw [eval]
    apply (ends_eval operand (h.child _ (by simp [children]))).bind
    intro v _
    exact ends_of_noVariable (Value.native_applyUnary op v)
  | binary op left right, h => by
    have hright := ends_eval right (h.child _ (by simp [children]))
    have htruth (v : Value H) : Ends (fun _ => True) (EvalError.BlamesMissing lookup names)
        (v.truth op.symbol) :=
      ends_of_noVariable (Value.ends_truth fun _ => trivial)
    rw [eval]
    apply (ends_eval left (h.child _ (by simp [children]))).bind
    intro l _
    split
    . apply (htruth l).bind
      intro a _
      split
      . simp
      . apply hright.bind
        intro r _
        apply (htruth r).bind
        intro b _
        simp
    . apply hright.bind
      intro r _
      exact ends_of_noVariable (Value.native_applyBinary op l r)
  | ternary cond yes no, h => by
    rw [eval]
    apply (ends_eval cond (h.child _ (by simp [children]))).bind
    intro c _
    apply (ends_of_noVariable (Value.ends_truth fun _ => trivial)).bind
    intro b _
    split
    . exact ends_eval yes (h.child _ (by simp [children]))
    . exact ends_eval no (h.child _ (by simp [children]))
  | array items, h => by
    rw [eval]
    apply (ends_evalAll items h.child).bind
    intro vs hvs
    exact Value.hostFree_list.mpr hvs
  | map entries, h => by
    rw [eval]
    apply (ends_evalEntries entries [] (by simp) h.child).bind
    intro m hm
    exact hm
  | group inner, h => by
    rw [eval]
    exact ends_eval inner (h.child _ (by simp [children]))
  | classRef cls, _ => by
    rw [eval]
    rintro x hx
    cases hx
  | staticField cls name, h => by
    simp only [eval]
    split
    . next v hv => exact Classes.hostFree_field (h.homemade (staticField cls name) .refl) hv
    . rintro x hx
      cases hx
  | staticCall cls method args, h => by
    rw [eval]
    apply (ends_evalAll args h.child).bind
    intro vs hvs
    apply ends_orMissing (by simp [EvalError.NoVariable])
    exact fun r hr => Classes.native_call (h.homemade (staticCall cls method args) .refl) hvs hr
  | chain base steps, h => by
    rw [eval]
    apply (ends_eval base (h.child _ (by simp [children]))).bind
    intro target htarget
    exact ends_evalSteps steps target htarget fun s hs => h.child s (List.mem_cons_of_mem _ hs)

theorem ends_evalAll : ∀ es : List (Expr H), (∀ s ∈ es, s.Enclosed now lookup names) →
    Ends (fun vs => ∀ v ∈ vs, v.HostFree) (EvalError.BlamesMissing lookup names)
      (evalAll ⟨lookup, Members.builtin⟩ es)
  | [], _ => by
    simp [evalAll]
  | e :: rest, h => by
    rw [List.forall_mem_cons] at h
    rw [evalAll]
    apply (ends_eval e h.1).bind
    intro v hv
    apply (ends_evalAll rest h.2).bind
    intro vs hvs
    exact List.forall_mem_cons.mpr ⟨hv, hvs⟩

theorem ends_evalEntries : ∀ (es : List (Expr H × Expr H)) (m : ValueMap H),
    (Value.map m).HostFree →
    (∀ s ∈ es.flatMap fun entry => [entry.1, entry.2], s.Enclosed now lookup names) →
      Ends (fun m => (Value.map m).HostFree) (EvalError.BlamesMissing lookup names)
        (evalEntries ⟨lookup, Members.builtin⟩ m es)
  | [], m, hm, _ => by
    rw [evalEntries]
    exact hm
  | (k, e) :: rest, m, hm, h => by
    rw [List.flatMap_cons, List.forall_mem_append] at h
    rw [evalEntries]
    apply (ends_eval k (h.1 _ (by simp))).bind
    intro key hkey
    apply (ends_eval e (h.1 _ (by simp))).bind
    intro value hvalue
    exact ends_evalEntries rest _ (ValueMap.hostFree_insert hkey hvalue hm) h.2

theorem ends_evalSteps : ∀ (ss : List (Step H)) (target : Value H), target.HostFree →
    (∀ s ∈ ss.flatMap Step.children, s.Enclosed now lookup names) →
      EndsAtHome lookup names (evalSteps ⟨lookup, Members.builtin⟩ target ss)
  | [], target, htarget, _ => by
    rw [evalSteps]
    exact htarget
  | s :: rest, target, htarget, h => by
    rw [List.flatMap_cons, List.forall_mem_append] at h
    rw [evalSteps]
    apply (ends_evalStep s target htarget h.1).bind
    intro v hv
    exact ends_evalSteps rest v hv h.2

theorem ends_evalStep : ∀ (s : Step H) (target : Value H), target.HostFree →
    (∀ e ∈ s.children, e.Enclosed now lookup names) →
      EndsAtHome lookup names (evalStep ⟨lookup, Members.builtin⟩ target s)
  | .property name, target, htarget, _ => by
    rw [evalStep]
    apply ends_orMissing (by simp [EvalError.NoVariable])
    exact fun r hr => Members.native_builtinProperty htarget hr
  | .method name args, target, htarget, h => by
    rw [evalStep]
    apply (ends_evalAll args h).bind
    intro vs hvs
    apply ends_orMissing (by simp [EvalError.NoVariable])
    exact fun r hr => Members.native_builtinMethod htarget hvs hr
  | .index key, target, htarget, h => by
    rw [evalStep]
    apply (ends_eval key (h key (by simp [Step.children]))).bind
    intro v _
    exact ends_of_noVariable (Value.native_index htarget v)
end

end Expr

end Stencil
