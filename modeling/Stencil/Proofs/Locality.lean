import Stencil.Proofs.Context
import Stencil.Proofs.Homemade

/-!
This module contains the proof that an evaluation reads only the variables that are named: no other
binding has an influence on it, nor has the structure that the bindings are kept in, and without
objects of a host only a variable that is named and unbound is ever reported as unresolved.
-/

namespace Stencil

open Outcome

variable {H : Type}

def BlamesOnlyMissing {α : Type} (lookup : String → Option (Value H)) (names : String → Prop)
    (r : Eval α) : Prop :=
  (∀ name, r = .error (.unresolvedVariable name) → names name ∧ lookup name = none)
    ∧ ((∀ name, names name → (lookup name).isSome) → ∀ name, r ≠ .error (.unresolvedVariable name))

theorem blamesOnlyMissing_of_ends {α : Type} {good : α → Prop} {r : Eval α}
    {lookup : String → Option (Value H)} {names : String → Prop}
    (h : Ends good (EvalError.BlamesMissing lookup names) r) : BlamesOnlyMissing lookup names r := by
  have honly (name : String) (hr : r = .error (.unresolvedVariable name)) :
      names name ∧ lookup name = none := by
    rw [hr] at h
    exact h name rfl
  refine ⟨honly, ?_⟩
  intro hbound name hr
  obtain ⟨hname, hnone⟩ := honly name hr
  simpa [hnone] using hbound name hname

variable [HostObject H]

namespace Template

variable {now : Int64} {lookup : String → Option (Value H)} {names : String → Prop}

theorem ends_renderSegments (segments : List (Segment H))
    (h : ∀ e, .expr e ∈ segments → e.Enclosed now lookup names) :
    Ends (fun _ => True) (EvalError.BlamesMissing lookup names)
      (renderSegments ⟨lookup, Members.builtin⟩ segments) := by
  induction segments with
  | nil => trivial
  | cons segment rest ih =>
    have hsegment : Ends (fun _ => True) (EvalError.BlamesMissing lookup names)
        (renderSegment ⟨lookup, Members.builtin⟩ segment) := by
      cases segment with
      | literal text => trivial
      | expr e =>
        rw [renderSegment, ends_map]
        exact (Expr.ends_eval e (h e List.mem_cons_self)).mono (fun _ _ => trivial) fun _ he => he
    rw [renderSegments]
    apply hsegment.bind
    intro text _
    apply (ih fun e he => h e (List.mem_cons_of_mem _ he)).bind
    intro rendered _
    trivial

end Template

theorem Expr.blamesOnlyMissing_eval {now : Int64} {lookup : String → Option (Value H)} {e : Expr H}
    (h : e.Homemade now) (hbound : ∀ name v, e.Mentions name → lookup name = some v → v.HostFree) :
    BlamesOnlyMissing lookup e.Mentions (e.eval ⟨lookup, Members.builtin⟩) :=
  blamesOnlyMissing_of_ends (ends_eval e ⟨h, fun _ hname => hname, hbound⟩)

theorem Template.blamesOnlyMissing {now : Int64} {lookup : String → Option (Value H)}
    {t : Template H} (h : t.Homemade now)
    (hbound : ∀ name v, t.Mentions name → lookup name = some v → v.HostFree) :
    BlamesOnlyMissing lookup t.Mentions (t.render lookup)
      ∧ BlamesOnlyMissing lookup t.Mentions (t.eval lookup) := by
  have hexpr (e : Expr H) (he : .expr e ∈ t.segments) : e.Enclosed now lookup t.Mentions :=
    ⟨h.expr e he, fun name hname => ⟨e, he, hname⟩, hbound⟩
  have hrender : Ends (fun _ => True) (EvalError.BlamesMissing lookup t.Mentions)
      (t.render lookup) := by
    rw [render, h.members_eq]
    exact ends_renderSegments t.segments hexpr
  refine ⟨blamesOnlyMissing_of_ends hrender, ?_⟩
  unfold eval
  split
  . next e hsegments =>
    rw [h.members_eq]
    exact blamesOnlyMissing_of_ends (Expr.ends_eval e (hexpr e (by simp [hsegments])))
  . have htext : Ends (fun _ => True) (EvalError.BlamesMissing lookup t.Mentions)
        ((t.render lookup).map (Value.str (H := H))) :=
      ends_map.mpr hrender
    exact blamesOnlyMissing_of_ends htext

/--
Evaluation and rendering read only the variables that are named: contexts that agree on these give
the same result, whatever the members are, and so do all structures that are built from the same
bindings. With the built-in members and classes, and without objects of a host, only a variable that
is named and unbound is reported as unresolved. What is compiled with the built-in classes and members
is always of this kind.
-/
theorem reads_only_named :
    (∀ (e : Expr H) (members : Members H) (lookup lookup' : String → Option (Value H)),
      e.Agree lookup lookup' → e.eval ⟨lookup, members⟩ = e.eval ⟨lookup', members⟩)
    ∧ (∀ (t : Template H) (lookup lookup' : String → Option (Value H)), t.Agree lookup lookup' →
        t.render lookup = t.render lookup' ∧ t.eval lookup = t.eval lookup')
    ∧ (∀ (bindings : List (String × Value H)) (kind kind' : ContextKind),
        (∀ (e : Expr H) (members : Members H),
          e.eval ⟨kind.lookup bindings, members⟩ = e.eval ⟨kind'.lookup bindings, members⟩)
        ∧ ∀ t : Template H, t.render (kind.lookup bindings) = t.render (kind'.lookup bindings)
            ∧ t.eval (kind.lookup bindings) = t.eval (kind'.lookup bindings))
    ∧ (∀ (now : Int64) (lookup : String → Option (Value H)) (e : Expr H), e.Homemade now →
        (∀ name v, e.Mentions name → lookup name = some v → v.HostFree) →
          BlamesOnlyMissing lookup e.Mentions (e.eval ⟨lookup, Members.builtin⟩))
    ∧ (∀ (now : Int64) (lookup : String → Option (Value H)) (t : Template H), t.Homemade now →
        (∀ name v, t.Mentions name → lookup name = some v → v.HostFree) →
          BlamesOnlyMissing lookup t.Mentions (t.render lookup)
            ∧ BlamesOnlyMissing lookup t.Mentions (t.eval lookup))
    ∧ (∀ (now : Int64) (limit : Nat) (src : String) (e : Expr H),
        Expr.parse (ClassRegistry.builtin now).resolve limit src = .ok e → e.Homemade now)
    ∧ ∀ (now : Int64) (s : Settings H), s.BuiltIn now → ∀ (d : Delimiters) (src : String)
        (t : Template H), Template.compile s d src = .ok t → t.Homemade now := by
  refine ⟨?_, ?_, ?_, ?_, ?_, ?_, ?_⟩
  . intro e members lookup lookup' h
    exact Expr.eval_congr e h
  . intro t lookup lookup' h
    exact ⟨Template.render_congr h, Template.eval_congr h⟩
  . intro bindings kind kind'
    have hkinds : kind.lookup bindings = kind'.lookup bindings := by
      funext name
      rw [kind.lookup_eq, kind'.lookup_eq]
    rw [hkinds]
    exact ⟨fun _ _ => rfl, fun _ => ⟨rfl, rfl⟩⟩
  . intro now lookup e h hbound
    exact Expr.blamesOnlyMissing_eval h hbound
  . intro now lookup t h hbound
    exact Template.blamesOnlyMissing h hbound
  . intro now limit src e h
    exact Expr.homemade_of_parse h
  . intro now s hs d src t h
    exact Template.homemade_of_compile hs h

theorem reads_only_named_max :
    let math : StaticClass Empty := ⟨"Math", Classes.mathField, Classes.mathCall⟩
    let e : Expr Empty := .staticCall math "max" [.var "x", .const (.int 1)]
    let t : Template Empty := ⟨[.literal "max: ", .expr e], Members.builtin⟩
    let lookup := ContextKind.hashed.lookup [("x", .int 5)]
    let lookup' := ContextKind.map.lookup [("x", .null), ("y", .int 2), ("x", .int 5)]
    let unbound := ContextKind.ordered.lookup []
    e.eval ⟨lookup, Members.builtin⟩ = e.eval ⟨lookup', Members.builtin⟩
      ∧ t.render lookup = t.render lookup'
      ∧ BlamesOnlyMissing unbound e.Mentions (e.eval ⟨unbound, Members.builtin⟩)
      ∧ BlamesOnlyMissing unbound t.Mentions (t.render unbound) := by
  intro math e t lookup lookup' unbound
  have hparts (s : Expr Empty) (hs : Expr.Subtree s e) :
      s = e ∨ s = .var "x" ∨ s = .const (.int 1) := by
    rw [Expr.subtree_iff] at hs
    simp only [e, Expr.children, List.mem_cons, List.not_mem_nil, or_false, exists_eq_or_imp,
      exists_eq_left] at hs
    rw [Expr.subtree_iff (t := .var "x"), Expr.subtree_iff (t := .const _)] at hs
    simpa [Expr.children] using hs
  have hnames (name : String) (h : e.Mentions name) : name = "x" := by
    simpa [e] using hparts _ h
  have hmath : math ∈ (ClassRegistry.builtin 0).classes := List.mem_cons_self
  have hlookup : lookup "x" = lookup' "x" := by
    simp only [lookup, lookup', ContextKind.lookup_eq]
    rfl
  have he : e.Homemade 0 := by
    intro s hs
    rcases hparts s hs with rfl | rfl | rfl
    . exact hmath
    . trivial
    . simp [Expr.IsHomemade]
  have hexpr (e' : Expr Empty) (h : .expr e' ∈ t.segments) : e' = e := by
    simpa [t] using h
  obtain ⟨heval, hrender, -, hmissing, hmissing', -, -⟩ := reads_only_named (H := Empty)
  refine ⟨?_, ?_, ?_, ?_⟩
  . exact heval e _ _ _ fun name h => by rw [hnames name h, hlookup]
  . refine (hrender t _ _ ?_).1
    rintro name ⟨e', he', h⟩
    rw [hexpr e' he'] at h
    rw [hnames name h, hlookup]
  . exact hmissing 0 _ e he (by simp [unbound, ContextKind.lookup_eq])
  . refine (hmissing' 0 _ t ⟨rfl, ?_⟩ (by simp [unbound, ContextKind.lookup_eq])).1
    intro e' he'
    rw [hexpr e' he']
    exact he

end Stencil
