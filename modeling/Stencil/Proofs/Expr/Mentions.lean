import Stencil.Proofs.Expr.Subtree
import Stencil.Template

/-!
This module contains the variables that an expression or a template names, and the proof that
nothing else of a context is read: where two contexts agree on them, evaluation comes to the same.
-/

namespace Stencil

variable {H : Type}

namespace Expr

def Mentions (e : Expr H) (name : String) : Prop :=
  Subtree (.var name) e

theorem mentions_var (name : String) : (var name : Expr H).Mentions name :=
  .refl

theorem Mentions.child {e s : Expr H} {name : String} (hs : s ∈ e.children) (h : s.Mentions name) :
    e.Mentions name :=
  Subtree.child hs h

def Agree (lookup lookup' : String → Option (Value H)) (e : Expr H) : Prop :=
  ∀ name, e.Mentions name → lookup name = lookup' name

variable {lookup lookup' : String → Option (Value H)}

theorem Agree.child {e : Expr H} (h : Agree lookup lookup' e) :
    ∀ s ∈ e.children, Agree lookup lookup' s :=
  fun _ hs name hname => h name (hname.child hs)

variable [HostObject H] {members : Members H}

mutual
theorem eval_congr : ∀ e : Expr H, Agree lookup lookup' e →
    eval ⟨lookup, members⟩ e = eval ⟨lookup', members⟩ e
  | const v, _ => by
    simp only [eval]
  | var name, h => by
    simp only [eval, h name (mentions_var name)]
  | unary op operand, h => by
    simp only [eval, eval_congr operand (h.child _ (by simp [children]))]
  | binary op left right, h => by
    simp only [eval, eval_congr left (h.child _ (by simp [children])),
      eval_congr right (h.child _ (by simp [children]))]
  | ternary cond yes no, h => by
    simp only [eval, eval_congr cond (h.child _ (by simp [children])),
      eval_congr yes (h.child _ (by simp [children])),
      eval_congr no (h.child _ (by simp [children]))]
  | array items, h => by
    simp only [eval, evalAll_congr items h.child]
  | map entries, h => by
    simp only [eval, evalEntries_congr entries [] h.child]
  | group inner, h => by
    simp only [eval, eval_congr inner (h.child _ (by simp [children]))]
  | classRef cls, _ => by
    simp only [eval]
  | staticField cls name, _ => by
    simp only [eval]
  | staticCall cls method args, h => by
    simp only [eval, evalAll_congr args h.child]
  | chain base steps, h => by
    have hsteps : ∀ s ∈ steps.flatMap Step.children, Agree lookup lookup' s :=
      fun s hs => h.child s (List.mem_cons_of_mem _ hs)
    simp only [eval, eval_congr base (h.child _ (by simp [children])),
      fun target => evalSteps_congr steps target hsteps]

theorem evalAll_congr : ∀ es : List (Expr H), (∀ s ∈ es, Agree lookup lookup' s) →
    evalAll ⟨lookup, members⟩ es = evalAll ⟨lookup', members⟩ es
  | [], _ => by
    simp only [evalAll]
  | e :: rest, h => by
    rw [List.forall_mem_cons] at h
    simp only [evalAll, eval_congr e h.1, evalAll_congr rest h.2]

theorem evalEntries_congr : ∀ (es : List (Expr H × Expr H)) (m : ValueMap H),
    (∀ s ∈ es.flatMap fun entry => [entry.1, entry.2], Agree lookup lookup' s) →
      evalEntries ⟨lookup, members⟩ m es = evalEntries ⟨lookup', members⟩ m es
  | [], m, _ => by
    simp only [evalEntries]
  | (k, e) :: rest, m, h => by
    rw [List.flatMap_cons, List.forall_mem_append] at h
    simp only [evalEntries, eval_congr k (h.1 _ (by simp)), eval_congr e (h.1 _ (by simp)),
      fun m => evalEntries_congr rest m h.2]

theorem evalSteps_congr : ∀ (ss : List (Step H)) (target : Value H),
    (∀ s ∈ ss.flatMap Step.children, Agree lookup lookup' s) →
      evalSteps ⟨lookup, members⟩ target ss = evalSteps ⟨lookup', members⟩ target ss
  | [], target, _ => by
    simp only [evalSteps]
  | s :: rest, target, h => by
    rw [List.flatMap_cons, List.forall_mem_append] at h
    simp only [evalSteps, evalStep_congr s target h.1, fun target => evalSteps_congr rest target h.2]

theorem evalStep_congr : ∀ (s : Step H) (target : Value H),
    (∀ e ∈ s.children, Agree lookup lookup' e) →
      evalStep ⟨lookup, members⟩ target s = evalStep ⟨lookup', members⟩ target s
  | .property name, target, _ => by
    simp only [evalStep]
  | .method name args, target, h => by
    simp only [evalStep, evalAll_congr args h]
  | .index key, target, h => by
    simp only [evalStep, eval_congr key (h key (by simp [Step.children]))]
end

end Expr

namespace Template

def Mentions (t : Template H) (name : String) : Prop :=
  ∃ e, .expr e ∈ t.segments ∧ e.Mentions name

def Agree (lookup lookup' : String → Option (Value H)) (t : Template H) : Prop :=
  ∀ name, t.Mentions name → lookup name = lookup' name

variable {lookup lookup' : String → Option (Value H)}

theorem Agree.expr {t : Template H} (h : t.Agree lookup lookup') {e : Expr H}
    (he : .expr e ∈ t.segments) : e.Agree lookup lookup' :=
  fun name hname => h name ⟨e, he, hname⟩

variable [HostObject H]

theorem renderSegments_congr {members : Members H} (segments : List (Segment H))
    (h : ∀ e, .expr e ∈ segments → Expr.Agree lookup lookup' e) :
    renderSegments ⟨lookup, members⟩ segments = renderSegments ⟨lookup', members⟩ segments := by
  induction segments with
  | nil => rfl
  | cons segment rest ih =>
    have hrest := ih fun e he => h e (List.mem_cons_of_mem _ he)
    have hsegment : renderSegment ⟨lookup, members⟩ segment
        = renderSegment ⟨lookup', members⟩ segment := by
      cases segment with
      | literal text => rfl
      | expr e => simp only [renderSegment, Expr.eval_congr e (h e List.mem_cons_self)]
    simp only [renderSegments, hsegment, hrest]

theorem render_congr {t : Template H} (h : t.Agree lookup lookup') :
    t.render lookup = t.render lookup' :=
  renderSegments_congr t.segments fun _ he => h.expr he

theorem eval_congr {t : Template H} (h : t.Agree lookup lookup') : t.eval lookup = t.eval lookup' := by
  have hrender := render_congr h
  unfold eval
  split
  . next e hsegments => exact Expr.eval_congr e (h.expr (by simp [hsegments]))
  . rw [hrender]

end Template

end Stencil
