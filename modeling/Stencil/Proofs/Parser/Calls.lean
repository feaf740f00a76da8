import Stencil.Proofs.Parser.Walk

/-!
This module contains why the number of calls does not matter to a walk, as long as there are enough
of them: a walk that comes to an end comes to the same one with more calls.
-/

namespace Stencil

namespace Walk

variable {α β H : Type}

def Extends (w w' : Walk α) : Prop :=
  ∀ t outcome, w t = some outcome → w' t = some outcome

theorem Extends.refl (w : Walk α) : w.Extends w :=
  fun _ _ h => h

theorem extends_exhausted {w w' : Walk α} (h : w = exhausted) : w.Extends w' := by
  intro t outcome houtcome
  rw [h] at houtcome
  cases houtcome

theorem extends_bind {w w' : Walk β} {f f' : β → Walk α} (h : w.Extends w')
    (hf : ∀ b, (f b).Extends (f' b)) : (w >>= f).Extends (w' >>= f') := by
  have hrun (w : Walk β) (f : β → Walk α) (t : Trail) : (w >>= f) t = (w t).bind fun
      | (.ok b, t') => f b t'
      | (.error e, t') => some (.error e, t') := by
    simp only [bind, ExceptT.bind, ExceptT.mk, StateT.bind]
    congr
    funext ⟨result, t'⟩
    cases result with
    | ok b => rfl
    | error e => rfl
  intro t outcome houtcome
  rw [hrun] at houtcome ⊢
  obtain ⟨⟨result, t'⟩, hw, hrest⟩ := Option.bind_eq_some_iff.mp houtcome
  rw [h t _ hw]
  cases result with
  | ok b => exact hf b t' outcome hrest
  | error e => exact hrest

theorem extends_after {w : Walk β} {f f' : β → Walk α} (hf : ∀ b, (f b).Extends (f' b)) :
    (w >>= f).Extends (w >>= f') :=
  extends_bind (.refl w) hf

theorem extends_fail {problem : ParseProblem} {f f' : β → Walk α} :
    (step (Parser.fail problem) >>= f).Extends (step (Parser.fail problem) >>= f') :=
  fun _ _ h => h

theorem extends_failAt {pos : Nat} {problem : ParseProblem} {f f' : β → Walk α} :
    (step (Parser.failAt pos problem) >>= f).Extends (step (Parser.failAt pos problem) >>= f') :=
  fun _ _ h => h

theorem extends_ite {P : Prop} [Decidable P] {w₁ w₂ w₁' w₂' : Walk α} (h₁ : w₁.Extends w₁')
    (h₂ : w₂.Extends w₂') : (if P then w₁ else w₂).Extends (if P then w₁' else w₂') := by
  split
  . exact h₁
  . exact h₂

theorem extends_of_le {w : Nat → Walk α} (h : ∀ calls, (w calls).Extends (w (calls + 1)))
    {calls calls' : Nat} (hle : calls ≤ calls') : (w calls).Extends (w calls') := by
  induction hle with
  | refl => exact .refl _
  | step _ ih => exact fun t outcome houtcome => h _ t outcome (ih t outcome houtcome)

variable [HostObject H]

structure AllExtend (classes : Parser.ClassLookup H) (calls : Nat) : Prop where
  expression : (expression classes calls).Extends (expression classes (calls + 1))
  binary : ∀ least, (binary classes calls least).Extends (binary classes (calls + 1) least)
  operators : ∀ least left levels, (operators classes calls least left levels).Extends
    (operators classes (calls + 1) least left levels)
  unary : (unary classes calls).Extends (unary classes (calls + 1))
  postfixed : (postfixed classes calls).Extends (postfixed classes (calls + 1))
  primary : (primary classes calls).Extends (primary classes (calls + 1))
  group : (group classes calls).Extends (group classes (calls + 1))
  array : (array classes calls).Extends (array classes (calls + 1))
  arguments : (arguments classes calls).Extends (arguments classes (calls + 1))
  sequence : ∀ close start construct, (sequence classes calls close start construct).Extends
    (sequence classes (calls + 1) close start construct)
  items : ∀ close start construct, (items classes calls close start construct).Extends
    (items classes (calls + 1) close start construct)
  map : (map classes calls).Extends (map classes (calls + 1))
  entries : ∀ start, (entries classes calls start).Extends (entries classes (calls + 1) start)
  mapKey : (mapKey classes calls).Extends (mapKey classes (calls + 1))
  staticAccess : (staticAccess classes calls).Extends (staticAccess classes (calls + 1))
  steps : (steps classes calls).Extends (steps classes (calls + 1))

section

variable {classes : Parser.ClassLookup H} {calls : Nat} (ih : AllExtend classes calls)

include ih

theorem extends_expression :
    (expression classes (calls + 1)).Extends (expression classes (calls + 2)) := by
  rw [expression, expression]
  apply extends_bind (ih.binary 0)
  intro cond
  apply extends_after
  intro mark
  apply extends_ite (.refl _)
  apply extends_after
  intro pos
  apply extends_after
  intro _
  apply extends_after
  intro _
  apply extends_bind ih.expression
  intro yes
  apply extends_after
  intro _
  apply extends_bind ih.expression
  intro no
  exact .refl _

theorem extends_binary (least : Nat) :
    (binary classes (calls + 1) least).Extends (binary classes (calls + 2) least) := by
  rw [binary, binary]
  apply extends_bind ih.unary
  intro left
  apply extends_bind (ih.operators least left 0)
  intro result
  exact .refl _

theorem extends_operators (least : Nat) (left : Expr H) (levels : Nat) :
    (operators classes (calls + 1) least left levels).Extends
      (operators classes (calls + 2) least left levels) := by
  rw [operators, operators]
  apply extends_after
  intro found
  cases found with
  | none => exact .refl _
  | some found =>
    apply extends_ite (.refl _)
    apply extends_after
    intro pos
    apply extends_after
    intro _
    apply extends_bind (ih.binary _)
    intro right
    apply extends_after
    intro e
    apply extends_ite (ih.operators _ _ _)
    apply extends_after
    exact fun _ => ih.operators _ _ _

theorem extends_unary : (unary classes (calls + 1)).Extends (unary classes (calls + 2)) := by
  rw [unary, unary]
  apply extends_after
  intro found
  cases found with
  | none => exact ih.postfixed
  | some op =>
    apply extends_after
    intro pos
    apply extends_after
    intro _
    apply extends_after
    intro _
    apply extends_bind ih.unary
    intro operand
    exact .refl _

theorem extends_postfixed :
    (postfixed classes (calls + 1)).Extends (postfixed classes (calls + 2)) := by
  rw [postfixed, postfixed]
  apply extends_bind ih.primary
  intro base
  apply extends_bind ih.steps
  intro steps
  exact .refl _

theorem extends_primary : (primary classes (calls + 1)).Extends (primary classes (calls + 2)) := by
  rw [primary, primary]
  apply extends_after
  intro start
  apply extends_after
  intro next
  cases next with
  | none => exact .refl _
  | some symbol =>
    cases symbol with
    | groupOpen => exact extends_bind ih.group fun _ => .refl _
    | arrayOpen => exact extends_bind ih.array fun _ => .refl _
    | mapOpen => exact extends_bind ih.map fun _ => .refl _
    | classMarker => exact extends_bind ih.staticAccess fun _ => .refl _
    | _ => exact .refl _

theorem extends_group : (group classes (calls + 1)).Extends (group classes (calls + 2)) := by
  rw [group, group]
  apply extends_after
  intro start
  apply extends_after
  intro _
  apply extends_after
  intro _
  apply extends_bind ih.expression
  intro inner
  exact .refl _

theorem extends_array : (array classes (calls + 1)).Extends (array classes (calls + 2)) := by
  rw [array, array]
  apply extends_after
  intro start
  apply extends_after
  intro _
  apply extends_after
  intro _
  apply extends_bind (ih.sequence _ _ _)
  intro items
  exact .refl _

theorem extends_arguments :
    (arguments classes (calls + 1)).Extends (arguments classes (calls + 2)) := by
  rw [arguments, arguments]
  apply extends_after
  intro start
  apply extends_after
  intro _
  apply extends_after
  intro _
  apply extends_bind (ih.sequence _ _ _)
  intro items
  exact .refl _

theorem extends_sequence (close : Char) (start : Nat) (construct : Construct) :
    (sequence classes (calls + 1) close start construct).Extends
      (sequence classes (calls + 2) close start construct) := by
  rw [sequence, sequence]
  apply extends_after
  intro next
  exact extends_ite (.refl _) (ih.items _ _ _)

theorem extends_items (close : Char) (start : Nat) (construct : Construct) :
    (items classes (calls + 1) close start construct).Extends
      (items classes (calls + 2) close start construct) := by
  rw [items, items]
  apply extends_bind ih.expression
  intro item
  apply extends_after
  intro next
  cases next with
  | none => exact .refl _
  | some ch =>
    apply extends_ite
    . apply extends_after
      intro _
      exact extends_bind (ih.items _ _ _) fun _ => .refl _
    . exact .refl _

theorem extends_map : (map classes (calls + 1)).Extends (map classes (calls + 2)) := by
  rw [map, map]
  apply extends_after
  intro start
  apply extends_after
  intro _
  apply extends_after
  intro _
  apply extends_after
  intro next
  dsimp only
  split
  . exact .refl _
  . exact .refl _
  . exact extends_bind (ih.entries _) fun _ => .refl _

theorem extends_entries (start : Nat) :
    (entries classes (calls + 1) start).Extends (entries classes (calls + 2) start) := by
  rw [entries, entries]
  apply extends_bind ih.mapKey
  intro key
  apply extends_after
  intro next
  dsimp only
  split
  . apply extends_after
    intro _
    apply extends_after
    intro next
    cases next with
    | none => exact extends_failAt
    | some ch =>
      apply extends_ite extends_fail
      apply extends_bind ih.expression
      intro value
      apply extends_after
      intro next
      cases next with
      | none => exact .refl _
      | some ch =>
        apply extends_ite
        . apply extends_after
          intro _
          exact extends_bind (ih.entries _) fun _ => .refl _
        . exact .refl _
  . exact extends_fail
  . exact extends_failAt

theorem extends_mapKey : (mapKey classes (calls + 1)).Extends (mapKey classes (calls + 2)) := by
  rw [mapKey, mapKey]
  apply extends_after
  intro next
  split
  . exact .refl _
  . exact ih.postfixed

theorem extends_staticAccess :
    (staticAccess classes (calls + 1)).Extends (staticAccess classes (calls + 2)) := by
  rw [staticAccess, staticAccess]
  apply extends_after
  intro _
  apply extends_after
  intro _
  apply extends_after
  intro start
  apply extends_after
  intro className
  cases classes className with
  | none => exact .refl _
  | some cls =>
    apply extends_after
    intro point
    apply extends_ite (.refl _)
    apply extends_after
    intro _
    apply extends_after
    intro member
    apply extends_after
    intro paren
    apply extends_ite
    . exact extends_bind ih.arguments fun _ => .refl _
    . exact .refl _

theorem extends_steps : (steps classes (calls + 1)).Extends (steps classes (calls + 2)) := by
  rw [steps, steps]
  have hmore (s : Step H) : Extends (do return s :: (← steps classes calls))
      (do return s :: (← steps classes (calls + 1))) :=
    extends_bind ih.steps fun _ => .refl _
  apply extends_after
  intro next
  split
  . apply extends_after
    intro _
    apply extends_after
    intro member
    apply extends_after
    intro paren
    apply extends_ite
    . exact extends_bind ih.arguments fun args => hmore _
    . exact hmore _
  . apply extends_after
    intro start
    apply extends_after
    intro _
    apply extends_after
    intro _
    apply extends_bind ih.expression
    intro key
    apply extends_after
    intro _
    apply extends_after
    intro _
    exact hmore _
  . exact .refl _

end

theorem allExtend (classes : Parser.ClassLookup H) (calls : Nat) : AllExtend classes calls := by
  induction calls with
  | zero =>
    constructor
    all_goals
      intros
      apply extends_exhausted
      simp only [expression, binary, operators, unary, postfixed, primary, group, array, arguments,
        sequence, items, map, entries, mapKey, staticAccess, steps]
  | succ calls ih =>
    exact {
      expression := extends_expression ih
      binary := extends_binary ih
      operators := extends_operators ih
      unary := extends_unary ih
      postfixed := extends_postfixed ih
      primary := extends_primary ih
      group := extends_group ih
      array := extends_array ih
      arguments := extends_arguments ih
      sequence := extends_sequence ih
      items := extends_items ih
      map := extends_map ih
      entries := extends_entries ih
      mapKey := extends_mapKey ih
      staticAccess := extends_staticAccess ih
      steps := extends_steps ih
    }

end Walk

end Stencil
