import Stencil.Expr.Folding
import Stencil.Proofs.Grammar
import Stencil.Proofs.Outcome

/-!
This module contains what the folding constructors give: a constant, or the node that they were asked
for with operands that are not all constant. An expression that is folded binds no less tightly than
before.
-/

namespace Stencil

open Outcome

variable {H : Type}

namespace Expr

theorem level_le (e : Expr H) : e.level ≤ 12 := by
  cases e with
  | binary op _ _ => cases op <;> simp [level, BinaryOp.precedence]
  | _ => simp [level]

theorem foldGroup_eq (inner : Expr H) :
    (∃ v, foldGroup inner = const v) ∨ foldGroup inner = group inner ∧ ∀ v, inner ≠ const v := by
  cases inner with
  | const v => exact .inl ⟨v, rfl⟩
  | _ =>
    right
    refine ⟨rfl, ?_⟩
    rintro v ⟨⟩

variable [HostObject H] {r : Expr H}

theorem foldUnary_eq_ok {op : UnaryOp} {operand : Expr H} (h : foldUnary op operand = .ok r) :
    (∃ v, r = const v) ∨ r = unary op operand ∧ operand.constValue? = none := by
  unfold foldUnary at h
  split at h
  . obtain ⟨v, _, rfl⟩ := map_eq_ok.mp h
    exact .inl ⟨v, rfl⟩
  . next hnone =>
    cases h
    exact .inr ⟨rfl, hnone⟩

def Kept (op : BinaryOp) (left right : Expr H) : Prop :=
  (left.constValue? = none ∨ right.constValue? = none)
    ∧ (op.isLogical = true → ∀ v, left.constValue? = some v → v.truth op.symbol ≠ .ok op.deciding)

theorem foldLogical_eq_ok {op : BinaryOp} {left right : Expr H}
    (h : foldLogical op left right = .ok r) :
    (∃ v, r = const v) ∨ r = binary op left right ∧ Kept op left right := by
  unfold foldLogical at h
  split at h
  . next hnone =>
    cases h
    refine .inr ⟨rfl, .inl hnone, ?_⟩
    intro _ v hv
    rw [hnone] at hv
    cases hv
  . next l hl =>
    obtain ⟨a, ha, h⟩ := bind_eq_ok.mp h
    split at h
    . cases h
      exact .inl ⟨_, rfl⟩
    . next hdeciding =>
      split at h
      . next hnone =>
        cases h
        refine .inr ⟨rfl, .inr hnone, ?_⟩
        intro _ v hv htruth
        rw [hl] at hv
        cases hv
        rw [ha] at htruth
        cases htruth
        exact hdeciding (beq_self_eq_true _)
      . obtain ⟨b, _, h⟩ := bind_pure_eq_ok.mp h
        exact .inl ⟨_, h.symm⟩

theorem foldBinary_eq_ok {op : BinaryOp} {left right : Expr H}
    (h : foldBinary op left right = .ok r) :
    (∃ v, r = const v) ∨ r = binary op left right ∧ Kept op left right := by
  unfold foldBinary at h
  split at h
  . exact foldLogical_eq_ok h
  . next hlogical =>
    split at h
    . obtain ⟨v, _, rfl⟩ := map_eq_ok.mp h
      exact .inl ⟨v, rfl⟩
    . next hnot =>
      cases h
      refine .inr ⟨rfl, ?_, fun h => absurd h hlogical⟩
      cases hl : left.constValue? with
      | none => exact .inl rfl
      | some l =>
        cases hr : right.constValue? with
        | none => exact .inr rfl
        | some r => exact absurd hr (hnot l r hl)

theorem foldBinary_of_constValue? {left : Expr H} (h : left.constValue? = none) (op : BinaryOp)
    (right : Expr H) : foldBinary op left right = .ok (binary op left right) := by
  unfold foldBinary
  split
  . rw [foldLogical, h]
  . split
    . next hl _ =>
      rw [h] at hl
      cases hl
    . rfl

theorem foldTernary_eq_ok {cond yes no : Expr H} (h : foldTernary cond yes no = .ok r) :
    ((r = yes ∨ r = no) ∧ ∃ v, r.constValue? = some v)
      ∨ r = ternary cond yes no
        ∧ (cond.constValue? = none ∨ yes.constValue? = none ∨ no.constValue? = none) := by
  unfold foldTernary at h
  split at h
  . next c y n hc hy hn =>
    obtain ⟨b, _, rfl⟩ := map_eq_ok.mp h
    cases b with
    | false => exact .inl ⟨.inr rfl, n, hn⟩
    | true => exact .inl ⟨.inl rfl, y, hy⟩
  . next hnot =>
    cases h
    refine .inr ⟨rfl, ?_⟩
    cases hc : cond.constValue? with
    | none => exact .inl rfl
    | some c =>
      cases hy : yes.constValue? with
      | none => exact .inr (.inl rfl)
      | some y =>
        cases hn : no.constValue? with
        | none => exact .inr (.inr rfl)
        | some n => exact absurd hn (hnot c y n hc hy)

theorem level_le_of_fold {e : Expr H} (h : e.fold = .ok r) : e.level ≤ r.level := by
  cases e with
  | const | var | classRef | staticField =>
    cases h
    exact Nat.le_refl _
  | unary op operand =>
    obtain ⟨operand', _, h⟩ := bind_eq_ok.mp h
    rcases foldUnary_eq_ok h with ⟨v, rfl⟩ | ⟨rfl, _⟩
    . exact level_le _
    . exact Nat.le_refl _
  | binary op left right =>
    obtain ⟨left', _, h⟩ := bind_eq_ok.mp h
    obtain ⟨right', _, h⟩ := bind_eq_ok.mp h
    rcases foldBinary_eq_ok h with ⟨v, rfl⟩ | ⟨rfl, _⟩
    . exact level_le _
    . exact Nat.le_refl _
  | ternary => exact Nat.zero_le _
  | group inner =>
    obtain ⟨inner', _, h⟩ := bind_pure_eq_ok.mp h
    rcases foldGroup_eq inner' with ⟨v, hv⟩ | ⟨hgroup, _⟩
    . rw [← h, hv]
      exact level_le _
    . rw [← h, hgroup]
      exact Nat.le_refl _
  | array items | map entries | staticCall cls method args =>
    obtain ⟨_, _, rfl⟩ := bind_pure_eq_ok.mp h
    exact Nat.le_refl _
  | chain base steps =>
    obtain ⟨base', _, h⟩ := bind_eq_ok.mp h
    obtain ⟨steps', _, rfl⟩ := bind_pure_eq_ok.mp h
    exact Nat.le_refl _

end Expr

end Stencil
