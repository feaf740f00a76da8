import Stencil.Expr.Folding
import Stencil.Proofs.Outcome

/-!
This module contains the proof that folding makes no expression a bare class: what stands for a value
still does so when it is folded.
-/

namespace Stencil

open Outcome

variable {H : Type}

namespace Expr

theorem isValuer_of_constValue? {e : Expr H} {v : Value H} (h : e.constValue? = some v) :
    e.isValuer = true := by
  cases e with
  | const v => rfl
  | group inner => exact isValuer_of_constValue? (e := inner) h
  | _ => cases h

theorem isValuer_foldGroup {inner : Expr H} (h : inner.isValuer = true) :
    (foldGroup inner).isValuer = true := by
  unfold foldGroup
  split
  . rfl
  . exact h

variable [HostObject H]

theorem isValuer_of_foldUnary {op : UnaryOp} {operand e : Expr H} (h : foldUnary op operand = .ok e) :
    e.isValuer = true := by
  unfold foldUnary at h
  split at h
  . obtain ⟨v, _, rfl⟩ := map_eq_ok.mp h
    rfl
  . cases h
    rfl

theorem isValuer_of_foldLogical {op : BinaryOp} {left right e : Expr H}
    (h : foldLogical op left right = .ok e) : e.isValuer = true := by
  unfold foldLogical at h
  split at h
  . cases h
    rfl
  . obtain ⟨a, _, h⟩ := bind_eq_ok.mp h
    split at h
    . cases h
      rfl
    . split at h
      . cases h
        rfl
      . obtain ⟨b, rfl⟩ : ∃ b, e = .const (.bool b) := by
          obtain ⟨b, _, h⟩ := bind_eq_ok.mp h
          cases h
          exact ⟨b, rfl⟩
        rfl

theorem isValuer_of_foldBinary {op : BinaryOp} {left right e : Expr H}
    (h : foldBinary op left right = .ok e) : e.isValuer = true := by
  unfold foldBinary at h
  split at h
  . exact isValuer_of_foldLogical h
  . split at h
    . obtain ⟨v, _, rfl⟩ := map_eq_ok.mp h
      rfl
    . cases h
      rfl

theorem isValuer_of_foldTernary {cond yes no e : Expr H} (h : foldTernary cond yes no = .ok e) :
    e.isValuer = true := by
  unfold foldTernary at h
  split at h
  . next hyes hno =>
    obtain ⟨b, _, rfl⟩ := map_eq_ok.mp h
    cases b
    . exact isValuer_of_constValue? hno
    . exact isValuer_of_constValue? hyes
  . cases h
    rfl

theorem isValuer_of_fold {e r : Expr H} (he : e.isValuer = true) (h : e.fold = .ok r) :
    r.isValuer = true := by
  cases e with
  | const v | var name | classRef cls | staticField cls name =>
    cases h
    exact he
  | unary op operand =>
    obtain ⟨operand', _, h⟩ := bind_eq_ok.mp h
    exact isValuer_of_foldUnary h
  | binary op left right =>
    obtain ⟨left', _, h⟩ := bind_eq_ok.mp h
    obtain ⟨right', _, h⟩ := bind_eq_ok.mp h
    exact isValuer_of_foldBinary h
  | ternary cond yes no =>
    obtain ⟨cond', _, h⟩ := bind_eq_ok.mp h
    obtain ⟨yes', _, h⟩ := bind_eq_ok.mp h
    obtain ⟨no', _, h⟩ := bind_eq_ok.mp h
    exact isValuer_of_foldTernary h
  | group inner =>
    obtain ⟨inner', hinner, h⟩ := bind_eq_ok.mp h
    cases h
    exact isValuer_foldGroup (isValuer_of_fold (e := inner) he hinner)
  | array items =>
    obtain ⟨items', _, h⟩ := bind_eq_ok.mp h
    cases h
    rfl
  | map entries =>
    obtain ⟨entries', _, h⟩ := bind_eq_ok.mp h
    cases h
    rfl
  | staticCall cls method args =>
    obtain ⟨args', _, h⟩ := bind_eq_ok.mp h
    cases h
    rfl
  | chain base steps =>
    obtain ⟨base', _, h⟩ := bind_eq_ok.mp h
    obtain ⟨steps', _, h⟩ := bind_eq_ok.mp h
    cases h
    rfl

end Expr

end Stencil
