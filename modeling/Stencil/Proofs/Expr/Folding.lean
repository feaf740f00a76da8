import Stencil.Expr.Folding
import Stencil.Proofs.Expr.Subtree
import Stencil.Proofs.Expr.Substitution
import Stencil.Proofs.Outcome

/-!
This module contains the proof that folding keeps the meaning of an expression: a folded tree gives
in every environment what the plain one gives, and an operator that cannot be folded stands at the
root of a part of the tree which fails in every environment.
-/

namespace Stencil

namespace Expr

variable {H : Type} [HostObject H]

theorem eval_of_constValue (env : Env H) {e : Expr H} {v : Value H}
    (h : e.constValue? = some v) : eval env e = .ok v := by
  fun_induction constValue? e with
  | case1 w => simp_all [eval]
  | case2 inner ih => simp [eval, ih h]
  | case3 => simp at h

@[simp]
theorem eval_foldGroup (env : Env H) (e : Expr H) : eval env (foldGroup e) = eval env e := by
  fun_cases foldGroup e with
  | case1 v => rfl
  | case2 => simp [eval]

-- A constructor that folds stands for the plain node: where it gives a tree, that tree has the
-- value of the node, and where it gives an error, so does the node.

theorem foldUnary_bind_eval (env : Env H) (op : UnaryOp) (e : Expr H) :
    (foldUnary op e >>= eval env) = eval env (unary op e) := by
  unfold foldUnary
  split
  . next v hv =>
    simp only [eval, eval_of_constValue env hv, Outcome.ok_bind]
    cases Value.applyUnary op v with
    | error err => rfl
    | ok w => simp [Except.map, eval]
  . rfl

theorem foldLogical_bind_eval (env : Env H) {op : BinaryOp} (l r : Expr H)
    (hop : op.isLogical = true) :
    (foldLogical op l r >>= eval env) = eval env (binary op l r) := by
  unfold foldLogical
  split
  . rfl
  . next v hv =>
    have heval : eval env (binary op l r) = (do
        let a ← v.truth op.symbol
        if a == op.deciding then return .bool a
        return .bool (← (← eval env r).truth op.symbol)) := by
      simp [eval, hop, eval_of_constValue env hv]
    cases ha : v.truth op.symbol with
    | error err => simp [heval, ha]
    | ok a =>
      simp only [Outcome.ok_bind]
      split
      . simp_all [eval]
      . split
        . rfl
        . next w hw =>
          rw [heval, ha, eval_of_constValue env hw]
          cases hb : w.truth op.symbol with
          | error err => simp_all
          | ok b => simp_all [eval]

theorem foldBinary_bind_eval (env : Env H) (op : BinaryOp) (l r : Expr H) :
    (foldBinary op l r >>= eval env) = eval env (binary op l r) := by
  unfold foldBinary
  split
  . next hop => exact foldLogical_bind_eval env l r hop
  . next hop =>
    split
    . next v w hv hw =>
      simp only [eval, eval_of_constValue env hv, eval_of_constValue env hw, hop]
      cases hres : Value.applyBinary op v w with
      | error err => simp [Except.map, hres]
      | ok u => simp [Except.map, eval, hres]
    . rfl

theorem foldTernary_bind_eval (env : Env H) (c y n : Expr H) :
    (foldTernary c y n >>= eval env) = eval env (ternary c y n) := by
  unfold foldTernary
  split
  . next u v w hu hv hw =>
    simp only [eval, eval_of_constValue env hu, Outcome.ok_bind]
    cases u.truth "?:" with
    | error err => rfl
    | ok b => cases b <;> simp [Except.map]
  . rfl

mutual
theorem eval_fold (env : Env H) : ∀ {t t' : Expr H}, t.fold = .ok t' → eval env t' = eval env t
  | const v, t', h => by
    simp_all [fold]
  | var name, t', h => by
    simp_all [fold]
  | unary op operand, t', h => by
    simp only [fold, Outcome.bind_eq_ok] at h
    obtain ⟨e, he, h⟩ := h
    have hfold := foldUnary_bind_eval env op e
    rw [h, Outcome.ok_bind] at hfold
    rw [hfold]
    simp only [eval, eval_fold env he]
  | binary op left right, t', h => by
    simp only [fold, Outcome.bind_eq_ok] at h
    obtain ⟨l, hl, r, hr, h⟩ := h
    have hfold := foldBinary_bind_eval env op l r
    rw [h, Outcome.ok_bind] at hfold
    rw [hfold]
    simp only [eval, eval_fold env hl, eval_fold env hr]
  | ternary cond yes no, t', h => by
    simp only [fold, Outcome.bind_eq_ok] at h
    obtain ⟨c, hc, y, hy, n, hn, h⟩ := h
    have hfold := foldTernary_bind_eval env c y n
    rw [h, Outcome.ok_bind] at hfold
    rw [hfold]
    simp only [eval, eval_fold env hc, eval_fold env hy, eval_fold env hn]
  | array items, t', h => by
    rw [fold, Outcome.bind_pure_eq_ok] at h
    obtain ⟨es, hes, rfl⟩ := h
    simp only [eval, evalAll_foldAll env hes]
  | map entries, t', h => by
    rw [fold, Outcome.bind_pure_eq_ok] at h
    obtain ⟨es, hes, rfl⟩ := h
    simp only [eval, evalEntries_foldEntries env hes]
  | group inner, t', h => by
    rw [fold, Outcome.bind_pure_eq_ok] at h
    obtain ⟨e, he, rfl⟩ := h
    rw [eval_foldGroup, eval_fold env he, eval]
  | classRef cls, t', h => by
    simp_all [fold]
  | staticField cls name, t', h => by
    simp_all [fold]
  | staticCall cls method args, t', h => by
    rw [fold, Outcome.bind_pure_eq_ok] at h
    obtain ⟨es, hes, rfl⟩ := h
    simp only [eval, evalAll_foldAll env hes]
  | chain base steps, t', h => by
    rw [fold, Outcome.bind_eq_ok] at h
    simp only [Outcome.bind_pure_eq_ok] at h
    obtain ⟨e, he, ss, hss, rfl⟩ := h
    simp only [eval, eval_fold env he, evalSteps_foldSteps env hss]

theorem evalAll_foldAll (env : Env H) :
    ∀ {es es' : List (Expr H)}, foldAll es = .ok es' → evalAll env es' = evalAll env es
  | [], es', h => by
    simp_all [foldAll]
  | e :: rest, es', h => by
    simp only [foldAll, Outcome.bind_eq_ok, Outcome.pure_eq, Except.ok.injEq] at h
    obtain ⟨f, hf, fs, hfs, rfl⟩ := h
    simp only [evalAll, eval_fold env hf, evalAll_foldAll env hfs]

theorem evalEntries_foldEntries (env : Env H) :
    ∀ {es es' : List (Expr H × Expr H)} {m : ValueMap H}, foldEntries es = .ok es' →
      evalEntries env m es' = evalEntries env m es
  | [], es', m, h => by
    simp_all [foldEntries]
  | (k, e) :: rest, es', m, h => by
    simp only [foldEntries, Outcome.bind_eq_ok, Outcome.pure_eq, Except.ok.injEq] at h
    obtain ⟨j, hj, f, hf, fs, hfs, rfl⟩ := h
    simp only [evalEntries, eval_fold env hj, eval_fold env hf, evalEntries_foldEntries env hfs]

theorem evalSteps_foldSteps (env : Env H) :
    ∀ {ss ss' : List (Step H)} {target : Value H}, foldSteps ss = .ok ss' →
      evalSteps env target ss' = evalSteps env target ss
  | [], ss', target, h => by
    simp_all [foldSteps]
  | s :: rest, ss', target, h => by
    simp only [foldSteps, Outcome.bind_eq_ok, Outcome.pure_eq, Except.ok.injEq] at h
    obtain ⟨f, hf, fs, hfs, rfl⟩ := h
    simp only [evalSteps, evalStep_foldStep env hf, evalSteps_foldSteps env hfs]

theorem evalStep_foldStep (env : Env H) :
    ∀ {s s' : Step H} {target : Value H}, foldStep s = .ok s' →
      evalStep env target s' = evalStep env target s
  | .property name, s', target, h => by
    simp_all [foldStep]
  | .method name args, s', target, h => by
    rw [foldStep, Outcome.bind_pure_eq_ok] at h
    obtain ⟨es, hes, rfl⟩ := h
    simp only [evalStep, evalAll_foldAll env hes]
  | .index key, s', target, h => by
    rw [foldStep, Outcome.bind_pure_eq_ok] at h
    obtain ⟨e, he, rfl⟩ := h
    simp only [evalStep, eval_fold env he]
end

/--
A part of the expression fails with the error `err` in every environment.
-/
def FailsWithin (err : EvalError) (e : Expr H) : Prop :=
  ∃ s, Subtree s e ∧ ∀ env, eval env s = .error err

theorem FailsWithin.of_eval {err : EvalError} {e : Expr H}
    (h : ∀ env, eval env e = .error err) : FailsWithin err e :=
  ⟨e, .refl, h⟩

theorem FailsWithin.of_mem_children {err : EvalError} {e t : Expr H} (he : e ∈ t.children)
    (h : FailsWithin err e) : FailsWithin err t := by
  obtain ⟨s, hs, herr⟩ := h
  exact ⟨s, .child he hs, herr⟩

mutual
theorem failsWithin_of_fold {err : EvalError} :
    ∀ {t : Expr H}, t.fold = .error err → FailsWithin err t
  | const v, h => by
    simp [fold] at h
  | var name, h => by
    simp [fold] at h
  | unary op operand, h => by
    simp only [fold, Outcome.bind_eq_error] at h
    cases h with
    | inl h => exact .of_mem_children (by simp [children]) (failsWithin_of_fold h)
    | inr h =>
      -- The operator itself fails on the constant that its operand was folded to.
      obtain ⟨e, he, h⟩ := h
      apply FailsWithin.of_eval
      intro env
      have hfold := foldUnary_bind_eval env op e
      rw [h, Outcome.error_bind] at hfold
      simp only [hfold, eval, ← eval_fold env he]
  | binary op left right, h => by
    simp only [fold, Outcome.bind_eq_error] at h
    rcases h with h | ⟨l, hl, h | ⟨r, hr, h⟩⟩
    . exact .of_mem_children (by simp [children]) (failsWithin_of_fold h)
    . -- An evaluation may skip the right operand, but it is a part that fails all the same.
      exact .of_mem_children (by simp [children]) (failsWithin_of_fold h)
    . apply FailsWithin.of_eval
      intro env
      have hfold := foldBinary_bind_eval env op l r
      rw [h, Outcome.error_bind] at hfold
      simp only [hfold, eval, ← eval_fold env hl, ← eval_fold env hr]
  | ternary cond yes no, h => by
    simp only [fold, Outcome.bind_eq_error] at h
    rcases h with h | ⟨c, hc, h | ⟨y, hy, h | ⟨n, hn, h⟩⟩⟩
    . exact .of_mem_children (by simp [children]) (failsWithin_of_fold h)
    . exact .of_mem_children (by simp [children]) (failsWithin_of_fold h)
    . exact .of_mem_children (by simp [children]) (failsWithin_of_fold h)
    . apply FailsWithin.of_eval
      intro env
      have hfold := foldTernary_bind_eval env c y n
      rw [h, Outcome.error_bind] at hfold
      simp only [hfold, eval, ← eval_fold env hc, ← eval_fold env hy, ← eval_fold env hn]
  | array items, h => by
    rw [fold, Outcome.bind_pure_eq_error] at h
    obtain ⟨e, he, h⟩ := failsWithin_of_foldAll h
    exact .of_mem_children he h
  | map entries, h => by
    rw [fold, Outcome.bind_pure_eq_error] at h
    obtain ⟨e, he, h⟩ := failsWithin_of_foldEntries h
    exact .of_mem_children he h
  | group inner, h => by
    rw [fold, Outcome.bind_pure_eq_error] at h
    exact .of_mem_children (by simp [children]) (failsWithin_of_fold h)
  | classRef cls, h => by
    simp [fold] at h
  | staticField cls name, h => by
    simp [fold] at h
  | staticCall cls method args, h => by
    rw [fold, Outcome.bind_pure_eq_error] at h
    obtain ⟨e, he, h⟩ := failsWithin_of_foldAll h
    exact .of_mem_children he h
  | chain base steps, h => by
    rw [fold, Outcome.bind_eq_error] at h
    simp only [Outcome.bind_pure_eq_error] at h
    rcases h with h | ⟨e, he, h⟩
    . exact .of_mem_children (by simp [children]) (failsWithin_of_fold h)
    . obtain ⟨e, he, h⟩ := failsWithin_of_foldSteps h
      exact .of_mem_children (List.mem_cons_of_mem _ he) h

theorem failsWithin_of_foldAll {err : EvalError} :
    ∀ {es : List (Expr H)}, foldAll es = .error err → ∃ e ∈ es, FailsWithin err e
  | [], h => by
    simp [foldAll] at h
  | e :: rest, h => by
    rw [foldAll, Outcome.bind_eq_error] at h
    simp only [Outcome.bind_pure_eq_error] at h
    rcases h with h | ⟨f, hf, h⟩
    . exact ⟨e, by simp, failsWithin_of_fold h⟩
    . obtain ⟨s, hs, h⟩ := failsWithin_of_foldAll h
      exact ⟨s, by simp [hs], h⟩

theorem failsWithin_of_foldEntries {err : EvalError} :
    ∀ {es : List (Expr H × Expr H)}, foldEntries es = .error err →
      ∃ e ∈ (map es).children, FailsWithin err e
  | [], h => by
    simp [foldEntries] at h
  | (k, e) :: rest, h => by
    rw [foldEntries, Outcome.bind_eq_error] at h
    rcases h with h | ⟨j, hj, h⟩
    . exact ⟨k, by simp [children], failsWithin_of_fold h⟩
    . rw [Outcome.bind_eq_error] at h
      rcases h with h | ⟨f, hf, h⟩
      . exact ⟨e, by simp [children], failsWithin_of_fold h⟩
      . rw [Outcome.bind_pure_eq_error] at h
        obtain ⟨s, hs, h⟩ := failsWithin_of_foldEntries h
        exact ⟨s, by simp_all [children], h⟩

theorem failsWithin_of_foldSteps {err : EvalError} :
    ∀ {ss : List (Step H)}, foldSteps ss = .error err →
      ∃ e ∈ ss.flatMap Step.children, FailsWithin err e
  | [], h => by
    simp [foldSteps] at h
  | s :: rest, h => by
    rw [foldSteps, Outcome.bind_eq_error] at h
    simp only [Outcome.bind_pure_eq_error] at h
    rcases h with h | ⟨f, hf, h⟩
    . obtain ⟨e, he, h⟩ := failsWithin_of_foldStep h
      exact ⟨e, by simp [he], h⟩
    . obtain ⟨e, he, h⟩ := failsWithin_of_foldSteps h
      exact ⟨e, by simp_all, h⟩

theorem failsWithin_of_foldStep {err : EvalError} :
    ∀ {s : Step H}, foldStep s = .error err → ∃ e ∈ s.children, FailsWithin err e
  | .property name, h => by
    simp [foldStep] at h
  | .method name args, h => by
    rw [foldStep, Outcome.bind_pure_eq_error] at h
    exact failsWithin_of_foldAll h
  | .index key, h => by
    rw [foldStep, Outcome.bind_pure_eq_error] at h
    exact ⟨key, by simp [Step.children], failsWithin_of_fold h⟩
end

theorem eval_fold_substitute (t : Expr H) (env : Env H) (bound : String → Option (Value H))
    (hbound : env.Extends bound) :
    (∀ t', (t.substitute bound).fold = .ok t' → eval env t' = eval env t)
      ∧ (∀ err, (t.substitute bound).fold = .error err →
          ∃ s, Subtree s (t.substitute bound) ∧ ∀ env', eval env' s = .error err) := by
  constructor
  . intro t' h
    rw [eval_fold env h, eval_substitute hbound]
  . intro err h
    exact failsWithin_of_fold h

theorem eval_fold_substitute_logical :
    let lookup : String → Option (Value Empty) := fun name =>
      if name == "a" then some (.bool true) else if name == "n" then some (.int 2) else none
    let env : Env Empty := ⟨lookup, ⟨fun _ _ => none, fun _ _ _ => none⟩⟩
    let bound : String → Option (Value Empty) := fun name =>
      if name == "a" then some (.bool true) else none
    let less : Expr Empty := .binary .lt (.var "n") (.const (.int 3))
    let division : Expr Empty := .group (.binary .div (.const (.int 1)) (.const (.int 0)))
    let both : Expr Empty := .binary .and (.var "a") less
    let either : Expr Empty := .binary .or (.var "a") division
    env.Extends bound
      ∧ (both.substitute bound).fold = .ok (.binary .and (.const (.bool true)) less)
      ∧ eval env (.binary .and (.const (.bool true)) less) = eval env both
      ∧ (either.substitute bound).fold = .error .divisionByZero
      ∧ ∃ s, Subtree s (either.substitute bound) ∧ ∀ env', eval env' s = .error .divisionByZero := by
  intro lookup env bound less division both either
  have hbound : env.Extends bound := by
    intro name v hv
    simp only [bound] at hv
    split at hv
    . simp_all [env, lookup]
    . simp at hv
  have hboth : (both.substitute bound).fold = .ok (.binary .and (.const (.bool true)) less) := by
    rfl
  have heither : (either.substitute bound).fold = .error .divisionByZero := by
    rfl
  exact ⟨hbound, hboth, (eval_fold_substitute both env bound hbound).1 _ hboth, heither,
    (eval_fold_substitute either env bound hbound).2 _ heither⟩

end Expr

end Stencil
