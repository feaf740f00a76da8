import Stencil.Expr.Folding
import Stencil.Proofs.Grammar

/-!
This module contains how deeply the constructs of an expression are nested. Brackets, prefixes and
choices take one level each. The binary operators that a chain of them leaves after folding pile up
on its left side: each takes one level, and its right operand lies above the ones before it.
-/

namespace Stencil

theorem exists_succ {k n : Nat} (h : k + 1 ≤ n) : ∃ m, n = m + 1 ∧ k ≤ m :=
  ⟨n - 1, by omega, by omega⟩

variable {H : Type} [HostObject H]

namespace Expr

/--
The binary operators on the left side of an expression that are left after folding.
-/
def levels : Expr H → Nat
  | binary op left right =>
    match (binary op left right).fold with
    | .ok e => if e.isConst then levels left else levels left + 1
    | .error _ => levels left
  | _ => 0

mutual
def nesting : Expr H → Nat
  | const _ => 0
  | var _ => 0
  | unary _ operand => nesting operand + 1
  | binary op left right =>
    max (max (nesting left) (levels left + nesting right)) (levels (binary op left right))
  | ternary cond yes no => max (nesting cond) (max (nesting yes) (nesting no) + 1)
  | array items => nestingAll items + 1
  | map entries => nestingEntries entries + 1
  | group inner => nesting inner + 1
  | classRef _ => 0
  | staticField _ _ => 0
  | staticCall _ _ args => nestingAll args + 1
  | chain base steps => max (nesting base) (nestingSteps steps)

def nestingAll : List (Expr H) → Nat
  | [] => 0
  | e :: rest => max (nesting e) (nestingAll rest)

def nestingEntries : List (Expr H × Expr H) → Nat
  | [] => 0
  | (k, e) :: rest => max (max (nesting k) (nesting e)) (nestingEntries rest)

def nestingSteps : List (Step H) → Nat
  | [] => 0
  | step :: rest => max (nestingStep step) (nestingSteps rest)

def nestingStep : Step H → Nat
  | .property _ => 0
  | .method _ args => nestingAll args + 1
  | .index key => nesting key + 1
end

theorem levels_of_level {e : Expr H} (h : 10 ≤ e.level) : e.levels = 0 := by
  cases e with
  | binary op left right =>
    simp only [level] at h
    cases op <;> simp [BinaryOp.precedence] at h
  | _ => rfl

theorem levels_binary_le (op : BinaryOp) (left right : Expr H) :
    (binary op left right).levels ≤ left.levels + 1 := by
  rw [levels]
  split
  . split <;> omega
  . omega

theorem levels_le_nesting (e : Expr H) : e.levels ≤ e.nesting := by
  cases e with
  | binary op left right =>
    rw [nesting]
    omega
  | _ => exact Nat.zero_le _

end Expr

def Phrase.nesting : Phrase H → Nat
  | expr e => e.nesting
  | items es => Expr.nestingAll es
  | key k => k.nesting
  | entries es => Expr.nestingEntries es
  | steps ss => Expr.nestingSteps ss

variable {Spelled : Value H → Token → Prop} {classes : Parser.ClassLookup H}

theorem Written.levels_lt_length {e : Expr H} {ts : List Token}
    (h : Written Spelled classes (.expr e) ts) : e.levels < ts.length := by
  generalize hphrase : Phrase.expr e = phrase at h
  induction h generalizing e with
  | @binary op left right ts ts' _ _ _ _ ih _ =>
    cases hphrase
    have hleft := ih rfl
    have hlevels := Expr.levels_binary_le op left right
    simp only [List.length_append, List.length_cons]
    omega
  | ternary _ _ _ _ _ _ _ =>
    cases hphrase
    simp only [Expr.levels, List.length_append, List.length_cons]
    omega
  | chain _ _ _ _ ih _ =>
    cases hphrase
    have hbase := ih rfl
    simp only [Expr.levels, List.length_append]
    omega
  | _ => cases hphrase <;> simp [Expr.levels]

theorem Written.nesting_le_length {phrase : Phrase H} {ts : List Token}
    (h : Written Spelled classes phrase ts) : phrase.nesting ≤ ts.length := by
  induction h with
  | @binary op left right ts ts' _ _ hleft _ ih ih' =>
    have hlt := hleft.levels_lt_length
    have hlevels := Expr.levels_binary_le op left right
    simp only [Phrase.nesting, Expr.nesting, List.length_append, List.length_cons] at *
    omega
  | _ =>
    simp only [Phrase.nesting, Expr.nesting, Expr.nestingAll, Expr.nestingEntries,
      Expr.nestingSteps, Expr.nestingStep, List.length_append, List.length_cons,
      List.length_nil] at *
    omega

end Stencil
