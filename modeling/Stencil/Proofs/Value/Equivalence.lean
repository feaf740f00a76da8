import Stencil.Proofs.Value.Part

/-!
This module contains the laws of both equalities of values side by side. Each of them is symmetric,
structural equality is transitive as well, and it implies the equality of the operator `==`. Nothing
but a decimal that is no number, as deep as it may stand, keeps a value from being equal to itself.
-/

namespace Stencil

namespace Value

variable {H : Type}

theorem not_hasNaN_iff {v : Value H} :
    ¬ v.HasNaN ↔ ∀ x, Part (decimal x) v → x.isNaN = false := by
  have hself (x : Float) : (x == x) = false ↔ x.isNaN = true := by
    simp
  simp only [HasNaN, hself, not_exists, not_and', Bool.not_eq_true]

variable [BEq H] {a b : Value H}

theorem looseEq_of_beq (h : (a == b) = true) : a.looseEq b = true := by
  unfold looseEq
  split
  . cases h
  . cases h
  . exact h

theorem looseEq_comm [PartialEquivBEq H] (a b : Value H) : a.looseEq b = b.looseEq a := by
  unfold looseEq
  split
  . next m y => exact BEq.comm (a := Decimal.ofInt m) (b := y)
  . next x n => exact BEq.comm (a := x) (b := Decimal.ofInt n)
  . next hint hdecimal =>
    split
    . next n x => exact (hdecimal x n rfl rfl).elim
    . next x n => exact (hint n x rfl rfl).elim
    . exact BEq.comm

/--
If the identity of host objects is an equivalence, then structural equality is one among the values in
which every decimal is a number.
-/
theorem equality_laws [EquivBEq H] (a b c : Value H) :
    ((a == b) = true → (b == a) = true)
      ∧ ((a == b) = true → (b == c) = true → (a == c) = true)
      ∧ ((a == a) = true ↔ ∀ x, Part (decimal x) a → x.isNaN = false)
      ∧ (a.looseEq b = true ↔ b.looseEq a = true)
      ∧ ((a == b) = true → a.looseEq b = true) := by
  refine ⟨BEq.symm, BEq.trans, ?_, ?_, looseEq_of_beq⟩
  . exact (beq_self a).trans not_hasNaN_iff
  . rw [looseEq_comm]

theorem equality_laws_keys :
    let a : Value Nat := .list [.map [(.decimal 0.0, .object 7)], .int 1]
    let b : Value Nat := .list [.map [(.decimal (-0.0), .object 7)], .int 1]
    let c : Value Nat := .map [(.list [.decimal (0.0 / 0.0)], .object 7)]
    (a == b) = true ∧ (b == a) = true ∧ (a == a) = true ∧ a.looseEq b = true
      ∧ ¬ (c == c) = true := by
  intro a b c
  have hab : (a == b) = true := by decide
  obtain ⟨hsymm, htrans, -, -, hloose⟩ := equality_laws a b a
  obtain ⟨-, -, hself, -, -⟩ := equality_laws c c c
  have hpart : Part (.decimal (0.0 / 0.0)) c :=
    .child List.mem_cons_self (.child List.mem_cons_self .refl)
  refine ⟨hab, hsymm hab, htrans hab (hsymm hab), hloose hab, fun h => ?_⟩
  have hnan : (0.0 / 0.0 : Float).isNaN = false := hself.mp h _ hpart
  revert hnan
  decide

end Value

end Stencil
