import Stencil.Proofs.Decimal.Rounding
import Stencil.Proofs.Value.Equality

/-!
This module contains the laws of the equality that expressions test. An integer and a decimal are
compared as decimals, so that two different integers may be equal to the same decimal; this is the
only way in which equal numbers are not all equal to each other.
-/

namespace Stencil

namespace Value

variable {H : Type} [BEq H]

inductive IsNumber : Value H → Prop where
  | int (n : Int64) : IsNumber (.int n)
  | decimal {x : Float} : x.isNaN = false → IsNumber (.decimal x)

/--
Two different integers with a decimal between them. One of the integers is too large to be a decimal.
-/
inductive Blurs : Value H → Value H → Value H → Prop where
  | intro {m n : Int64} {x : Float} : m ≠ n →
      2 ^ 53 < m.toInt.natAbs ∨ 2 ^ 53 < n.toInt.natAbs → Blurs (.int m) (.decimal x) (.int n)

variable {a b c : Value H}

theorem IsNumber.looseEq_self (h : IsNumber a) : a.looseEq a = true := by
  cases h with
  | int n => exact beq_self_eq_true n
  | @decimal x hx =>
    have hself : (x == x) = true := by
      simpa using hx
    exact hself

theorem IsNumber.looseEq_comm (ha : IsNumber a) (hb : IsNumber b) :
    a.looseEq b = b.looseEq a := by
  cases ha with
  | int m =>
    cases hb with
    | int n => exact BEq.comm (a := m) (b := n)
    | @decimal y _ => exact BEq.comm (a := Decimal.ofInt m) (b := y)
  | @decimal x _ =>
    cases hb with
    | int n => exact BEq.comm (a := x) (b := Decimal.ofInt n)
    | @decimal y _ => exact BEq.comm (a := x) (b := y)

theorem Blurs.looseEq_eq_false (h : Blurs a b c) : a.looseEq c = false := by
  cases h with
  | @intro m n x hne _ => exact (beq_eq_false_iff_ne (a := m) (b := n)).mpr hne

theorem IsNumber.looseEq_trans (ha : IsNumber a) (hb : IsNumber b) (hc : IsNumber c)
    (hab : a.looseEq b = true) (hbc : b.looseEq c = true) : a.looseEq c = true ∨ Blurs a b c := by
  cases ha with
  | int m =>
    cases hb with
    | int n =>
      obtain rfl : m = n := eq_of_beq (a := m) (b := n) hab
      exact .inl hbc
    | @decimal x hx =>
      cases hc with
      | int n =>
        have hmn : (Decimal.ofInt m == Decimal.ofInt n) = true :=
          BEq.trans (a := Decimal.ofInt m) (b := x) (c := Decimal.ofInt n) hab hbc
        by_cases hne : m = n
        . subst hne
          exact .inl (beq_self_eq_true m)
        . right
          apply Blurs.intro hne
          -- Integers that are decimals are not the same decimal.
          by_contra hclose
          rw [not_or, Nat.not_lt, Nat.not_lt] at hclose
          exact hne (Decimal.eq_of_ofInt_beq hclose.1 hclose.2 hmn)
      | @decimal y _ => exact .inl (BEq.trans (a := Decimal.ofInt m) (b := x) (c := y) hab hbc)
  | @decimal x hx =>
    left
    cases hb with
    | int m =>
      cases hc with
      | int n =>
        obtain rfl : m = n := eq_of_beq (a := m) (b := n) hbc
        exact hab
      | @decimal y _ => exact BEq.trans (a := x) (b := Decimal.ofInt m) (c := y) hab hbc
    | @decimal y _ =>
      cases hc with
      | int n => exact BEq.trans (a := x) (b := y) (c := Decimal.ofInt n) hab hbc
      | @decimal z _ => exact BEq.trans (a := x) (b := y) (c := z) hab hbc

/--
Among numbers, equality is reflexive and symmetric, and it is transitive but for two different
integers with a decimal between them.
-/
theorem looseEq_numbers (ha : IsNumber a) (hb : IsNumber b) (hc : IsNumber c) :
    a.looseEq a = true ∧ a.looseEq b = b.looseEq a
      ∧ (a.looseEq b = true → b.looseEq c = true → (a.looseEq c = true ↔ ¬ Blurs a b c)) := by
  refine ⟨ha.looseEq_self, ha.looseEq_comm hb, fun hab hbc => ⟨fun hac hblurs => ?_, fun hclear => ?_⟩⟩
  . rw [hblurs.looseEq_eq_false] at hac
    cases hac
  . exact (ha.looseEq_trans hb hc hab hbc).resolve_right hclear

theorem looseEq_numbers_widths :
    let a : Value Empty := .int 9007199254740992
    let b : Value Empty := .decimal 9007199254740992.0
    IsNumber a ∧ IsNumber b ∧ a.looseEq b = true ∧ b.looseEq a = true
      ∧ (a.looseEq a = true ↔ ¬ Blurs a b a) := by
  intro a b
  have ha : IsNumber a := .int _
  have hb : IsNumber b := .decimal (by decide)
  have hab : a.looseEq b = true := by decide
  obtain ⟨-, hcomm, htrans⟩ := looseEq_numbers ha hb ha
  rw [hab] at hcomm
  exact ⟨ha, hb, hab, hcomm.symm, htrans hab hcomm.symm⟩

/--
Up to `2 ^ 53` all integers are decimals. The next one is equal to the decimal before it, and so is
the integer before it.
-/
theorem looseEq_not_trans :
    let a : Value Empty := .int 9007199254740992
    let b : Value Empty := .decimal 9007199254740992.0
    let c : Value Empty := .int 9007199254740993
    a.looseEq b = true ∧ b.looseEq c = true ∧ a.looseEq c = false := by
  decide

end Value

end Stencil
