import Stencil.Proofs.Arithmetic
import Stencil.Proofs.Decimal.Rounding
import Stencil.Proofs.Decimal.Whole
import Stencil.Proofs.MethodCall

/-!
This module contains what the methods for numbers make of integers. Most of them stay with integers;
`round` takes every number for a decimal, adds a half and rounds down, and it changes an integer if a
decimal has no room for one of its bits, or for the half.
-/

namespace Stencil

namespace Decimal

theorem decode_floor_add_half {x : Float} {k : Int} (hx : IsNormal x k) (hk : k.natAbs ≤ 2 ^ 64) :
    ∃ b, Binary.decode (floor (x + 0.5)) = .finite b
      ∧ b.value = (if k.natAbs < 2 ^ 52 then k else k + k % 2 : Int) := by
  obtain ⟨b, hdecode, hvalue⟩ := (hx.add isNormal_half (fits_add_half hk)).decode
  obtain ⟨b', hdecode', hvalue'⟩ := decode_floor hdecode
  rw [hvalue, floor_nearest_add_half hx.nearest_eq] at hvalue'
  exact ⟨b', hdecode', hvalue'⟩

end Decimal

namespace Classes

theorem round_zero : round (Decimal.ofInt 0) = 0 := by
  decide +kernel

theorem round_maxValue : round (Decimal.ofInt Int64.maxValue) = Int64.maxValue := by
  rfl

theorem round_ofInt (n : Int64) :
    ∃ k : Int, Decimal.nearest n.toInt = k ∧ (2 : Int) ^ (n.toInt.natAbs.log2 - 52) ∣ k
      ∧ (round (Decimal.ofInt n)).toInt
        = Integer.clamp (if k.natAbs < 2 ^ 52 then k else k + k % 2) := by
  by_cases hne : n = 0
  . subst hne
    refine ⟨0, Decimal.nearest_intCast_of_le (by decide), dvd_zero _, ?_⟩
    rw [round_zero]
    decide
  . obtain ⟨k, hk, hdvd⟩ := Decimal.exists_nearest_intCast n.toInt
    have hnormal := Decimal.isNormal_ofInt hne
    have hbound : k.natAbs ≤ 2 ^ 64 := by
      have hzero : n.toInt ≠ 0 := fun h => hne (Int64.toInt_inj.mp h)
      have hlower := n.le_toInt
      have hupper := n.toInt_lt
      have hlog : n.toInt.natAbs.log2 < 64 := Decimal.log2_lt_of_lt (by decide) (by omega)
      exact (Decimal.natAbs_le_of_nearest hzero hk).trans (Nat.pow_le_pow_right (by decide) hlog)
    rw [hk] at hnormal
    obtain ⟨b, hdecode, hvalue⟩ := Decimal.decode_floor_add_half hnormal hbound
    exact ⟨k, hk, hdvd, Decimal.toInt_toInt hdecode hvalue⟩

theorem round_ofInt_of_lt {n : Int64} (h : n.toInt.natAbs < 2 ^ 52) :
    round (Decimal.ofInt n) = n := by
  obtain ⟨k, hk, -, hround⟩ := round_ofInt n
  have hself : k = n.toInt := by
    rw [Decimal.nearest_intCast_of_le (by omega)] at hk
    exact_mod_cast hk.symm
  rw [← Int64.toInt_inj, hround, hself, if_pos h, Integer.clamp_toInt]

theorem round_ofInt_of_le {n : Int64} (h : 2 ^ 52 ≤ n.toInt.natAbs) :
    ∃ k : Int, 2 ∣ k ∧ (2 : Int) ^ (n.toInt.natAbs.log2 - 52) ∣ k
      ∧ (round (Decimal.ofInt n)).toInt = Integer.clamp k
      ∧ (2 ∣ n.toInt → (2 : Int) ^ (n.toInt.natAbs.log2 - 52) ∣ n.toInt → k = n.toInt) := by
  -- An integer that leaves no room for a half becomes an even one. All decimals beyond `2 ^ 53` are
  -- even anyway, and the half changes nothing.
  obtain ⟨k, hk, hdvd, hround⟩ := round_ofInt n
  have hself : (2 : Int) ^ (n.toInt.natAbs.log2 - 52) ∣ n.toInt → k = n.toInt := fun h => by
    rw [(Decimal.nearest_intCast_iff _).mpr h] at hk
    exact_mod_cast hk.symm
  have hlog : 52 ≤ n.toInt.natAbs.log2 := (Nat.le_log2 (by omega)).mpr h
  obtain hlast | hmore := Nat.eq_or_lt_of_le hlog
  . rw [← hlast, Nat.sub_self, pow_zero] at hself ⊢
    have hself := hself (one_dvd _)
    rw [hself, if_neg (by omega)] at hround
    exact ⟨n.toInt + n.toInt % 2, by omega, one_dvd _, hround, fun _ _ => by omega⟩
  . have heven : 2 ∣ k := (dvd_pow_self 2 (by omega)).trans hdvd
    have hhalf : (if k.natAbs < 2 ^ 52 then k else k + k % 2) = k := by
      split <;> omega
    rw [hhalf] at hround
    exact ⟨k, heven, hdvd, hround, fun _ => hself⟩

theorem round_ofInt_eq_iff (n : Int64) :
    round (Decimal.ofInt n) = n ↔ n.toInt.natAbs < 2 ^ 52 ∨ n = Int64.maxValue
      ∨ 2 ∣ n.toInt ∧ (2 : Int) ^ (n.toInt.natAbs.log2 - 52) ∣ n.toInt := by
  by_cases hsmall : n.toInt.natAbs < 2 ^ 52
  . exact iff_of_true (round_ofInt_of_lt hsmall) (.inl hsmall)
  . obtain ⟨k, heven, hdvd, hround, hself⟩ := round_ofInt_of_le (Nat.not_lt.mp hsmall)
    have hmin := Int64.toInt_minValue
    have hmax := Int64.toInt_maxValue
    constructor
    . intro heq
      rw [heq, Integer.clamp] at hround
      by_cases hlast : n = Int64.maxValue
      . exact .inr (.inl hlast)
      . have hne : n.toInt ≠ Int64.maxValue.toInt := fun h => hlast (Int64.toInt_inj.mp h)
        -- The least integer is a decimal, so that it is not the end of the range that keeps it.
        have hleast : n.toInt = -2 ^ 63 → k = n.toInt := fun h =>
          hself (h ▸ by decide) (h ▸ by decide +kernel)
        have hk : k = n.toInt := by omega
        rw [hk] at heven hdvd
        exact .inr (.inr ⟨heven, hdvd⟩)
    . rintro (hlt | rfl | ⟨heven', hdvd'⟩)
      . exact absurd hlt hsmall
      . exact round_maxValue
      . rw [← Int64.toInt_inj, hround, hself heven' hdvd', Integer.clamp_toInt]

end Classes

namespace Integer

theorem toInt_larger (a b : Int64) : (if a < b then b else a).toInt = max a.toInt b.toInt := by
  simp only [Int64.lt_iff_toInt_lt]
  split <;> omega

theorem toInt_smaller (a b : Int64) : (if b < a then b else a).toInt = min a.toInt b.toInt := by
  simp only [Int64.lt_iff_toInt_lt]
  split <;> omega

theorem wraps_abs (n : Int64) : Wraps |n.toInt| (Members.absInt n) := by
  rw [Members.absInt]
  split
  . next hneg =>
    rw [abs_of_neg (Int64.lt_iff_toInt_lt.mp hneg)]
    exact wraps_neg n
  . next hnneg =>
    rw [abs_of_nonneg (Int64.le_iff_toInt_le.mp (Int64.not_lt.mp hnneg))]
    exact Int.ModEq.refl _

end Integer

namespace Value

/--
What the methods for numbers make of the integers `a` and `b`. The integer that `round` gives is made
from the decimal nearest to `a`.
-/
structure NumberMethods (H : Type) [HostObject H] (now a b : Int64) : Prop where
  intValue : call (.int a : Value H) "intValue" [] = .ok (.int a)
  longValue : call (.int a : Value H) "longValue" [] = .ok (.int a)
  valueOf : Classes.call now "Integer" "valueOf" [(.int a : Value H)] = .ok (.int a)
  max : Yields (H := H) (Classes.call now "Math" "max" [.int a, .int b]) fun n =>
    n.toInt = Max.max a.toInt b.toInt
  min : Yields (H := H) (Classes.call now "Math" "min" [.int a, .int b]) fun n =>
    n.toInt = Min.min a.toInt b.toInt
  abs : Yields (H := H) (Classes.call now "Math" "abs" [.int a]) fun n =>
    call (.int a : Value H) "abs" [] = .ok (.int n) ∧ Integer.Wraps |a.toInt| n
  round : Yields (H := H) (Classes.call now "Math" "round" [.int a]) fun n =>
    (n = a ↔ a.toInt.natAbs < 2 ^ 52 ∨ a = Int64.maxValue
      ∨ 2 ∣ a.toInt ∧ (2 : Int) ^ (a.toInt.natAbs.log2 - 52) ∣ a.toInt)
    ∧ ∃ k : Int, Decimal.nearest a.toInt = k
      ∧ n.toInt = Integer.clamp (if k.natAbs < 2 ^ 52 then k else k + k % 2)

/--
All methods for numbers keep integers exact but `round`, which keeps those below `2 ^ 52`, the greatest
one, and the even ones that are decimals.
-/
theorem integers_kept {H : Type} [HostObject H] (now a b : Int64) : NumberMethods H now a b where
  intValue := rfl
  longValue := rfl
  valueOf := rfl
  max := ⟨if a < b then b else a, rfl, Integer.toInt_larger a b⟩
  min := ⟨if b < a then b else a, rfl, Integer.toInt_smaller a b⟩
  abs := ⟨Members.absInt a, rfl, rfl, Integer.wraps_abs a⟩
  round := by
    obtain ⟨k, hk, -, hround⟩ := Classes.round_ofInt a
    exact ⟨Classes.round (Decimal.ofInt a), rfl, Classes.round_ofInt_eq_iff a, k, hk, hround⟩

theorem round_moves_integer :
    Classes.call 0 "Math" "round" [(.int 4503599627370497 : Value Empty)]
      = .ok (.int 4503599627370498) := by
  rfl

end Value

end Stencil
