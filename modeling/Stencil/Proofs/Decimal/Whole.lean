import Stencil.Proofs.Decimal.Nearest
import Stencil.Proofs.Decimal.Packing

/-!
This module contains the proof that a decimal is rounded down to the greatest integer below it, and
converted to the machine integer nearest to it.
-/

open Float.Model Float.Model.UnpackedFloat

namespace Stencil

namespace Integer

def clamp (k : Int) : Int :=
  max Int64.minValue.toInt (min Int64.maxValue.toInt k)

theorem clamp_toInt (n : Int64) : clamp n.toInt = n.toInt := by
  have hlower := n.minValue_le_toInt
  have hupper := n.toInt_le
  rw [clamp]
  omega

end Integer

namespace Binary

def magnitude (b : Binary) : ℚ :=
  b.significand * 2 ^ b.exponent

theorem value_eq (b : Binary) : b.value = (if b.negative then -1 else 1) * b.magnitude := by
  rw [value, magnitude, mul_assoc]

theorem whole_eq (b : Binary) :
    ∃ k unit : Nat, 0 < unit ∧ b.magnitude = k / unit ∧ b.whole = (k / unit, k % unit != 0) := by
  unfold magnitude whole
  split
  . next hneg =>
    obtain ⟨n, hn⟩ : ∃ n : Nat, b.exponent = -n := ⟨(-b.exponent).toNat, by omega⟩
    refine ⟨b.significand, 2 ^ n, Nat.two_pow_pos n, ?_, ?_⟩
    . rw [hn, zpow_neg, zpow_natCast, ← div_eq_mul_inv]
      push_cast
      rfl
    . rw [hn, neg_neg, Int.toNat_natCast]
      rfl
  . next hnneg =>
    obtain ⟨n, hn⟩ : ∃ n : Nat, b.exponent = n := ⟨b.exponent.toNat, by omega⟩
    refine ⟨b.significand * 2 ^ n, 1, Nat.one_pos, ?_, ?_⟩
    . rw [hn, zpow_natCast]
      push_cast
      rw [div_one]
    . rw [hn, Int.toNat_natCast, Nat.div_one, Nat.mod_one]
      rfl

theorem whole_le (b : Binary) : b.whole.1 ≤ b.magnitude ∧ b.magnitude < b.whole.1 + 1 := by
  obtain ⟨k, unit, hpos, hmagnitude, hwhole⟩ := b.whole_eq
  have hunit : (0 : ℚ) < unit := by exact_mod_cast hpos
  rw [hmagnitude, hwhole]
  constructor
  . rw [le_div_iff₀ hunit]
    exact_mod_cast Nat.div_mul_le_self k unit
  . rw [div_lt_iff₀ hunit, add_mul, one_mul]
    exact_mod_cast Nat.lt_div_mul_add hpos

theorem not_cut_iff (b : Binary) : b.whole.2 = false ↔ b.magnitude = b.whole.1 := by
  obtain ⟨k, unit, hpos, hmagnitude, hwhole⟩ := b.whole_eq
  have hunit : (unit : ℚ) ≠ 0 := by exact_mod_cast hpos.ne'
  have hmod := Nat.div_add_mod' k unit
  rw [hmagnitude, hwhole, div_eq_iff hunit]
  simp only [bne_eq_false_iff_eq]
  constructor
  . intro h
    have : k = k / unit * unit := by omega
    exact_mod_cast this
  . intro h
    have : k = k / unit * unit := by exact_mod_cast h
    omega

theorem floor_value (b : Binary) :
    ⌊b.value⌋ = (if b.negative then -1 else 1)
      * ((if b.whole.2 && b.negative then b.whole.1 + 1 else b.whole.1 : Nat) : Int) := by
  -- Rounding down takes a negative number that is not whole away from zero.
  obtain ⟨hlower, hupper⟩ := b.whole_le
  have hcut := b.not_cut_iff
  rw [Int.floor_eq_iff, value_eq]
  cases b.negative with
  | false =>
    simp only [Bool.and_false, Bool.false_eq_true, if_false, one_mul, Int.cast_natCast]
    exact ⟨hlower, hupper⟩
  | true =>
    simp only [Bool.and_true, if_true, neg_mul, one_mul, Int.cast_neg, Int.cast_natCast]
    cases hwhole : b.whole.2 with
    | false =>
      have heq := hcut.mp hwhole
      simp only [Bool.false_eq_true, if_false]
      constructor <;> linarith
    | true =>
      have hne : b.magnitude ≠ b.whole.1 := fun h => by
        rw [hcut.mpr h] at hwhole
        exact Bool.false_ne_true hwhole
      have hlt := lt_of_le_of_ne hlower hne.symm
      simp only [if_true]
      push_cast
      constructor <;> linarith

end Binary

namespace Decimal

theorem significand_lt {x : Float} {b : Binary} (h : Binary.decode x = .finite b) :
    b.significand < 2 ^ 53 := by
  have hmod : x.toBits.toNat % Binary.hiddenBit < 2 ^ 52 := Nat.mod_lt _ (by decide)
  unfold Binary.decode at h
  dsimp only at h
  split at h
  . split at h <;> cases h
  . split at h
    . cases h
      dsimp only
      omega
    . cases h
      have : Binary.hiddenBit = 2 ^ 52 := rfl
      dsimp only
      omega

theorem ofBits_of_toNat {bits : UInt64} (s : Sign) {m : Nat} {e : Int} (hpos : 0 < m)
    (hm : 2 ^ 52 ≤ m ∧ m < 2 ^ 53) (he : -1074 ≤ e ∧ e ≤ 971)
    (h : bits.toNat = s.toBitVec.toNat * 2 ^ 63 + (e + 1075).toNat * 2 ^ 52 + (m - 2 ^ 52)) :
    Float.ofBits bits = ofUnpacked (.finite s m e hpos) := by
  have hbits : bits.toBitVec = UnpackedFloat.pack Format.binary64 (.finite s m e hpos) :=
    BitVec.eq_of_toNat_eq (h.trans (toNat_pack_finite s hpos hm he).symm)
  change ofUnpacked (UnpackedFloat.unpack Format.binary64 bits.toBitVec) = _
  rw [hbits, unpack_pack_finite s hpos hm he]

theorem shiftLeft_bounds {k : Nat} (hpos : 0 < k) (hk : k < 2 ^ 53) :
    2 ^ 52 ≤ k <<< (52 - k.log2) ∧ k <<< (52 - k.log2) < 2 ^ 53 := by
  have hlog := log2_lt_of_lt (by decide) hk
  have hsplit (n : Nat) : 2 ^ (n + k.log2) * 2 ^ (52 - k.log2) = 2 ^ (n + 52) := by
    rw [← Nat.pow_add]
    congr 1
    omega
  rw [Nat.shiftLeft_eq]
  constructor
  . calc
      2 ^ 52 = 2 ^ (0 + k.log2) * 2 ^ (52 - k.log2) := (hsplit 0).symm
      _ ≤ k * 2 ^ (52 - k.log2) := by
        rw [Nat.zero_add]
        exact Nat.mul_le_mul_right _ (Nat.log2_self_le hpos.ne')
  . calc
      k * 2 ^ (52 - k.log2) < 2 ^ (1 + k.log2) * 2 ^ (52 - k.log2) := by
        rw [Nat.add_comm 1]
        exact Nat.mul_lt_mul_of_pos_right Nat.lt_log2_self (Nat.two_pow_pos _)
      _ = 2 ^ 53 := hsplit 1

theorem value_shiftLeft (negative : Bool) {k : Nat} (hlog : k.log2 < 53) :
    (⟨negative, k <<< (52 - k.log2), k.log2 - 52⟩ : Binary).value
      = (if negative then -1 else 1) * k := by
  have hexp : ((k.log2 : Int) - 52) = -((52 - k.log2 : Nat) : Int) := by omega
  rw [Binary.value, hexp, zpow_neg, zpow_natCast, Nat.shiftLeft_eq]
  push_cast
  field_simp

def signOf (negative : Bool) : Sign :=
  if negative then .negative else .positive

theorem toFloat_of_lt (negative : Bool) {n : Nat} (hpos : 0 < n) (hn : n < 2 ^ 53) :
    ∃ h, (⟨negative, n, 0⟩ : Binary).toFloat
      = ofUnpacked (.finite (signOf negative) (n <<< (52 - n.log2)) (n.log2 - 52) h) := by
  have hlog := log2_lt_of_lt (by decide) hn
  obtain ⟨hlower, hupper⟩ := shiftLeft_bounds hpos hn
  have hroom : ((0 : Int) - Binary.leastExponent).toNat = 1074 := rfl
  have hshift : Min.min (52 - n.log2) 1074 = 52 - n.log2 := by omega
  have hfilled : n * Nat.pow 2 (52 - n.log2) = n <<< (52 - n.log2) := (Nat.shiftLeft_eq _ _).symm
  have hfield : ((0 : Int) - (52 - n.log2 : Nat) + 1075).toNat = n.log2 + 1023 := by omega
  have hexp : ((n.log2 : Int) - 52 + 1075).toNat = n.log2 + 1023 := by omega
  have hsign : (if negative then Binary.signBit else 0)
      = (signOf negative).toBitVec.toNat * 2 ^ 63 := by
    cases negative <;> decide
  have hbit : (signOf negative).toBitVec.toNat < 2 := (signOf negative).toBitVec.isLt
  have hfull : ¬ n <<< (52 - n.log2) < Binary.hiddenBit := Nat.not_lt.mpr hlower
  simp only [Binary.toFloat, hroom, hshift, hfilled, hfield, beq_iff_eq, hpos.ne', hfull, if_false]
  refine ⟨Nat.lt_of_lt_of_le (by decide) hlower, ?_⟩
  refine ofBits_of_toNat (e := n.log2 - 52) (signOf negative) _ ⟨hlower, hupper⟩ (by omega) ?_
  rw [hexp, hsign, show Binary.hiddenBit = 2 ^ 52 from rfl]
  exact UInt64.toNat_ofNat_of_lt' (by
    change _ < 2 ^ 64
    omega)

theorem decode_toFloat (negative : Bool) {n : Nat} (hn : n < 2 ^ 53) :
    ∃ b, Binary.decode (⟨negative, n, 0⟩ : Binary).toFloat = .finite b
      ∧ b.value = (if negative then -1 else 1) * n := by
  obtain rfl | hpos := Nat.eq_zero_or_pos n
  . cases negative with
    | false => exact ⟨_, decode_zero, by simp [Binary.value]⟩
    | true => exact ⟨_, decode_neg_zero, by simp [Binary.value]⟩
  . have hlog := log2_lt_of_lt (by decide) hn
    obtain ⟨h, hfloat⟩ := toFloat_of_lt negative hpos hn
    refine ⟨_, hfloat ▸ decode_ofUnpacked _ h (shiftLeft_bounds hpos hn) (by omega), ?_⟩
    rw [value_shiftLeft _ hlog]
    cases negative <;> rfl

theorem decode_floor {x : Float} {b : Binary} (h : Binary.decode x = .finite b) :
    ∃ b', Binary.decode (floor x) = .finite b' ∧ b'.value = ⌊b.value⌋ := by
  have hlt := significand_lt h
  rw [floor, toWhole, h]
  dsimp only
  split
  . next hnneg =>
    have hcut : b.whole.2 = false := by
      rw [Binary.whole, if_neg (by omega)]
    refine ⟨b, h, ?_⟩
    rw [Binary.floor_value, hcut, Binary.value_eq, b.not_cut_iff.mp hcut]
    cases b.negative <;> simp
  . next hneg =>
    have hhalf : b.whole.1 ≤ b.significand / 2 := by
      obtain ⟨k, hk⟩ : ∃ k : Nat, (-b.exponent).toNat = k + 1 := ⟨(-b.exponent).toNat - 1, by omega⟩
      rw [Binary.whole, if_pos (by omega), hk]
      exact Nat.div_le_div_left (Nat.le_self_pow k.succ_ne_zero 2) (by decide)
    obtain ⟨b', hdecode, hvalue⟩ := decode_toFloat b.negative
      (n := if b.whole.2 && b.negative then b.whole.1 + 1 else b.whole.1) (by split <;> omega)
    refine ⟨b', hdecode, ?_⟩
    rw [hvalue, Binary.floor_value]
    cases b.negative <;> simp

theorem toInt_toInt {x : Float} {b : Binary} (h : Binary.decode x = .finite b) {k : Int}
    (hvalue : b.value = k) : (toInt x).toInt = Integer.clamp k := by
  have hwhole : (if b.negative then -(b.whole.1 : Int) else b.whole.1) = k := by
    obtain ⟨hlower, hupper⟩ := b.whole_le
    rw [Binary.value_eq] at hvalue
    cases hneg : b.negative with
    | false =>
      rw [hneg] at hvalue
      simp only [Bool.false_eq_true, if_false, one_mul] at hvalue ⊢
      rw [hvalue] at hlower hupper
      have hle : (b.whole.1 : Int) ≤ k := by exact_mod_cast hlower
      have hlt : k < b.whole.1 + 1 := by exact_mod_cast hupper
      omega
    | true =>
      rw [hneg] at hvalue
      simp only [if_true, neg_one_mul] at hvalue ⊢
      rw [neg_eq_iff_eq_neg.mp hvalue] at hlower hupper
      have hle : (b.whole.1 : Int) ≤ -k := by exact_mod_cast hlower
      have hlt : -k < b.whole.1 + 1 := by exact_mod_cast hupper
      omega
  have hmin := Int64.toInt_minValue
  have hmax := Int64.toInt_maxValue
  rw [toInt, h, Integer.clamp]
  dsimp only
  rw [hwhole]
  split
  . omega
  . split
    . omega
    . rw [Int64.toInt_ofInt_of_le (by omega) (by omega)]
      omega

end Decimal
end Stencil
