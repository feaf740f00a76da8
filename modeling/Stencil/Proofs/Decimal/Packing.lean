import Mathlib
import Stencil.Decimal.Binary

/-!
This module contains how the parts of a decimal are packed into its bits and found again there: a
significand of 53 bits, an exponent, and the sign. What they stand for is a rational number.
-/

open Float.Model Float.Model.UnpackedFloat

namespace Stencil

namespace Binary

def value (b : Binary) : ℚ :=
  (if b.negative then -1 else 1) * b.significand * 2 ^ b.exponent

end Binary

namespace Decimal

theorem toNat_packComponents (s : Sign) (e : BitVec 11) (m : BitVec 52) :
    (packComponents Format.binary64 s e m).toNat
      = s.toBitVec.toNat * 2 ^ 63 + e.toNat * 2 ^ 52 + m.toNat := by
  rw [packComponents, BitVec.toNat_append, BitVec.toNat_append, ← Nat.shiftLeft_add_eq_or_of_lt m.isLt,
    ← Nat.shiftLeft_add_eq_or_of_lt e.isLt, Nat.shiftLeft_eq, Nat.shiftLeft_eq]
  ring

theorem pack_finite (s : Sign) {m : Nat} {e : Int} (hpos : 0 < m) (hm : 2 ^ 52 ≤ m ∧ m < 2 ^ 53)
    (he : -1074 ≤ e ∧ e ≤ 971) :
    UnpackedFloat.pack Format.binary64 (.finite s m e hpos)
      = packComponents Format.binary64 s (BitVec.ofNat 11 (e + 1075).toNat) (BitVec.ofNat 52 m) := by
  have hlog : m.log2 = 52 := (Nat.log2_eq_iff hpos.ne').mpr hm
  have hbiased : (e + (Format.binary64.exponentBias : Int)
      + (Format.binary64.mantissaBitsWithoutImplicit : Int)).toNat = (e + 1075).toNat := by
    simp [Format.exponentBias]
    omega
  simp only [UnpackedFloat.pack, hbiased, hlog]
  rw [if_neg (by omega), if_pos (by rfl)]

theorem unpack_pack_finite (s : Sign) {m : Nat} {e : Int} (hpos : 0 < m)
    (hm : 2 ^ 52 ≤ m ∧ m < 2 ^ 53) (he : -1074 ≤ e ∧ e ≤ 971) :
    UnpackedFloat.unpack Format.binary64 (UnpackedFloat.pack Format.binary64 (.finite s m e hpos))
      = .finite s m e hpos := by
  have hexp : (BitVec.ofNat 11 (e + 1075).toNat).toNat = (e + 1075).toNat := by
    rw [BitVec.toNat_ofNat]
    omega
  have hnone : BitVec.ofNat 11 (e + 1075).toNat ≠ -1#11 := by
    intro h
    have h' : (e + 1075).toNat = 2047 := hexp.symm.trans (congrArg BitVec.toNat h)
    omega
  have hzero : BitVec.ofNat 11 (e + 1075).toNat ≠ 0#11 := by
    intro h
    have h' : (e + 1075).toNat = 0 := hexp.symm.trans (congrArg BitVec.toNat h)
    omega
  have hmantissa : (1#1 ++ BitVec.ofNat 52 m).toNat = m := by
    rw [BitVec.toNat_append, ← Nat.shiftLeft_add_eq_or_of_lt (BitVec.isLt _), BitVec.toNat_ofNat]
    simp only [BitVec.toNat_ofNat, Nat.shiftLeft_eq]
    omega
  rw [pack_finite s hpos hm he, UnpackedFloat.unpack]
  simp only [unpackMantissa_packComponents, unpackExponent_packComponents, unpackSign_packComponents,
    if_neg hnone, if_neg hzero, Sign.ofBitVec_toBitVec, hmantissa, hexp]
  congr 1
  simp [Format.exponentBias]
  omega

theorem toNat_pack_finite (s : Sign) {m : Nat} {e : Int} (hpos : 0 < m)
    (hm : 2 ^ 52 ≤ m ∧ m < 2 ^ 53) (he : -1074 ≤ e ∧ e ≤ 971) :
    (UnpackedFloat.pack Format.binary64 (.finite s m e hpos)).toNat
      = s.toBitVec.toNat * 2 ^ 63 + (e + 1075).toNat * 2 ^ 52 + (m - 2 ^ 52) := by
  rw [pack_finite s hpos hm he, toNat_packComponents, BitVec.toNat_ofNat, BitVec.toNat_ofNat]
  omega

def ofUnpacked (x : UnpackedFloat) : Float :=
  .ofModel (Float.Model.pack x)

theorem decode_ofUnpacked (s : Sign) {m : Nat} {e : Int} (hpos : 0 < m)
    (hm : 2 ^ 52 ≤ m ∧ m < 2 ^ 53) (he : -1074 ≤ e ∧ e ≤ 971) :
    Binary.decode (ofUnpacked (.finite s m e hpos)) = .finite ⟨s == .negative, m, e⟩ := by
  have hbits : (ofUnpacked (.finite s m e hpos)).toBits.toNat = _ := toNat_pack_finite s hpos hm he
  unfold Binary.decode
  generalize (ofUnpacked (.finite s m e hpos)).toBits.toNat = bits at hbits ⊢
  have hnegative : decide (bits ≥ Binary.signBit) = (s == .negative) := by
    cases s with
    | negative =>
      have : 2 ^ 63 ≤ bits := by
        rw [hbits]
        change 2 ^ 63 ≤ 1 * 2 ^ 63 + _ + _
        omega
      exact decide_eq_true this
    | positive =>
      have : bits < 2 ^ 63 := by
        rw [hbits]
        change 0 * 2 ^ 63 + _ + _ < 2 ^ 63
        omega
      exact decide_eq_false (Nat.not_le.mpr this)
  have hfield : bits / Binary.hiddenBit % 2048 = (e + 1075).toNat := by
    rw [hbits, Binary.hiddenBit]
    omega
  have hfraction : bits % Binary.hiddenBit = m - 2 ^ 52 := by
    rw [hbits, Binary.hiddenBit]
    omega
  have hspecial : ((e + 1075).toNat == 2047) = false ∧ ((e + 1075).toNat == 0) = false := by
    simp
    omega
  have hsignificand : Binary.hiddenBit + (m - 2 ^ 52) = m := by
    rw [Binary.hiddenBit]
    omega
  have hexponent : ((e + 1075).toNat : Int) - 1075 = e := by omega
  simp only [hnegative, hfield, hfraction, hspecial, hsignificand, hexponent, Bool.false_eq_true,
    if_false]

theorem neg_ofUnpacked (s : Sign) {m : Nat} {e : Int} (hpos : 0 < m)
    (hm : 2 ^ 52 ≤ m ∧ m < 2 ^ 53) (he : -1074 ≤ e ∧ e ≤ 971) :
    -ofUnpacked (.finite s m e hpos) = ofUnpacked (.finite (-s) m e hpos) := by
  change Float.ofModel (Float.Model.pack (UnpackedFloat.unpack Format.binary64
    (UnpackedFloat.pack Format.binary64 (.finite s m e hpos))).neg) = _
  rw [unpack_pack_finite s hpos hm he]
  rfl

theorem decode_zero : Binary.decode 0 = .finite ⟨false, 0, -1074⟩ := by
  rfl

theorem decode_neg_zero : Binary.decode (-0) = .finite ⟨true, 0, -1074⟩ := by
  rfl

theorem value_eq_of_beq {x y : Float} {b b' : Binary} (hx : Binary.decode x = .finite b)
    (hy : Binary.decode y = .finite b') (h : (x == y) = true) : b.value = b'.value := by
  obtain ⟨-, -, rfl | ⟨rfl, rfl⟩ | ⟨rfl, rfl⟩⟩ := Float.beq_iff_ne_nan_and_eq.mp h
  . cases hx.symm.trans hy
    rfl
  -- Both zeros stand for the same number.
  . cases hx.symm.trans decode_zero
    cases hy.symm.trans decode_neg_zero
    simp [Binary.value]
  . cases hx.symm.trans decode_neg_zero
    cases hy.symm.trans decode_zero
    simp [Binary.value]

end Decimal
end Stencil
