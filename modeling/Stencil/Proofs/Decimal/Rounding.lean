import Stencil.Proofs.Decimal.Nearest
import Stencil.Proofs.Decimal.Packing

/-!
This module contains the proof that decimals are rounded correctly: a decimal that is made of an
integer, or of the sum of two decimals, is the one nearest to the exact number. Bits of a number
that do not fit the significand are dropped one after the other; what is kept of them tells on which
side of the middle between two decimals the number lies.
-/

open Float.Model Float.Model.UnpackedFloat

namespace Stencil

namespace Decimal

-- Dropping bits

/--
The significand together with the two bits for what is dropped is the number `x`, as far as rounding
it goes.
-/
structure Represents (em : ExtendedMantissa) (x : ℚ) : Prop where
  lower : em.mantissa ≤ x
  upper : x < em.mantissa + 1
  roundBit : em.roundBit = true ↔ em.mantissa + 1 / 2 ≤ x
  stickyBit : em.stickyBit = true ↔ x ≠ em.mantissa ∧ x ≠ em.mantissa + 1 / 2

theorem Represents.shiftRightOne {em : ExtendedMantissa} {x : ℚ} (h : Represents em x) :
    Represents em.shiftRightOne (x / 2) := by
  obtain ⟨hlower, hupper, hround, hsticky⟩ := h
  have hrest : (em.roundBit || em.stickyBit) = true ↔ x ≠ em.mantissa := by
    rw [Bool.or_eq_true, hround, hsticky]
    constructor
    . rintro (h | h)
      . intro heq
        linarith
      . exact h.1
    . intro hne
      by_cases hhalf : x = em.mantissa + 1 / 2
      . exact .inl hhalf.ge
      . exact .inr ⟨hne, hhalf⟩
  have hmod : (em.mantissa : ℚ) = 2 * (em.mantissa / 2 : Nat) + (em.mantissa % 2 : Nat) := by
    exact_mod_cast (Nat.div_add_mod _ _).symm
  have hparity : em.mantissa % 2 = 0 ∨ em.mantissa % 2 = 1 := by omega
  unfold ExtendedMantissa.shiftRightOne
  generalize em.mantissa / 2 = half at hmod ⊢
  rcases hparity with hp | hp
  . rw [hp, Nat.cast_zero, add_zero] at hmod
    rw [hmod] at hlower hupper hrest
    refine ⟨by linarith, by linarith, ?_, ?_⟩
    . simp only [hp, bne_self_eq_false, Bool.false_eq_true, false_iff, not_le]
      linarith
    . rw [hrest]
      constructor
      . intro hne
        exact ⟨fun h => hne (by linarith), fun h => by linarith⟩
      . rintro ⟨hne, -⟩ h
        exact hne (by linarith)
  . rw [hp, Nat.cast_one] at hmod
    rw [hmod] at hlower hupper hrest
    refine ⟨by linarith, by linarith, ?_, ?_⟩
    . simp only [hp]
      simp
      linarith
    . rw [hrest]
      constructor
      . intro hne
        exact ⟨fun h => by linarith, fun h => hne (by linarith)⟩
      . rintro ⟨-, hne⟩ h
        exact hne (by linarith)

theorem represents_shiftRight (m k : Nat) :
    Represents ((⟨m, false, false⟩ : ExtendedMantissa) >>> k) (m / 2 ^ k) := by
  change Represents (k.repeat ExtendedMantissa.shiftRightOne ⟨m, false, false⟩) _
  induction k with
  | zero =>
    rw [pow_zero, div_one]
    exact ⟨le_refl _, lt_add_one _, by simp [Nat.repeat], by simp [Nat.repeat]⟩
  | succ k ih =>
    rw [pow_succ, ← div_div]
    exact ih.shiftRightOne

theorem Represents.roundedMantissa {em : ExtendedMantissa} {x : ℚ} (h : Represents em x) :
    (em.roundedMantissa : ℤ) = nearestEven x := by
  obtain ⟨m, roundBit, stickyBit⟩ := em
  obtain ⟨hlower, hupper, hround, hsticky⟩ := h
  dsimp only at hlower hupper hround hsticky
  have hfloor : ⌊x⌋ = m := Int.floor_eq_iff.mpr ⟨hlower, hupper⟩
  have hfract : Int.fract x = x - m := by
    rw [Int.fract, hfloor, Int.cast_natCast]
  rw [nearestEven, hfract, hfloor]
  cases roundBit with
  | false =>
    have hlt : x - m < 1 / 2 := by
      have := hround.not.mp Bool.false_ne_true
      linarith
    rw [if_pos hlt]
    cases stickyBit <;> rfl
  | true =>
    have hge := hround.mp rfl
    rw [if_neg (by linarith)]
    cases stickyBit with
    | false =>
      have hhalf : x - m = 1 / 2 := by
        by_contra hne
        exact Bool.false_ne_true (hsticky.mpr ⟨fun h => by linarith, fun h => hne (by linarith)⟩)
      rw [if_pos hhalf]
      exact_mod_cast rfl
    | true =>
      have hne := (hsticky.mp rfl).2
      rw [if_neg fun h => hne (by linarith)]
      exact_mod_cast rfl

-- Rounding

inductive IsNormal : Float → ℚ → Prop where
  | intro (s : Sign) {m : Nat} {e : Int} (hpos : 0 < m) (hm : 2 ^ 52 ≤ m ∧ m < 2 ^ 53)
      (he : -1074 ≤ e ∧ e ≤ 971) :
      IsNormal (ofUnpacked (.finite s m e hpos)) (s.apply m * 2 ^ e)

theorem nearest_apply (s : Sign) (m : Nat) (e : Int) :
    nearest (s.apply m * 2 ^ e) = s.apply 1 * nearest (m * 2 ^ e) := by
  cases s with
  | positive => simp [Sign.apply]
  | negative => simp [Sign.apply, nearest_neg]

theorem nearest_of_log2 {m k : Nat} (hlog : m.log2 = 52 + k) (e : Int) :
    nearest (m * 2 ^ e) = nearestEven (m / 2 ^ k) * 2 ^ (e + k) := by
  have hpos : 0 < m := Nat.pos_of_ne_zero fun h => by
    rw [h, Nat.log2_zero] at hlog
    omega
  have hq : (0 : ℚ) < m * 2 ^ e := mul_pos (by exact_mod_cast hpos) (zpow_pos (by norm_num) e)
  have hunit : unit (m * 2 ^ e) = 2 ^ (e + k) := by
    rw [unit, abs_of_pos hq, log_mul_two_zpow hpos, hlog]
    congr 1
    push_cast
    ring
  have hdiv : (m : ℚ) * 2 ^ e / 2 ^ (e + k) = m / 2 ^ k := by
    rw [zpow_add₀ (by norm_num), zpow_natCast]
    field_simp
  rw [nearest, hunit, hdiv]

theorem shiftToTargetExponent_of_lt {m : Nat} {e : Int} (hm : m < 2 ^ 53) (he : -1074 ≤ e) :
    shiftToTargetExponent Format.binary64 m e .exact = (⟨m, false, false⟩, e) := by
  have hlog := log2_lt_of_lt (by decide) hm
  have htarget : Format.binary64.targetExponent (totalExponent m e) ≤ e := by
    simp [Format.targetExponent, totalExponent, Format.mantissaBits, Format.minExponent]
    omega
  have hzero : (Format.binary64.targetExponent (totalExponent m e) - e).toNat = 0 := by omega
  simp only [shiftToTargetExponent, shiftToExponent, hzero]
  simp [HShiftRight.hShiftRight, Nat.repeat, ExtendedMantissa.ofMantissaAndAccuracy]

theorem shiftToTargetExponent_of_log2 {m k : Nat} (hlog : m.log2 = 52 + k) {e : Int}
    (he : -1074 ≤ e + k) :
    shiftToTargetExponent Format.binary64 m e .exact
      = ((⟨m, false, false⟩ : ExtendedMantissa) >>> k, e + k) := by
  have htarget : Format.binary64.targetExponent (totalExponent m e) = e + k := by
    simp [Format.targetExponent, totalExponent, Format.mantissaBits, Format.minExponent]
    omega
  have hshift : (e + k - e).toNat = k := by omega
  simp only [shiftToTargetExponent, shiftToExponent, htarget, hshift]
  rfl

theorem roundedMantissa_bounds {m k : Nat} (hlog : m.log2 = 52 + k) :
    2 ^ 52 ≤ nearestEven (m / 2 ^ k) ∧ nearestEven (m / 2 ^ k) ≤ 2 ^ 53 := by
  have hpow : (0 : ℚ) < 2 ^ k := by positivity
  have hm : m ≠ 0 := fun h => by
    rw [h, Nat.log2_zero] at hlog
    omega
  have hlower : 2 ^ (52 + k) ≤ m := hlog ▸ Nat.log2_self_le hm
  have hupper : m < 2 ^ (53 + k) := by
    have : m < 2 ^ (m.log2 + 1) := Nat.lt_log2_self
    rwa [hlog, show 52 + k + 1 = 53 + k by omega] at this
  constructor
  . refine le_nearestEven ?_
    rw [le_div_iff₀ hpow]
    rw [Nat.pow_add] at hlower
    exact_mod_cast hlower
  . refine nearestEven_le ?_
    rw [div_le_iff₀ hpow]
    rw [Nat.pow_add] at hupper
    exact_mod_cast hupper.le

theorem isNormal_roundWithAccuracy (s : Sign) {m k : Nat} (hlog : m.log2 = 52 + k) {e : Int}
    (he : -1074 ≤ e + k ∧ e + k ≤ 970) :
    IsNormal (ofUnpacked (roundWithAccuracy Format.binary64 s m e .exact))
      (nearest (s.apply m * 2 ^ e)) := by
  -- What does not fit a significand is rounded away once; if the significand overflows by that, it
  -- is a power of two.
  have hrounded := (represents_shiftRight m k).roundedMantissa
  obtain ⟨hlower, hupper⟩ := roundedMantissa_bounds hlog
  have hnearest := nearest_of_log2 hlog e
  rw [← hrounded] at hlower hupper hnearest
  rw [nearest_apply, hnearest, roundWithAccuracy, shiftToTargetExponent_of_log2 hlog he.1]
  dsimp only
  generalize ((⟨m, false, false⟩ : ExtendedMantissa) >>> k).roundedMantissa = r at hlower hupper ⊢
  have hlower : 2 ^ 52 ≤ r := by exact_mod_cast hlower
  obtain hlt | rfl : r < 2 ^ 53 ∨ r = 2 ^ 53 := by
    have : r ≤ 2 ^ 53 := by exact_mod_cast hupper
    omega
  . have hpos : 0 < r := by omega
    rw [shiftToTargetExponent_of_lt hlt he.1]
    simp only [hpos.ne', dite_false]
    have hvalue : (s.apply 1 : ℚ) * ((r : ℤ) * 2 ^ (e + k)) = s.apply r * 2 ^ (e + k) := by
      cases s <;> simp [Sign.apply]
    rw [hvalue]
    exact .intro s hpos ⟨hlower, hlt⟩ (by omega)
  . have hshift : shiftToTargetExponent Format.binary64 (2 ^ 53) (e + k) .exact
        = (⟨2 ^ 52, false, false⟩, e + k + 1) :=
      shiftToTargetExponent_of_log2 (k := 1) Nat.log2_two_pow (by omega)
    rw [hshift]
    have hvalue : (s.apply 1 : ℚ) * (((2 ^ 53 : Nat) : ℤ) * 2 ^ (e + k))
        = s.apply (2 ^ 52 : Nat) * 2 ^ (e + k + 1) := by
      rw [zpow_add₀ (by norm_num) (e + k)]
      cases s <;> norm_num [Sign.apply] <;> ring
    rw [hvalue]
    exact .intro (m := 2 ^ 52) s (by decide) (by decide) (by omega)

theorem abs_apply (s : Sign) (m : Nat) (e : Int) : |(s.apply m : ℚ) * 2 ^ e| = m * 2 ^ e := by
  rw [abs_mul, abs_of_pos (zpow_pos (by norm_num : (0 : ℚ) < 2) e)]
  cases s <;> simp [Sign.apply]

theorem value_decreaseExponent (s : Sign) (m k : Nat) (e : Int) :
    (s.apply (m <<< k : Nat) : ℚ) * 2 ^ (e - k) = s.apply m * 2 ^ e := by
  rw [zpow_sub₀ (by norm_num), zpow_natCast, Nat.shiftLeft_eq]
  cases s with
  | positive =>
    simp only [Sign.apply]
    push_cast
    field_simp
  | negative =>
    simp only [Sign.apply]
    push_cast
    field_simp

theorem log2_shiftLeft {m : Nat} (hne : m ≠ 0) (k : Nat) : (m <<< k).log2 = m.log2 + k := by
  induction k with
  | zero => rfl
  | succ k ih =>
    have hne' : m <<< k ≠ 0 := by
      rw [Nat.shiftLeft_eq]
      positivity
    rw [Nat.shiftLeft_succ, Nat.log2_two_mul hne', ih, Nat.add_assoc]

theorem isNormal_round (s : Sign) {m : Nat} {e : Int} (hpos : 0 < m)
    (hfits : Fits (s.apply m * 2 ^ e)) :
    IsNormal (ofUnpacked (UnpackedFloat.round Format.binary64 s m e))
      (nearest (s.apply m * 2 ^ e)) := by
  have hlog := hfits.log
  rw [abs_apply, log_mul_two_zpow hpos] at hlog
  have htarget : Format.binary64.targetExponent (totalExponent m e) = m.log2 + e - 52 := by
    simp [Format.targetExponent, totalExponent, Format.mantissaBits, Format.minExponent]
    omega
  have hshift : (e - (m.log2 + e - 52)).toNat = 52 - m.log2 := by omega
  have hlog2 : (m <<< (52 - m.log2)).log2 = 52 + (m.log2 - 52) := by
    rw [log2_shiftLeft hpos.ne']
    omega
  rw [UnpackedFloat.round, htarget, decreaseExponent, hshift,
    ← value_decreaseExponent s m (52 - m.log2) e]
  exact isNormal_roundWithAccuracy s hlog2 (by omega)

theorem isNormal_normalize {m : Int} {e : Int} (zero : Sign) (hfits : Fits (m * 2 ^ e)) :
    IsNormal (ofUnpacked (UnpackedFloat.normalize Format.binary64 m e zero))
      (nearest (m * 2 ^ e)) := by
  have hne : m ≠ 0 := by
    rintro rfl
    have := hfits.pos
    simp at this
  obtain hneg | hpos := Int.lt_or_gt_of_ne hne
  . have hcompare : compare m 0 = .lt := compare_lt_iff_lt.mpr hneg
    have hvalue : (Sign.negative.apply ((-m).toNat : Nat) : ℚ) = m := by
      rw [Sign.apply, Int.toNat_of_nonneg (by omega), neg_neg]
    simp only [UnpackedFloat.normalize, hcompare]
    rw [← hvalue] at hfits ⊢
    exact isNormal_round .negative (by omega) hfits
  . have hcompare : compare m 0 = .gt := compare_gt_iff_gt.mpr hpos
    have hvalue : (Sign.positive.apply (m.toNat : Nat) : ℚ) = m := by
      rw [Sign.apply, Int.toNat_of_nonneg hpos.le]
    simp only [UnpackedFloat.normalize, hcompare]
    rw [← hvalue] at hfits ⊢
    exact isNormal_round .positive (by omega) hfits

-- Operations

theorem IsNormal.decode {x : Float} {q : ℚ} (h : IsNormal x q) :
    ∃ b, Binary.decode x = .finite b ∧ b.value = q := by
  obtain ⟨s, hpos, hm, he⟩ := h
  refine ⟨_, decode_ofUnpacked s hpos hm he, ?_⟩
  cases s with
  | positive => simp [Binary.value, Sign.apply]
  | negative => simp [Binary.value, Sign.apply]

theorem apply_neg (s : Sign) (k : Int) : (-s).apply k = -s.apply k := by
  cases s with
  | positive => rfl
  | negative => exact (neg_neg k).symm

theorem IsNormal.nearest_eq {x : Float} {q : ℚ} (h : IsNormal x q) : nearest q = q := by
  obtain ⟨s, hpos, hm, he⟩ := h
  rename_i m e
  have hlog : m.log2 = 52 := (Nat.log2_eq_iff hpos.ne').mpr hm
  refine (nearest_eq_self_iff _).mpr ⟨s.apply m, ?_⟩
  rw [unit, abs_apply, log_mul_two_zpow hpos, hlog, Nat.cast_ofNat, add_sub_cancel_left]

theorem isNormal_half : IsNormal 0.5 (1 / 2) := by
  have h : IsNormal (ofUnpacked (.finite .positive (2 ^ 52) (-53) (by decide))) _ :=
    .intro .positive _ (by decide) (by decide)
  have hvalue : (Sign.positive.apply (2 ^ 52 : Nat) : ℚ) * 2 ^ (-53 : Int) = 1 / 2 := by
    norm_num [Sign.apply]
  rw [hvalue] at h
  exact h

theorem IsNormal.neg {x : Float} {q : ℚ} (h : IsNormal x q) : IsNormal (-x) (-q) := by
  obtain ⟨s, hpos, hm, he⟩ := h
  rw [neg_ofUnpacked s hpos hm he, ← neg_mul, ← Int.cast_neg, ← apply_neg]
  exact .intro (-s) hpos hm he

theorem IsNormal.add {x y : Float} {p q : ℚ} (hx : IsNormal x p) (hy : IsNormal y q)
    (hfits : Fits (p + q)) : IsNormal (x + y) (nearest (p + q)) := by
  obtain ⟨s, hpos, hm, he⟩ := hx
  obtain ⟨s', hpos', hm', he'⟩ := hy
  rename_i m e m' e'
  change IsNormal (ofUnpacked (UnpackedFloat.add Format.binary64
    (UnpackedFloat.unpack Format.binary64 (UnpackedFloat.pack Format.binary64 (.finite s m e hpos)))
    (UnpackedFloat.unpack Format.binary64
      (UnpackedFloat.pack Format.binary64 (.finite s' m' e' hpos'))))) _
  rw [unpack_pack_finite s hpos hm he, unpack_pack_finite s' hpos' hm' he']
  have hexp : Min.min e e' = e - ((e - Min.min e e').toNat : Nat) := by omega
  have hexp' : Min.min e e' = e' - ((e' - Min.min e e').toNat : Nat) := by omega
  have hsum : (s.apply m : ℚ) * 2 ^ e + s'.apply m' * 2 ^ e'
      = ((s.apply (m <<< (e - Min.min e e').toNat : Nat)
        + s'.apply (m' <<< (e' - Min.min e e').toNat : Nat) : Int) : ℚ) * 2 ^ Min.min e e' := by
    rw [← value_decreaseExponent s m (e - Min.min e e').toNat e,
      ← value_decreaseExponent s' m' (e' - Min.min e e').toNat e', ← hexp, ← hexp']
    push_cast
    ring
  rw [hsum] at hfits ⊢
  exact isNormal_normalize .positive hfits

theorem isNormal_toFloat {k : Nat} (hpos : 0 < k) (hk : k < 2 ^ 64) :
    IsNormal (UInt64.ofNat k).toFloat (nearest k) := by
  have hnat : (UInt64.ofNat k).toNat = k := UInt64.toNat_ofNat_of_lt' hk
  change IsNormal (ofUnpacked (UnpackedFloat.ofNat Format.binary64 (UInt64.ofNat k).toNat)) _
  have hvalue : (k : ℚ) = ((k : Int) : ℚ) * 2 ^ (0 : Int) := by simp
  have hfits : Fits ((k : Int) : ℚ) := fits_intCast (by omega) (by omega)
  rw [Int.cast_natCast, hvalue] at hfits
  rw [hvalue]
  rw [hnat]
  exact isNormal_normalize .positive hfits

theorem isNormal_ofInt {n : Int64} (hne : n ≠ 0) : IsNormal (ofInt n) (nearest n.toInt) := by
  have hpos : 0 < n.toInt.natAbs := Int.natAbs_pos.mpr fun h => hne (Int64.toInt_inj.mp h)
  have hlt : n.toInt.natAbs < 2 ^ 64 := by
    have := Int64.le_toInt n
    have := Int64.toInt_lt n
    omega
  have hfloat := isNormal_toFloat hpos hlt
  rw [Nat.cast_natAbs] at hfloat
  rw [ofInt]
  split
  . next hneg =>
    rw [abs_of_neg (Int64.lt_iff_toInt_lt.mp hneg), Int.cast_neg, nearest_neg] at hfloat
    have := hfloat.neg
    rwa [neg_neg] at this
  . next hnneg =>
    rwa [abs_of_nonneg (Int64.le_iff_toInt_le.mp (Int64.not_lt.mp hnneg))] at hfloat

theorem decode_ofInt {n : Int64} (h : n.toInt.natAbs ≤ 2 ^ 53) :
    ∃ b, Binary.decode (ofInt n) = .finite b ∧ b.value = n.toInt := by
  by_cases hzero : n = 0
  . subst hzero
    exact ⟨_, decode_zero, by simp [Binary.value]⟩
  . obtain ⟨b, hdecode, hvalue⟩ := (isNormal_ofInt hzero).decode
    rw [nearest_intCast_of_le h] at hvalue
    exact ⟨b, hdecode, hvalue⟩

theorem eq_of_ofInt_beq {m n : Int64} (hm : m.toInt.natAbs ≤ 2 ^ 53) (hn : n.toInt.natAbs ≤ 2 ^ 53)
    (h : (ofInt m == ofInt n) = true) : m = n := by
  obtain ⟨b, hb, hvalue⟩ := decode_ofInt hm
  obtain ⟨b', hb', hvalue'⟩ := decode_ofInt hn
  have heq := value_eq_of_beq hb hb' h
  rw [hvalue, hvalue'] at heq
  exact Int64.toInt_inj.mp (by exact_mod_cast heq)

end Decimal
end Stencil
