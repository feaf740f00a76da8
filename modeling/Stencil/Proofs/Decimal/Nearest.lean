import Mathlib

/-!
This module contains rounding to numbers with a significand of 53 bits: what the number nearest to a
rational number is, and which numbers are nearest to themselves.
-/

namespace Stencil

namespace Decimal

-- To an integer

def nearestEven (x : ℚ) : ℤ :=
  if Int.fract x < 1 / 2 then ⌊x⌋
  else if Int.fract x = 1 / 2 then ⌊x⌋ + ⌊x⌋ % 2
  else ⌊x⌋ + 1

theorem nearestEven_of_floor {x : ℚ} {k : ℤ} (hlower : k ≤ x) (hupper : x < k + 1 / 2) :
    nearestEven x = k := by
  have hfloor : ⌊x⌋ = k := Int.floor_eq_iff.mpr ⟨hlower, by linarith⟩
  have hfract : Int.fract x < 1 / 2 := by
    rw [Int.fract, hfloor]
    linarith
  rw [nearestEven, if_pos hfract, hfloor]

theorem nearestEven_intCast (k : ℤ) : nearestEven k = k :=
  nearestEven_of_floor (le_refl _) (by linarith)

theorem nearestEven_add_half (k : ℤ) : nearestEven (k + 1 / 2) = k + k % 2 := by
  have hfloor : ⌊(k : ℚ) + 1 / 2⌋ = k := Int.floor_eq_iff.mpr ⟨by linarith, by linarith⟩
  have hfract : Int.fract ((k : ℚ) + 1 / 2) = 1 / 2 := by
    rw [Int.fract, hfloor]
    ring
  rw [nearestEven, hfract, if_neg (lt_irrefl _), if_pos rfl, hfloor]

theorem floor_le_nearestEven (x : ℚ) : ⌊x⌋ ≤ nearestEven x := by
  unfold nearestEven
  split_ifs <;> omega

theorem le_nearestEven {x : ℚ} {k : ℤ} (h : k ≤ x) : k ≤ nearestEven x :=
  (Int.le_floor.mpr h).trans (floor_le_nearestEven x)

theorem nearestEven_neg (x : ℚ) : nearestEven (-x) = -nearestEven x := by
  by_cases hint : Int.fract x = 0
  . obtain ⟨k, rfl⟩ := Int.fract_eq_zero_iff.mp hint
    rw [← Int.cast_neg, nearestEven_intCast, nearestEven_intCast]
  . have hfloor : ⌊-x⌋ = -⌊x⌋ - 1 := by
      have hpos := (Int.fract_nonneg x).lt_of_ne' hint
      have hlt := Int.fract_lt_one x
      rw [Int.fract] at hpos hlt
      refine Int.floor_eq_iff.mpr ⟨?_, ?_⟩
      . push_cast
        linarith
      . push_cast
        linarith
    have hfract : Int.fract (-x) = 1 - Int.fract x := Int.fract_neg hint
    unfold nearestEven
    rw [hfloor, hfract]
    rcases lt_trichotomy (Int.fract x) (1 / 2) with h | h | h
    . rw [if_neg (by linarith), if_neg (by linarith), if_pos h]
      ring
    . rw [if_neg (by linarith), if_pos (by linarith), if_neg (by linarith), if_pos h]
      omega
    . rw [if_pos (by linarith), if_neg (by linarith), if_neg (by linarith)]
      ring

theorem nearestEven_le {x : ℚ} {k : ℤ} (h : x ≤ k) : nearestEven x ≤ k := by
  have hneg : -k ≤ nearestEven (-x) := le_nearestEven (by
    push_cast
    linarith)
  rw [nearestEven_neg] at hneg
  omega

-- To a significand

/--
The distance of the numbers with a significand of 53 bits around a number.
-/
def unit (q : ℚ) : ℚ :=
  2 ^ (Int.log 2 |q| - 52)

/--
The number with a significand of 53 bits that is nearest to a number; of two equally near ones the
one with the even significand.
-/
def nearest (q : ℚ) : ℚ :=
  nearestEven (q / unit q) * unit q

theorem unit_pos (q : ℚ) : 0 < unit q :=
  zpow_pos (by norm_num) _

theorem unit_neg (q : ℚ) : unit (-q) = unit q := by
  rw [unit, unit, abs_neg]

theorem nearest_neg (q : ℚ) : nearest (-q) = -nearest q := by
  rw [nearest, nearest, unit_neg, neg_div, nearestEven_neg]
  push_cast
  ring

theorem nearest_eq_self_iff (q : ℚ) : nearest q = q ↔ ∃ k : ℤ, q = k * unit q := by
  constructor
  . intro h
    exact ⟨_, h.symm⟩
  . rintro ⟨k, hk⟩
    have hdiv : q / unit q = k := by
      rw [div_eq_iff (unit_pos q).ne']
      exact hk
    rw [nearest, hdiv, nearestEven_intCast]
    exact hk.symm

theorem log2_lt_of_lt {m k : Nat} (hk : 0 < k) (h : m < 2 ^ k) : m.log2 < k := by
  by_cases hm : m = 0
  . rwa [hm, Nat.log2_zero]
  . exact (Nat.log2_lt hm).mpr h

theorem log_mul_two_zpow {k : Nat} (hpos : 0 < k) (e : ℤ) :
    Int.log 2 ((k : ℚ) * 2 ^ e) = k.log2 + e := by
  have hscale : (0 : ℚ) < 2 ^ e := zpow_pos (by norm_num) e
  have hq : (0 : ℚ) < k * 2 ^ e := mul_pos (by exact_mod_cast hpos) hscale
  have hlower : (2 : ℚ) ^ ((k.log2 : ℤ) + e) ≤ k * 2 ^ e := by
    rw [zpow_add₀ (by norm_num), zpow_natCast]
    refine mul_le_mul_of_nonneg_right ?_ hscale.le
    exact_mod_cast Nat.log2_self_le hpos.ne'
  have hupper : (k : ℚ) * 2 ^ e < 2 ^ ((k.log2 : ℤ) + e + 1) := by
    have hexp : (k.log2 : ℤ) + e + 1 = ((k.log2 + 1 : Nat) : ℤ) + e := by
      push_cast
      ring
    rw [hexp, zpow_add₀ (by norm_num), zpow_natCast]
    refine mul_lt_mul_of_pos_right ?_ hscale
    exact_mod_cast Nat.lt_log2_self
  have hle : k.log2 + e ≤ Int.log 2 ((k : ℚ) * 2 ^ e) :=
    (Int.zpow_le_iff_le_log (by decide) hq).mp hlower
  have hlt : Int.log 2 ((k : ℚ) * 2 ^ e) < k.log2 + e + 1 :=
    (Int.lt_zpow_iff_log_lt (by decide) hq).mp hupper
  omega

structure Fits (q : ℚ) : Prop where
  least : 2 ^ (-1022 : ℤ) ≤ |q|
  bound : |q| < 2 ^ (1023 : ℤ)

theorem Fits.pos {q : ℚ} (h : Fits q) : 0 < |q| :=
  (zpow_pos (by norm_num) _).trans_le h.least

theorem Fits.log {q : ℚ} (h : Fits q) : -1022 ≤ Int.log 2 |q| ∧ Int.log 2 |q| ≤ 1022 := by
  have hlower : -1022 ≤ Int.log 2 |q| := (Int.zpow_le_iff_le_log (by decide) h.pos).mp h.least
  have hupper : Int.log 2 |q| < 1023 := (Int.lt_zpow_iff_log_lt (by decide) h.pos).mp h.bound
  omega

theorem fits_of_bounds {q : ℚ} (hlower : 1 / 2 ≤ |q|) (hupper : |q| ≤ 2 ^ 65) : Fits q where
  least := calc
    (2 : ℚ) ^ (-1022 : ℤ) ≤ 2 ^ (-1 : ℤ) := zpow_le_zpow_right₀ (by norm_num) (by norm_num)
    _ = 1 / 2 := by norm_num
    _ ≤ |q| := hlower
  bound := calc
    |q| ≤ (2 : ℚ) ^ (65 : ℤ) := by exact_mod_cast hupper
    _ < 2 ^ (1023 : ℤ) := zpow_lt_zpow_right₀ (by norm_num) (by norm_num)

-- Integers

theorem fits_intCast {k : ℤ} (hne : k ≠ 0) (hk : k.natAbs ≤ 2 ^ 64) : Fits k := by
  have habs : |(k : ℚ)| = k.natAbs := by
    rw [Nat.cast_natAbs, Int.cast_abs]
  have hlower : (1 : ℚ) ≤ k.natAbs := by exact_mod_cast Int.natAbs_pos.mpr hne
  have hupper : (k.natAbs : ℚ) ≤ 2 ^ 64 := by exact_mod_cast hk
  refine fits_of_bounds ?_ ?_
  . linarith
  . linarith

theorem log_intCast_mul_two_zpow {k : ℤ} (hne : k ≠ 0) (e : ℤ) :
    Int.log 2 |(k : ℚ) * 2 ^ e| = k.natAbs.log2 + e := by
  rw [abs_mul, abs_of_pos (zpow_pos (by norm_num : (0 : ℚ) < 2) e), ← Int.cast_abs, Int.abs_eq_natAbs,
    Int.cast_natCast]
  exact log_mul_two_zpow (Int.natAbs_pos.mpr hne) e

theorem unit_intCast {k : ℤ} (hne : k ≠ 0) : unit k = 2 ^ ((k.natAbs.log2 : ℤ) - 52) := by
  have hlog := log_intCast_mul_two_zpow hne 0
  rw [zpow_zero, mul_one, add_zero] at hlog
  rw [unit, hlog]

theorem unit_of_le {k : ℤ} (h : 52 ≤ k.natAbs.log2) :
    unit k = ((2 ^ (k.natAbs.log2 - 52) : ℤ) : ℚ) := by
  have hne : k ≠ 0 := by
    rintro rfl
    simp at h
  have hexp : (k.natAbs.log2 : ℤ) - 52 = (k.natAbs.log2 - 52 : Nat) := by omega
  rw [unit_intCast hne, hexp, zpow_natCast]
  push_cast
  rfl

theorem nearest_intCast_of_lt {k : ℤ} (h : k.natAbs.log2 < 52) : nearest k = k := by
  by_cases hne : k = 0
  . simp [hne, nearest_eq_self_iff]
  . have hexp : (k.natAbs.log2 : ℤ) - 52 = -(52 - k.natAbs.log2 : Nat) := by omega
    refine (nearest_eq_self_iff _).mpr ⟨k * 2 ^ (52 - k.natAbs.log2), ?_⟩
    rw [unit_intCast hne, hexp, zpow_neg, zpow_natCast]
    push_cast
    field_simp

theorem nearest_intCast_iff (k : ℤ) :
    nearest k = k ↔ (2 : ℤ) ^ (k.natAbs.log2 - 52) ∣ k := by
  by_cases h : 52 ≤ k.natAbs.log2
  . rw [nearest_eq_self_iff, unit_of_le h, dvd_iff_exists_eq_mul_left]
    exact_mod_cast Iff.rfl
  . have hroom : k.natAbs.log2 - 52 = 0 := by omega
    rw [hroom, pow_zero]
    exact iff_of_true (nearest_intCast_of_lt (by omega)) (one_dvd k)

theorem nearest_intCast_of_le {k : ℤ} (h : k.natAbs ≤ 2 ^ 53) : nearest k = k := by
  rw [nearest_intCast_iff]
  obtain hlt | heq := Nat.lt_or_eq_of_le h
  . have hlog := log2_lt_of_lt (by decide) hlt
    rw [Nat.sub_eq_zero_of_le (by omega), pow_zero]
    exact one_dvd k
  . rw [heq, Nat.log2_two_pow]
    omega

theorem exists_nearest_intCast (k : ℤ) :
    ∃ k' : ℤ, nearest k = k' ∧ (2 : ℤ) ^ (k.natAbs.log2 - 52) ∣ k' := by
  by_cases h : 52 ≤ k.natAbs.log2
  . refine ⟨nearestEven (k / unit k) * 2 ^ (k.natAbs.log2 - 52), ?_, dvd_mul_left _ _⟩
    rw [nearest, Int.cast_mul, ← unit_of_le h]
  . have hself := nearest_intCast_of_lt (k := k) (by omega)
    exact ⟨k, hself, (nearest_intCast_iff k).mp hself⟩

theorem abs_nearest_le (q : ℚ) : |nearest q| ≤ 2 ^ (Int.log 2 |q| + 1) := by
  have hunit := unit_pos q
  have hpow : (2 : ℚ) ^ (Int.log 2 |q| + 1) = (2 ^ 53 : ℤ) * unit q := by
    rw [unit, zpow_sub₀ (by norm_num), zpow_add₀ (by norm_num)]
    norm_num
    ring
  have hlt : |q| < 2 ^ (Int.log 2 |q| + 1) := Int.lt_zpow_succ_log_self (by decide) |q|
  obtain ⟨hlower, hupper⟩ := abs_lt.mp (hpow ▸ hlt)
  have hle : nearestEven (q / unit q) ≤ 2 ^ 53 := nearestEven_le (by
    rw [div_le_iff₀ hunit]
    exact hupper.le)
  have hge : -2 ^ 53 ≤ nearestEven (q / unit q) := le_nearestEven (by
    rw [le_div_iff₀ hunit]
    push_cast at hlower ⊢
    linarith)
  rw [hpow, nearest, abs_mul, abs_of_pos hunit]
  refine mul_le_mul_of_nonneg_right ?_ hunit.le
  exact_mod_cast abs_le.mpr ⟨hge, hle⟩

theorem natAbs_le_of_nearest {k k' : ℤ} (hne : k ≠ 0) (h : nearest k = k') :
    k'.natAbs ≤ 2 ^ (k.natAbs.log2 + 1) := by
  have hlog := log_intCast_mul_two_zpow hne 0
  rw [zpow_zero, mul_one, add_zero] at hlog
  have hle := abs_nearest_le k
  rw [h, hlog, ← Int.cast_abs, Int.abs_eq_natAbs, Int.cast_natCast] at hle
  exact_mod_cast hle

-- Halves

theorem fits_add_half {k : ℤ} (hk : k.natAbs ≤ 2 ^ 64) : Fits (k + 1 / 2) := by
  have habs : |(k : ℚ) + 1 / 2| = ((2 * k + 1).natAbs : ℚ) / 2 := by
    rw [Nat.cast_natAbs, Int.cast_abs, ← abs_of_pos (two_pos : (0 : ℚ) < 2), ← abs_div,
      abs_of_pos (two_pos : (0 : ℚ) < 2)]
    congr 1
    push_cast
    ring
  have hlower : (1 : ℚ) ≤ (2 * k + 1).natAbs := by
    have : 1 ≤ (2 * k + 1).natAbs := by omega
    exact_mod_cast this
  have hupper : ((2 * k + 1).natAbs : ℚ) ≤ 2 ^ 65 + 1 := by
    have : (2 * k + 1).natAbs ≤ 2 ^ 65 + 1 := by omega
    exact_mod_cast this
  refine fits_of_bounds ?_ ?_
  . linarith
  . linarith

theorem unit_add_half (k : ℤ) : unit (k + 1 / 2) = 2 ^ (((2 * k + 1).natAbs.log2 : ℤ) - 53) := by
  have hhalf : (k : ℚ) + 1 / 2 = ((2 * k + 1 : ℤ) : ℚ) * 2 ^ (-1 : ℤ) := by
    rw [zpow_neg_one]
    push_cast
    ring
  rw [unit, hhalf, log_intCast_mul_two_zpow (by omega)]
  congr 1
  ring

theorem nearest_add_half_of_lt {k : ℤ} (h : (2 * k + 1).natAbs.log2 < 53) :
    nearest (k + 1 / 2) = k + 1 / 2 := by
  obtain ⟨j, hj⟩ : ∃ j, (2 * k + 1).natAbs.log2 + j = 52 := ⟨_, Nat.add_sub_of_le (by omega)⟩
  have hexp : ((2 * k + 1).natAbs.log2 : ℤ) - 53 = -(j + 1 : Nat) := by omega
  refine (nearest_eq_self_iff _).mpr ⟨(2 * k + 1) * 2 ^ j, ?_⟩
  rw [unit_add_half, hexp, zpow_neg, zpow_natCast, pow_succ]
  push_cast
  field_simp

theorem nearest_add_half_of_eq {k : ℤ} (h : (2 * k + 1).natAbs.log2 = 53) :
    nearest (k + 1 / 2) = (k + k % 2 : ℤ) := by
  rw [nearest, unit_add_half, h]
  simp only [Nat.cast_ofNat, sub_self, zpow_zero, div_one, mul_one, nearestEven_add_half]

theorem exists_eq_mul_of_gt {k : ℤ} (hk : nearest k = k) {j : Nat}
    (hj : (2 * k + 1).natAbs.log2 = 54 + j) : ∃ c, k = 2 ^ (j + 1) * c := by
  have hodd : (2 * k + 1).natAbs ≠ 0 := by omega
  have hlog : (2 * k + 1).natAbs.log2 < k.natAbs.log2 + 2 := by
    have : k.natAbs < 2 ^ (k.natAbs.log2 + 1) := Nat.lt_log2_self
    rw [Nat.log2_lt hodd, Nat.pow_succ]
    omega
  have hle : j + 1 ≤ k.natAbs.log2 - 52 := by omega
  exact (pow_dvd_pow 2 hle).trans ((nearest_intCast_iff k).mp hk)

theorem nearest_add_half_of_gt {k c : ℤ} {j : Nat} (hj : (2 * k + 1).natAbs.log2 = 54 + j)
    (hc : k = 2 ^ (j + 1) * c) : nearest (k + 1 / 2) = k := by
  have hexp : ((2 * k + 1).natAbs.log2 : ℤ) - 53 = (j + 1 : Nat) := by omega
  have hpow : (1 : ℚ) < 2 ^ (j + 1) := one_lt_pow₀ (by norm_num) j.succ_ne_zero
  have hk : (k : ℚ) = c * 2 ^ (j + 1) := by
    rw [hc]
    push_cast
    ring
  have hdiv : ((k : ℚ) + 1 / 2) / 2 ^ (j + 1) = c + 1 / 2 / 2 ^ (j + 1) := by
    rw [hk]
    field_simp
  have hsmall : (1 : ℚ) / 2 / 2 ^ (j + 1) < 1 / 2 := div_lt_self (by norm_num) hpow
  have hpos : (0 : ℚ) < 1 / 2 / 2 ^ (j + 1) := by positivity
  have hnearest : nearestEven (c + 1 / 2 / 2 ^ (j + 1)) = c :=
    nearestEven_of_floor (by linarith) (by linarith)
  rw [nearest, unit_add_half, hexp, zpow_natCast, hdiv, hnearest, hk]

theorem floor_nearest_add_half {k : ℤ} (hk : nearest k = k) :
    ⌊nearest (k + 1 / 2)⌋ = if k.natAbs < 2 ^ 52 then k else k + k % 2 := by
  -- The middle between two integers falls on one of them if a significand has no room for it: on
  -- the even one if they have the last place of a significand, else on the one that has a
  -- significand.
  have hodd : (2 * k + 1).natAbs ≠ 0 := by omega
  rcases lt_trichotomy (2 * k + 1).natAbs.log2 53 with hlt | heq | hgt
  . have hnatAbs : (2 * k + 1).natAbs < 2 ^ 53 := (Nat.log2_lt hodd).mp hlt
    have hfloor : ⌊(k : ℚ) + 1 / 2⌋ = k := Int.floor_eq_iff.mpr ⟨by linarith, by linarith⟩
    rw [nearest_add_half_of_lt hlt, hfloor]
    split <;> omega
  . have hge : 2 ^ 53 ≤ (2 * k + 1).natAbs := heq ▸ Nat.log2_self_le hodd
    rw [nearest_add_half_of_eq heq, Int.floor_intCast, if_neg (by omega)]
  . have hge : 2 ^ 54 ≤ (2 * k + 1).natAbs := (Nat.le_log2 hodd).mp hgt
    obtain ⟨j, hj⟩ : ∃ j, (2 * k + 1).natAbs.log2 = 54 + j := ⟨_, (Nat.add_sub_of_le hgt).symm⟩
    obtain ⟨c, hc⟩ := exists_eq_mul_of_gt hk hj
    have heven : k % 2 = 0 :=
      Int.emod_eq_zero_of_dvd ((dvd_pow_self 2 j.succ_ne_zero).trans ⟨c, hc⟩)
    rw [nearest_add_half_of_gt hj hc, Int.floor_intCast, if_neg (by omega), heven, add_zero]

end Decimal
end Stencil
