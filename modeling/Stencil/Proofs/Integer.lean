import Stencil.Integer
import Stencil.Proofs.Outcome
import Stencil.Proofs.Symbol

/-!
This module contains the proof that the decimal digits of a number are read as that number, and that
digits that are read stand for the number that is read.
-/

namespace Stencil

namespace Integer

theorem isAsciiDigit_of_isDigit {c : Char} (h : c.isDigit = true) :
    Unicode.isAsciiDigit c = true := by
  rw [Char.isDigit_iff_toNat] at h
  simp only [Unicode.isAsciiDigit, Bool.and_eq_true, decide_eq_true_eq, Symbol.le_iff_toNat_le]
  exact h

theorem isAsciiDigit_of_mem_toDigits {c : Char} {n : Nat} (h : c ∈ Nat.toDigits 10 n) :
    Unicode.isAsciiDigit c = true :=
  isAsciiDigit_of_isDigit (Nat.isDigit_of_mem_toDigits (by decide) (by decide) h)

theorem digitValue_digitChar {d : Nat} (h : d < 10) : digitValue d.digitChar = some d := by
  revert d
  decide

theorem readDigits_append (radix bound n : Nat) (overflow : ReadError) (cs ds : List Char) :
    readDigits radix bound overflow n (cs ++ ds)
      = readDigits radix bound overflow n cs >>= fun m => readDigits radix bound overflow m ds := by
  fun_induction readDigits radix bound overflow n cs with
  | case1 n => simp
  | case2 n c cs h => simp [readDigits, h]
  | case3 n c cs d h hd => simp [readDigits, h, hd]
  | case4 n c cs d h hd hbound => simp [readDigits, h, hd, hbound]
  | case5 n c cs d h hd hbound ih => simp [readDigits, h, hd, hbound, ih]

theorem readDigits_digitChar {bound m d : Nat} (overflow : ReadError) (hd : d < 10)
    (h : 10 * m + d ≤ bound) :
    readDigits 10 bound overflow m [d.digitChar] = .ok (10 * m + d) := by
  have hbound : ¬ bound < 10 * m + d := by omega
  have hradix : ¬ 10 ≤ d := by omega
  simp [readDigits, digitValue_digitChar hd, hradix, hbound]

theorem readDigits_toDigits {bound n : Nat} (overflow : ReadError) (h : n ≤ bound) :
    readDigits 10 bound overflow 0 (Nat.toDigits 10 n) = .ok n := by
  induction n using Nat.strongRecOn with
  | ind n ih =>
    by_cases hlt : n < 10
    . rw [Nat.toDigits_of_lt_base hlt, readDigits_digitChar overflow hlt (by omega)]
      simp
    . have hmod : n % 10 < 10 := Nat.mod_lt n (by decide)
      have hdigits := Nat.toDigits_append_toDigits (b := 10) (n := n / 10) (by decide) (by omega) hmod
      rw [Nat.div_add_mod] at hdigits
      rw [← hdigits, readDigits_append, ih (n / 10) (by omega) (by omega),
        Nat.toDigits_of_lt_base hmod, Outcome.ok_bind, readDigits_digitChar overflow hmod,
        Nat.div_add_mod]
      omega

theorem readNat_toDigits {bound n : Nat} (overflow : ReadError) (h : n ≤ bound) :
    readNat 10 bound overflow (Nat.toDigits 10 n) = .ok n := by
  rw [readNat]
  . exact readDigits_toDigits overflow h
  . exact Nat.toDigits_ne_nil

def ofDigits (radix n : Nat) (digits : List Char) : Nat :=
  digits.foldl (fun n c => radix * n + (digitValue c).getD 0) n

theorem readDigits_eq_ok {radix bound n m : Nat} {overflow : ReadError} {cs : List Char}
    (h : readDigits radix bound overflow n cs = .ok m) (hn : n ≤ bound) :
    m = ofDigits radix n cs ∧ m ≤ bound := by
  fun_induction readDigits radix bound overflow n cs with
  | case1 n =>
    cases h
    exact ⟨rfl, hn⟩
  | case2 => cases h
  | case3 => cases h
  | case4 => cases h
  | case5 n c cs d hd _ hbound ih =>
    obtain ⟨hm, hle⟩ := ih h (by omega)
    refine ⟨?_, hle⟩
    rw [hm, ofDigits, ofDigits, List.foldl_cons, hd, Option.getD_some]

theorem readNat_eq_ok {radix bound m : Nat} {overflow : ReadError} {cs : List Char}
    (h : readNat radix bound overflow cs = .ok m) :
    cs ≠ [] ∧ m = ofDigits radix 0 cs ∧ m ≤ bound := by
  unfold readNat at h
  split at h
  . cases h
  . next hne => exact ⟨hne, readDigits_eq_ok h (Nat.zero_le bound)⟩

theorem toText_of_nonneg {n : Int64} (h : 0 ≤ n) :
    (toText n).toList = Nat.toDigits 10 n.toInt.natAbs := by
  have : ¬ n < 0 := Int64.not_lt.mpr h
  simp [toText, this]

theorem natAbs_le_greatest {n : Int64} (h : 0 ≤ n) : n.toInt.natAbs ≤ greatest := by
  have hlt := n.toInt_lt
  have hnonneg : 0 ≤ n.toInt := Int64.le_iff_toInt_le.mp h
  simp only [greatest]
  omega

theorem ofInt_natAbs {n : Int64} (h : 0 ≤ n) : Int64.ofInt n.toInt.natAbs = n := by
  have hnonneg : 0 ≤ n.toInt := Int64.le_iff_toInt_le.mp h
  rw [Int.natAbs_of_nonneg hnonneg, Int64.ofInt_toInt]

end Integer

end Stencil
