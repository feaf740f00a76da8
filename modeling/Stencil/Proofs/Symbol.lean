import Mathlib.Tactic.Tauto
import Stencil.Symbol

/-!
This module contains what the lexical class of a character says about it, and which classes exclude
each other: names, numbers and blanks are told apart by their first characters.
-/

namespace Stencil

namespace Symbol

def Describes : Symbol → Char → Prop
  | groupOpen, c => c = '('
  | arrayOpen, c => c = '['
  | mapOpen, c => c = '\x7b'
  | classMarker, c => c = '@'
  | quote, c => c = '\'' ∨ c = '"'
  | digit, c => Unicode.isAsciiDigit c = true
  | identStart, c => isIdentStart c = true
  | blank, c => Unicode.isBlank c = true
  | operator, c => isOperator c = true
  | other, _ => True

theorem describes_ofChar (c : Char) : (ofChar c).Describes c := by
  unfold ofChar
  repeat' split
  all_goals simp_all [Describes]

theorem le_iff_toNat_le {a b : Char} : a ≤ b ↔ a.toNat ≤ b.toNat := by
  rfl

theorem isAlphabetic_of_isBlank {c : Char} (h : Unicode.isBlank c = true) :
    Unicode.isAlphabetic c = false := by
  unfold Unicode.isAlphabetic
  split
  . simp only [Unicode.isBlank, Unicode.isAsciiLetter, Bool.or_eq_true, Bool.or_eq_false_iff,
      Bool.and_eq_true, Bool.and_eq_false_iff, decide_eq_true_eq, decide_eq_false_iff_not,
      beq_iff_eq, le_iff_toNat_le, Char.reduceToNat] at *
    omega
  . simp [h]

theorem isNumeric_of_isBlank {c : Char} (h : Unicode.isBlank c = true) :
    Unicode.isNumeric c = false := by
  unfold Unicode.isNumeric
  split
  . simp only [Unicode.isBlank, Unicode.isAsciiDigit, Bool.or_eq_true, Bool.and_eq_true,
      Bool.and_eq_false_iff, decide_eq_true_eq, decide_eq_false_iff_not, beq_iff_eq,
      le_iff_toNat_le, Char.reduceToNat] at *
    omega
  . simp [h]

theorem isIdentContinue_of_isBlank {c : Char} (h : Unicode.isBlank c = true) :
    isIdentContinue c = false := by
  have hline : c ≠ '_' := by
    rintro rfl
    revert h
    decide
  have hdollar : c ≠ '$' := by
    rintro rfl
    revert h
    decide
  simp [isIdentContinue, Unicode.isAlphanumeric, isAlphabetic_of_isBlank h,
    isNumeric_of_isBlank h, hline, hdollar]

theorem isIdentContinue_of_isIdentStart {c : Char} (h : isIdentStart c = true) :
    isIdentContinue c = true := by
  simp only [isIdentStart, isIdentContinue, Unicode.isAlphanumeric, Bool.or_eq_true] at *
  tauto

theorem isBlank_of_isIdentStart {c : Char} (h : isIdentStart c = true) :
    Unicode.isBlank c = false := by
  rw [Bool.eq_false_iff]
  intro hblank
  have := isIdentContinue_of_isIdentStart h
  simp [isIdentContinue_of_isBlank hblank] at this

theorem isBlank_of_isAsciiDigit {c : Char} (h : Unicode.isAsciiDigit c = true) :
    Unicode.isBlank c = false := by
  simp only [Unicode.isBlank, Unicode.isAsciiDigit, Bool.or_eq_false_iff, Bool.and_eq_true,
    Bool.and_eq_false_iff, decide_eq_true_eq, decide_eq_false_iff_not, beq_eq_false_iff_ne,
    le_iff_toNat_le, Char.reduceToNat] at *
  omega

theorem isBlank_of_isIdentContinue {c : Char} (h : isIdentContinue c = true) :
    Unicode.isBlank c = false := by
  rw [Bool.eq_false_iff]
  intro hblank
  simp [isIdentContinue_of_isBlank hblank] at h

theorem isIdentStart_of_isAsciiDigit {c : Char} (h : Unicode.isAsciiDigit c = true) :
    isIdentStart c = false := by
  have hascii : c.toNat < 128 := by
    simp only [Unicode.isAsciiDigit, Bool.and_eq_true, decide_eq_true_eq, le_iff_toNat_le,
      Char.reduceToNat] at h
    omega
  have hline : c ≠ '_' := by
    rintro rfl
    revert h
    decide
  have hdollar : c ≠ '$' := by
    rintro rfl
    revert h
    decide
  simp only [isIdentStart, Unicode.isAlphabetic, if_pos hascii, Bool.or_eq_false_iff,
    beq_eq_false_iff_ne]
  refine ⟨⟨?_, hline⟩, hdollar⟩
  simp only [Unicode.isAsciiDigit, Unicode.isAsciiLetter, Bool.or_eq_false_iff, Bool.and_eq_true,
    Bool.and_eq_false_iff, decide_eq_true_eq, decide_eq_false_iff_not, le_iff_toNat_le,
    Char.reduceToNat] at *
  omega

theorem isIdentContinue_of_isAsciiDigit {c : Char} (h : Unicode.isAsciiDigit c = true) :
    isIdentContinue c = true := by
  have hascii : c.toNat < 128 := by
    simp only [Unicode.isAsciiDigit, Bool.and_eq_true, decide_eq_true_eq, le_iff_toNat_le,
      Char.reduceToNat] at h
    omega
  simp [isIdentContinue, Unicode.isAlphanumeric, Unicode.isNumeric, hascii, h]

theorem isIdentContinue_of_isHexDigit {c : Char} (h : isHexDigit c = true) :
    isIdentContinue c = true := by
  rw [isHexDigit, Bool.or_assoc, Bool.or_eq_true] at h
  rcases h with hdigit | hletter
  . exact isIdentContinue_of_isAsciiDigit hdigit
  . have hascii : c.toNat < 128 ∧ Unicode.isAsciiLetter c = true := by
      simp only [Unicode.isAsciiLetter, Bool.or_eq_true, Bool.and_eq_true, decide_eq_true_eq,
        le_iff_toNat_le, Char.reduceToNat] at *
      omega
    simp [isIdentContinue, Unicode.isAlphanumeric, Unicode.isAlphabetic, hascii]

theorem ofChar_of_isIdentStart {c : Char} (h : isIdentStart c = true) : ofChar c = identStart := by
  have hne (c' : Char) (hc' : isIdentStart c' = false) : c ≠ c' := by
    rintro rfl
    simp [h] at hc'
  have hdigit : Unicode.isAsciiDigit c = false := by
    rw [Bool.eq_false_iff]
    intro hdigit
    simp [isIdentStart_of_isAsciiDigit hdigit] at h
  simp [ofChar, h, hdigit, hne '(' (by decide), hne '[' (by decide), hne '\x7b' (by decide),
    hne '@' (by decide), hne '\'' (by decide), hne '"' (by decide)]

theorem ofChar_of_isAsciiDigit {c : Char} (h : Unicode.isAsciiDigit c = true) :
    ofChar c = digit := by
  have hne (c' : Char) (hc' : Unicode.isAsciiDigit c' = false) : c ≠ c' := by
    rintro rfl
    simp [h] at hc'
  simp [ofChar, h, hne '(' (by decide), hne '[' (by decide), hne '\x7b' (by decide),
    hne '@' (by decide), hne '\'' (by decide), hne '"' (by decide)]

end Symbol

end Stencil
