import Mathlib.Data.Nat.Digits.Defs
import Stencil.Proofs.Parser.Scanning

/-!
This module contains the proof that the literal of a number is read whole, and exactly or not at
all. What the literal is made of is seen from the text alone: everything that is a number, and no
character more. An integer has the value that its digits have by their places, or it is an error.
-/

namespace Stencil

namespace Integer

def digits : List Char :=
  "0123456789abcdef".toList

def positional (radix : Nat) (text : List Char) : Nat :=
  Nat.ofDigits radix (text.reverse.map fun c => digits.idxOf c.toLower)

theorem isHexDigit_of_isAsciiDigit {c : Char} (h : Unicode.isAsciiDigit c = true) :
    Symbol.isHexDigit c = true := by
  rw [Unicode.isAsciiDigit] at h
  simp [Symbol.isHexDigit, h]

theorem digitValue_eq_idxOf {c : Char} (h : Symbol.isHexDigit c = true) :
    digitValue c = some (digits.idxOf c.toLower) := by
  have hall : ∀ n < 128, Symbol.isHexDigit (Char.ofNat n) = true →
      digitValue (Char.ofNat n) = some (digits.idxOf (Char.ofNat n).toLower) := by
    decide
  have hlt : c.toNat < 128 := by
    simp only [Symbol.isHexDigit, Bool.or_eq_true, Bool.and_eq_true, decide_eq_true_eq,
      Symbol.le_iff_toNat_le, Char.reduceToNat] at h
    omega
  rw [← Char.ofNat_toNat c] at h ⊢
  exact hall c.toNat hlt h

theorem ofDigits_eq_positional (radix : Nat) {text : List Char}
    (h : ∀ c ∈ text, Symbol.isHexDigit c = true) : ofDigits radix 0 text = positional radix text := by
  induction text using List.reverseRecOn with
  | nil => rfl
  | append_singleton text c ih =>
    rw [List.forall_mem_append, List.forall_mem_singleton] at h
    calc
      ofDigits radix 0 (text ++ [c])
        = radix * ofDigits radix 0 text + digits.idxOf c.toLower := by
          simp [ofDigits, digitValue_eq_idxOf h.2]
      _ = digits.idxOf c.toLower + radix * positional radix text := by
          rw [ih h.1, Nat.add_comm]
      _ = positional radix (text ++ [c]) := by
          simp [positional, Nat.ofDigits_cons]

end Integer

namespace Parser

variable {H : Type} {c c' : Cursor}

def IsDecimal (tok : Token) : Prop :=
  ∃ whole fraction exponent, tok = whole ++ (fraction ++ exponent)
    ∧ IsDigits Unicode.isAsciiDigit whole ∧ IsFraction fraction ∧ IsExponent exponent

/--
What comes of the digits of an integer that were read from the cursor `c` to the cursor `c'`: the
integer of the same value, or an error at the beginning of the literal if there is no digit or no
such integer. The error shows the digits behind `lead`.
-/
structure ReadsInteger (c c' : Cursor) (radix : Nat) (lead digits : List Char)
    (result : Except ParseError (Expr H × Cursor)) : Prop where
  exact : digits ≠ [] → Integer.positional radix digits ≤ 2 ^ 63 - 1 →
    ∃ n : Int64, n.toInt = Integer.positional radix digits ∧ result = .ok (.const (.int n), c')
  rejected : digits = [] ∨ 2 ^ 63 - 1 < Integer.positional radix digits →
    result = .error ⟨c.pos, .invalidNumber (String.ofList (lead ++ digits))⟩

/--
What comes of the literal at the cursor `c`, which is told from the text alone.
. Behind the mark of a hexadecimal number stand its digits, all that there are.
. Otherwise the literal is the longest decimal number. Without a fraction and an exponent it is an
  integer, and else a decimal.
-/
inductive ReadsNumber (c : Cursor) (result : Except ParseError (Expr H × Cursor)) : Prop where
  | hex {mark : Char} {digits rest : List Char} :
      mark ∈ ['x', 'X'] → c.rest = '0' :: mark :: digits ++ rest →
      (∀ ch ∈ digits, Symbol.isHexDigit ch = true) →
      (∀ next, rest.head? = some next → Symbol.isHexDigit next = false) →
      ReadsInteger c (c.after ('0' :: mark :: digits) rest) 16 ['0', 'x'] digits result →
        ReadsNumber c result
  | integer {digits rest : List Char} :
      (∀ mark ∈ ['x', 'X'], ¬ ['0', mark] <+: c.rest) → c.rest = digits ++ rest →
      IsDigits Unicode.isAsciiDigit digits → Longest IsDecimal digits rest →
      ReadsInteger c (c.after digits rest) 10 [] digits result → ReadsNumber c result
  | decimal {tok rest : List Char} {x : Float} :
      (∀ mark ∈ ['x', 'X'], ¬ ['0', mark] <+: c.rest) → c.rest = tok ++ rest →
      IsDecimal tok → ¬ IsDigits Unicode.isAsciiDigit tok → Longest IsDecimal tok rest →
      Decimal.read tok = .ok x → result = .ok (.const (.decimal x), c.after tok rest) →
        ReadsNumber c result

theorem satisfies_result {α : Type} {p : Parser α}
    (holds : Except ParseError (α × Cursor) → Prop) :
    Satisfies p c (fun a c' => holds (.ok (a, c'))) (fun e => holds (.error e)) ↔ holds (p c) := by
  unfold Satisfies
  cases p c <;> rfl

theorem readsInteger_integerLiteral {radix : Nat} {lead digits : List Char} (hradix : 0 < radix)
    (hhex : ∀ ch ∈ digits, Symbol.isHexDigit ch = true)
    (hdigits : ∀ ch ∈ digits, ∃ d, Integer.digitValue ch = some d ∧ d < radix) :
    ReadsInteger c c' radix lead digits
      (integerLiteral (H := H) c.pos radix digits (lead ++ digits) c') := by
  have hvalue := Integer.ofDigits_eq_positional radix hhex
  constructor
  . intro hne hle
    rw [← hvalue] at hle ⊢
    have hread : Integer.readNat radix Integer.greatest .tooLarge digits
        = .ok (Integer.ofDigits radix 0 digits) :=
      Integer.readNat_ofDigits .tooLarge hradix hne hdigits hle
    refine ⟨Int64.ofInt (Integer.ofDigits radix 0 digits), ?_, ?_⟩
    . exact Int64.toInt_ofInt_of_le (by omega) (by omega)
    . rw [integerLiteral, hread]
      rfl
  . intro hout
    cases h : Integer.readNat radix Integer.greatest .tooLarge digits with
    | ok n =>
      obtain ⟨hne, rfl, hle⟩ := Integer.readNat_eq_ok h
      rw [hvalue] at hle
      exact absurd (hout.resolve_left hne) (Nat.not_lt.mpr hle)
    | error e =>
      rw [integerLiteral, h]
      rfl

theorem IsDecimal.isNumber {tok : Token} (h : IsDecimal tok) : IsNumber tok := by
  obtain ⟨whole, fraction, exponent, rfl, hwhole, hfraction, hexponent⟩ := h
  exact .decimal hwhole hfraction hexponent

theorem longest_isDecimal {tok : Token} {rest : List Char} (h : Longest IsNumber tok rest) :
    Longest IsDecimal tok rest :=
  fun more hmore hdecimal => h more hmore hdecimal.isNumber

/--
At a digit a literal is read whole, and exactly or not at all.
-/
theorem number_literal (c : Cursor) {first : Char} (hpeek : c.peek = some first)
    (hfirst : Unicode.isAsciiDigit first = true) : ReadsNumber c (number (H := H) c) := by
  rw [← satisfies_result (ReadsNumber c)]
  apply satisfies_number_cases
  . intro mark digits rest hmark hrest hdigits hnext
    rw [satisfies_result (ReadsNumber c)]
    apply ReadsNumber.hex hmark hrest hdigits hnext
    apply readsInteger_integerLiteral (by decide) hdigits
    exact fun ch hch => Integer.digitValue_of_isHexDigit (hdigits ch hch)
  . intro hnothex
    apply satisfies_number_of_decimal hpeek hfirst hnothex
    . intro digits rest hrest hdigits hlongest
      rw [satisfies_result (ReadsNumber c)]
      apply ReadsNumber.integer hnothex hrest hdigits (longest_isDecimal hlongest)
      apply readsInteger_integerLiteral (by decide)
      . exact fun ch hch => Integer.isHexDigit_of_isAsciiDigit (hdigits.2 ch hch)
      . exact fun ch hch => Integer.digitValue_of_isAsciiDigit (hdigits.2 ch hch)
    . intro whole fraction exponent rest x hrest hwhole hfraction hexponent hparts hlongest hx
      have hnotdigits : ¬ IsDigits Unicode.isAsciiDigit (whole ++ (fraction ++ exponent)) :=
        fun h => hparts (parts_eq_nil_of_isDigits hfraction hexponent h)
      exact .decimal hnothex hrest ⟨whole, fraction, exponent, rfl, hwhole, hfraction, hexponent⟩
        hnotdigits (longest_isDecimal hlongest) hx rfl

theorem number_literal_zeros :
    (Cursor.start "007.abs()".toList 256).peek = some '0' ∧ Unicode.isAsciiDigit '0' = true
      ∧ ReadsNumber (Cursor.start "007.abs()".toList 256)
        (.ok (.const (.int 7 : Value Empty), ⟨".abs()".toList, 3, 0, 256⟩)) :=
  ⟨rfl, rfl, number_literal (H := Empty) (Cursor.start "007.abs()".toList 256) rfl rfl⟩

-- No digit follows the point, and so it is left for a call.
example : number (H := Empty) (Cursor.start "1.e3()".toList 256)
    = .ok (.const (.int 1), ⟨".e3()".toList, 1, 0, 256⟩) := by
  rfl

end Parser

end Stencil
