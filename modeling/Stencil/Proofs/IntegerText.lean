import Stencil.Proofs.MethodCall
import Stencil.Proofs.NumberLiteral
import Stencil.Proofs.PrintedInteger
import Stencil.Proofs.TextPosition

/-!
This module contains the proof that integers are written as texts and read from texts without loss.
What is read are decimal digits, any number of them, with a sign in front or without one; a number
that is out of range is refused like any other text.
-/

namespace Stencil

open Outcome

namespace Integer

inductive Spells : List Char → Int → Prop where
  | plain {digits : List Char} : IsDigits Unicode.isAsciiDigit digits →
      Spells digits (positional 10 digits)
  | plus {digits : List Char} : IsDigits Unicode.isAsciiDigit digits →
      Spells ('+' :: digits) (positional 10 digits)
  | minus {digits : List Char} : IsDigits Unicode.isAsciiDigit digits →
      Spells ('-' :: digits) (-positional 10 digits)

section

variable {cs digits : List Char} {z : Int} {n m bound : Nat} {overflow : ReadError}

theorem not_isDigits_cons {c : Char} (h : Unicode.isAsciiDigit c = false) :
    ¬ IsDigits Unicode.isAsciiDigit (c :: digits) := by
  rintro ⟨-, hdigits⟩
  rw [hdigits c List.mem_cons_self] at h
  cases h

theorem spells_minus_iff :
    Spells ('-' :: digits) z
      ↔ IsDigits Unicode.isAsciiDigit digits ∧ z = -positional 10 digits := by
  constructor
  . intro h
    cases h with
    | plain hdigits => exact absurd hdigits (not_isDigits_cons (by decide))
    | minus hdigits => exact ⟨hdigits, rfl⟩
  . rintro ⟨hdigits, rfl⟩
    exact .minus hdigits

theorem spells_plus_iff :
    Spells ('+' :: digits) z
      ↔ IsDigits Unicode.isAsciiDigit digits ∧ z = positional 10 digits := by
  constructor
  . intro h
    cases h with
    | plain hdigits => exact absurd hdigits (not_isDigits_cons (by decide))
    | plus hdigits => exact ⟨hdigits, rfl⟩
  . rintro ⟨hdigits, rfl⟩
    exact .plus hdigits

theorem spells_iff_of_unsigned (hminus : ∀ rest, cs ≠ '-' :: rest)
    (hplus : ∀ rest, cs ≠ '+' :: rest) :
    Spells cs z ↔ IsDigits Unicode.isAsciiDigit cs ∧ z = positional 10 cs := by
  constructor
  . intro h
    cases h with
    | plain hdigits => exact ⟨hdigits, rfl⟩
    | plus => exact absurd rfl (hplus _)
    | minus => exact absurd rfl (hminus _)
  . rintro ⟨hdigits, rfl⟩
    exact .plain hdigits

-- Reading

theorem isAsciiDigit_of_digitValue {c : Char} {d : Nat} (h : digitValue c = some d) (hd : d < 10) :
    Unicode.isAsciiDigit c = true := by
  unfold digitValue at h
  split at h
  . next hc => exact hc
  . split at h
    . simp at h
      omega
    . split at h
      . simp at h
        omega
      . cases h

theorem isAsciiDigit_of_readDigits (h : readDigits 10 bound overflow n cs = .ok m) :
    ∀ c ∈ cs, Unicode.isAsciiDigit c = true := by
  fun_induction readDigits 10 bound overflow n cs with
  | case1 => simp
  | case2 => cases h
  | case3 => cases h
  | case4 => cases h
  | case5 n c cs d hd hradix _ ih =>
    rw [List.forall_mem_cons]
    exact ⟨isAsciiDigit_of_digitValue hd (Nat.not_le.mp hradix), ih h⟩

theorem readNat_eq_ok_iff :
    readNat 10 bound overflow cs = .ok m
      ↔ IsDigits Unicode.isAsciiDigit cs ∧ positional 10 cs = m ∧ m ≤ bound := by
  have hpositional (hdigits : ∀ c ∈ cs, Unicode.isAsciiDigit c = true) :
      ofDigits 10 0 cs = positional 10 cs :=
    ofDigits_eq_positional 10 fun c hc => isHexDigit_of_isAsciiDigit (hdigits c hc)
  constructor
  . intro h
    obtain ⟨hne, hm, hle⟩ := readNat_eq_ok h
    rw [readNat] at h
    . have hdigits := isAsciiDigit_of_readDigits h
      exact ⟨⟨hne, hdigits⟩, by rw [hm, hpositional hdigits], hle⟩
    . exact hne
  . rintro ⟨⟨hne, hdigits⟩, rfl, hle⟩
    rw [← hpositional hdigits] at hle ⊢
    exact readNat_ofDigits overflow (by decide) hne
      (fun c hc => digitValue_of_isAsciiDigit (hdigits c hc)) hle

end

theorem ofInt_eq_iff {z : Int} {n : Int64} (hle : -2 ^ 63 ≤ z) (hlt : z < 2 ^ 63) :
    Int64.ofInt z = n ↔ n.toInt = z := by
  rw [← Int64.toInt_inj, Int64.toInt_ofInt_of_le (by simpa using hle) (by simpa using hlt)]
  exact eq_comm

variable {cs : List Char} {n : Int64}

theorem readNat_minus_iff :
    ((readNat 10 leastMagnitude .tooSmall cs).map fun n => Int64.ofInt (-(n : Int))) = .ok n
      ↔ IsDigits Unicode.isAsciiDigit cs ∧ n.toInt = -positional 10 cs := by
  have hle := n.le_toInt
  simp only [map_eq_ok, bind_pure_eq_ok, readNat_eq_ok_iff]
  constructor
  . rintro ⟨_, ⟨m, ⟨hdigits, rfl, hbound⟩, rfl⟩, hn⟩
    rw [leastMagnitude] at hbound
    exact ⟨hdigits, (ofInt_eq_iff (by omega) (by omega)).mp hn⟩
  . rintro ⟨hdigits, hn⟩
    refine ⟨_, ⟨_, ⟨hdigits, rfl, ?_⟩, rfl⟩, (ofInt_eq_iff (by omega) (by omega)).mpr hn⟩
    rw [leastMagnitude]
    omega

theorem readNat_plus_iff :
    ((readNat 10 greatest .tooLarge cs).map fun n => Int64.ofInt n) = .ok n
      ↔ IsDigits Unicode.isAsciiDigit cs ∧ n.toInt = positional 10 cs := by
  have hlt := n.toInt_lt
  simp only [map_eq_ok, bind_pure_eq_ok, readNat_eq_ok_iff]
  constructor
  . rintro ⟨_, ⟨m, ⟨hdigits, rfl, hbound⟩, rfl⟩, hn⟩
    rw [greatest] at hbound
    exact ⟨hdigits, (ofInt_eq_iff (by omega) (by omega)).mp hn⟩
  . rintro ⟨hdigits, hn⟩
    refine ⟨_, ⟨_, ⟨hdigits, rfl, ?_⟩, rfl⟩, (ofInt_eq_iff (by omega) (by omega)).mpr hn⟩
    rw [greatest]
    omega

theorem read_eq_ok_iff : read cs = .ok n ↔ Spells cs n.toInt := by
  unfold read
  split
  . generalize n.toInt = z
    simp only [reduceCtorEq, false_iff]
    rintro ⟨⟨hne, -⟩⟩
    exact hne rfl
  . rw [readNat_minus_iff, spells_minus_iff]
  . rw [readNat_plus_iff, spells_plus_iff]
  . next hminus hplus =>
    rw [readNat_plus_iff, spells_iff_of_unsigned hminus hplus]

-- Writing

theorem spells_toText (n : Int64) : Spells (toText n).toList n.toInt := by
  have hdigits (k : Nat) : IsDigits Unicode.isAsciiDigit (Nat.toDigits 10 k)
      ∧ positional 10 (Nat.toDigits 10 k) = k := by
    have hread := readNat_toDigits .tooLarge (Nat.le_refl k)
    rw [readNat_eq_ok_iff] at hread
    exact ⟨hread.1, hread.2.1⟩
  obtain ⟨hall, hvalue⟩ := hdigits n.toInt.natAbs
  by_cases hneg : n < 0
  . have hlist : (toText n).toList = '-' :: Nat.toDigits 10 n.toInt.natAbs := by
      simp [toText, hneg]
    rw [hlist, spells_minus_iff, hvalue]
    rw [Int64.lt_iff_toInt_lt, Int64.toInt_zero] at hneg
    exact ⟨hall, by omega⟩
  . have hnonneg := Int64.not_lt.mp hneg
    have hspells := Spells.plain hall
    rw [hvalue] at hspells
    rw [toText_of_nonneg hnonneg]
    rw [Int64.le_iff_toInt_le, Int64.toInt_zero] at hnonneg
    rwa [Int.natAbs_of_nonneg hnonneg] at hspells

theorem Spells.isBlank_eq_false {z : Int} {c : Char} (h : Spells cs z)
    (hc : c ∈ cs) : Unicode.isBlank c = false := by
  have hdigit {digits : List Char} (h : IsDigits Unicode.isAsciiDigit digits) (hc : c ∈ digits) :
      Unicode.isBlank c = false :=
    Symbol.isBlank_of_isAsciiDigit (h.2 c hc)
  cases h with
  | plain hdigits => exact hdigit hdigits hc
  | plus hdigits | minus hdigits =>
    obtain rfl | hc := List.mem_cons.mp hc
    . decide
    . exact hdigit hdigits hc

end Integer

namespace Classes

variable {H : Type}

theorem readInteger_eq_ok_iff {method s : String} {v : Value H} :
    readInteger method s = .ok v
      ↔ ∃ n : Int64, v = .int n ∧ Integer.Spells (Text.trim s.toList) n.toInt := by
  simp only [← Integer.read_eq_ok_iff, readInteger]
  cases Integer.read (Text.trim s.toList) with
  | error cause => simp
  | ok n => simp [eq_comm]

theorem readInteger_of_not_spells {s : String} (method : String)
    (h : ¬ ∃ n : Int64, Integer.Spells (Text.trim s.toList) n.toInt) :
    ∃ cause, (readInteger method s : Eval (Value H))
      = .error (.unreadable method s (.integer cause)) := by
  simp only [← Integer.read_eq_ok_iff] at h
  rw [readInteger]
  cases hread : Integer.read (Text.trim s.toList) with
  | error cause => exact ⟨cause, rfl⟩
  | ok n => exact absurd ⟨n, hread⟩ h

theorem readInteger_padded (method : String) {n : Int64} {before text after : String}
    (hbefore : Blank before.toList) (hafter : Blank after.toList)
    (htext : Integer.Spells text.toList n.toInt) :
    readInteger method (before ++ text ++ after) = .ok (.int n : Value H) := by
  rw [readInteger_eq_ok_iff]
  refine ⟨n, rfl, ?_⟩
  rw [String.toList_append, String.toList_append,
    Text.trim, Text.trimBy_padded hbefore hafter fun c hc => htext.isBlank_eq_false hc]
  exact htext

variable [HostObject H] {now : Int64}

def integerReaders : List (String × String) :=
  [("Integer", "parseInt"), ("Integer", "valueOf"), ("Long", "parseInt"), ("Long", "parseLong"),
   ("Long", "valueOf")]

def integerTexts (now n : Int64) : List (Eval (Value H)) :=
  [(Value.int n).call "toString" [], call now "Objects" "toString" [.int n],
   call now "String" "valueOf" [.int n], Value.applyBinary .add (.int n) (.str ""),
   Value.applyBinary .add (.str "") (.int n), (Value.str "").call "concat" [.int n]]

theorem call_integerReader {className method : String} (h : (className, method) ∈ integerReaders)
    (s : String) : call now className method [(.str s : Value H)] = readInteger method s := by
  simp only [integerReaders, List.mem_cons, Prod.mk.injEq, List.not_mem_nil, or_false] at h
  rcases h with ⟨rfl, rfl⟩ | ⟨rfl, rfl⟩ | ⟨rfl, rfl⟩ | ⟨rfl, rfl⟩ | ⟨rfl, rfl⟩ <;> rfl

theorem eq_of_mem_integerTexts {n : Int64} {r : Eval (Value H)} (h : r ∈ integerTexts now n) :
    r = .ok (.str (Value.int n : Value H).toText) := by
  have hleft : Value.applyBinary .add (.int n : Value H) (.str "") = .ok (.str (Integer.toText n ++ "")) :=
    rfl
  have hright : Value.applyBinary .add (.str "" : Value H) (.int n) = .ok (.str ("" ++ Integer.toText n)) :=
    rfl
  have hconcat := Value.call_concat "" (.int n : Value H)
  rw [String.append_empty] at hleft
  rw [String.empty_append] at hright hconcat
  simp only [integerTexts, hleft, hright, hconcat, List.mem_cons, List.not_mem_nil, or_false] at h
  rcases h with rfl | rfl | rfl | rfl | rfl | rfl <;> rfl

/--
Every integer is read back from the text that it is written as, with blanks around it or without. Of
all texts, those are read that spell an integer in range when they are trimmed; the rest is an error
that tells the method and the text.
-/
theorem integers_exact_as_texts (now : Int64) {className method : String}
    (h : (className, method) ∈ integerReaders) :
    (∀ n : Int64,
        (∀ r ∈ (integerTexts now n : List (Eval (Value H))), r = .ok (.str (Value.int n : Value H).toText))
        ∧ ∀ before after : String, Blank before.toList → Blank after.toList →
          call now className method [.str (before ++ (Value.int n : Value H).toText ++ after)]
            = .ok (.int n : Value H))
      ∧ ∀ s : String,
        (∀ v : Value H, call now className method [.str s] = .ok v
          ↔ ∃ n : Int64, v = .int n ∧ Integer.Spells (Text.trim s.toList) n.toInt)
        ∧ ((¬ ∃ n : Int64, Integer.Spells (Text.trim s.toList) n.toInt) →
          ∃ cause, call now className method [(.str s : Value H)]
            = .error (.unreadable method s (.integer cause))) := by
  simp only [call_integerReader h]
  refine ⟨fun n => ⟨?_, ?_⟩, fun s => ⟨?_, ?_⟩⟩
  . intro r hr
    exact eq_of_mem_integerTexts hr
  . intro before after hbefore hafter
    exact readInteger_padded method hbefore hafter (Integer.spells_toText n)
  . intro v
    exact readInteger_eq_ok_iff
  . exact readInteger_of_not_spells method

theorem integers_exact_as_texts_ends :
    ("Long", "parseLong") ∈ integerReaders
      ∧ call 0 "Long" "parseLong" [.str "\u3000\t-9223372036854775808\n"]
        = .ok (.int Int64.minValue : Value Empty)
      ∧ ∃ cause, call 0 "Long" "parseLong" [(.str "+009223372036854775808" : Value Empty)]
        = .error (.unreadable "parseLong" "+009223372036854775808" (.integer cause)) := by
  have hmem : ("Long", "parseLong") ∈ integerReaders := by decide
  have hbefore : Blank "\u3000\t".toList := List.all_eq_true.mp rfl
  have hafter : Blank "\n".toList := List.all_eq_true.mp rfl
  obtain ⟨hread, hall⟩ := integers_exact_as_texts (H := Empty) 0 hmem
  refine ⟨hmem, ?_, ?_⟩
  . exact (hread Int64.minValue).2 _ _ hbefore hafter
  . refine (hall "+009223372036854775808").2 ?_
    rintro ⟨n, h⟩
    rw [show Text.trim "+009223372036854775808".toList = '+' :: "009223372036854775808".toList from rfl,
      Integer.spells_plus_iff] at h
    have hlt := n.toInt_lt
    have hvalue : Integer.positional 10 "009223372036854775808".toList = 2 ^ 63 := by decide
    omega

end Classes

end Stencil
