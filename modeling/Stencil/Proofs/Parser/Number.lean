import Stencil.Proofs.Parser.Layout

/-!
This module contains how numbers are read: digits, then a fraction and an exponent, each as long as it
can be, or hexadecimal digits behind their mark. A number that is laid out in a text is read whole.
-/

namespace Stencil

namespace Integer

theorem le_ofDigits {radix : Nat} (hradix : 0 < radix) (n : Nat) (digits : List Char) :
    n ≤ ofDigits radix n digits := by
  induction digits generalizing n with
  | nil => exact Nat.le_refl n
  | cons c digits ih =>
    have hmul : n ≤ radix * n := Nat.le_mul_of_pos_left n hradix
    have hrest := ih (radix * n + (digitValue c).getD 0)
    rw [ofDigits, List.foldl_cons, ← ofDigits]
    omega

theorem readDigits_ofDigits {radix bound n : Nat} (overflow : ReadError) {digits : List Char}
    (hradix : 0 < radix) (hdigits : ∀ c ∈ digits, ∃ d, digitValue c = some d ∧ d < radix)
    (hle : ofDigits radix n digits ≤ bound) :
    readDigits radix bound overflow n digits = .ok (ofDigits radix n digits) := by
  induction digits generalizing n with
  | nil => rfl
  | cons c digits ih =>
    rw [List.forall_mem_cons] at hdigits
    obtain ⟨⟨d, hd, hlt⟩, hdigits⟩ := hdigits
    have hof : ofDigits radix n (c :: digits) = ofDigits radix (radix * n + d) digits := by
      rw [ofDigits, List.foldl_cons, hd, Option.getD_some, ← ofDigits]
    rw [hof] at hle ⊢
    have hbound := le_ofDigits hradix (radix * n + d) digits
    rw [readDigits, hd]
    dsimp only
    rw [if_neg (by omega), if_neg (by omega)]
    exact ih hdigits hle

theorem readNat_ofDigits {radix bound : Nat} (overflow : ReadError) {digits : List Char}
    (hradix : 0 < radix) (hne : digits ≠ [])
    (hdigits : ∀ c ∈ digits, ∃ d, digitValue c = some d ∧ d < radix)
    (hle : ofDigits radix 0 digits ≤ bound) :
    readNat radix bound overflow digits = .ok (ofDigits radix 0 digits) := by
  rw [readNat]
  . exact readDigits_ofDigits overflow hradix hdigits hle
  . exact hne

theorem digitValue_of_isAsciiDigit {c : Char} (h : Unicode.isAsciiDigit c = true) :
    ∃ d, digitValue c = some d ∧ d < 10 := by
  simp only [Unicode.isAsciiDigit, Bool.and_eq_true, decide_eq_true_eq] at h
  refine ⟨c.toNat - '0'.toNat, by simp [digitValue, h], ?_⟩
  simp only [Symbol.le_iff_toNat_le, Char.reduceToNat] at *
  omega

theorem digitValue_of_isHexDigit {c : Char} (h : Symbol.isHexDigit c = true) :
    ∃ d, digitValue c = some d ∧ d < 16 := by
  unfold digitValue
  simp only [Symbol.isHexDigit, Bool.or_eq_true, Bool.and_eq_true, decide_eq_true_eq,
    Symbol.le_iff_toNat_le, Char.reduceToNat] at *
  split
  . exact ⟨_, rfl, by omega⟩
  . split
    . exact ⟨_, rfl, by omega⟩
    . rw [if_pos (by omega)]
      exact ⟨_, rfl, by omega⟩

end Integer

namespace Decimal

theorem ne_of_isAsciiDigit {digit : Char} (h : Unicode.isAsciiDigit digit = true) :
    digit ≠ '-' ∧ digit ≠ '+' := by
  constructor <;> rintro rfl <;> cases h

theorem exists_exponent? {sign digits : List Char} (hsign : sign ∈ [[], ['+'], ['-']])
    (hdigits : IsDigits Unicode.isAsciiDigit digits) : ∃ n, exponent? (sign ++ digits) = some n := by
  obtain ⟨digit, digits, rfl⟩ := List.exists_cons_of_ne_nil hdigits.1
  have hall : (digit :: digits).all Unicode.isAsciiDigit = true := List.all_eq_true.mpr hdigits.2
  have hne := ne_of_isAsciiDigit (hdigits.2 digit List.mem_cons_self)
  simp only [List.mem_cons, List.not_mem_nil, or_false] at hsign
  rcases hsign with rfl | rfl | rfl <;> simp [exponent?, hall, hne]

theorem exists_readNumber {whole fraction exponent : List Char}
    (hwhole : IsDigits Unicode.isAsciiDigit whole) (hfraction : IsFraction fraction)
    (hexponent : IsExponent exponent) :
    ∃ x, readNumber (whole ++ (fraction ++ exponent)) = some x := by
  have hstop {digits : List Char} (rest : List Char) (hdigits : IsDigits Unicode.isAsciiDigit digits)
      (hnext : ∀ next, rest.head? = some next → next = '.' ∨ next = 'e' ∨ next = 'E') :
      (digits ++ rest).takeWhile Unicode.isAsciiDigit = digits
        ∧ (digits ++ rest).dropWhile Unicode.isAsciiDigit = rest := by
    apply Parser.takeWhile_append_eq hdigits.2
    intro next hhead
    rcases hnext next hhead with rfl | rfl | rfl <;> decide
  have hempty : whole.isEmpty = false := List.isEmpty_eq_false_iff.mpr hwhole.1
  obtain ⟨htake, hdrop⟩ := hstop _ hwhole fun _ => head_fraction_exponent hfraction hexponent
  rw [readNumber, List.span_eq_takeWhile_dropWhile, htake, hdrop]
  rcases hfraction with rfl | ⟨places, rfl, hplaces⟩
  . rcases hexponent with rfl | ⟨mark, sign, digits, rfl, hmark, hsign, hdigits⟩
    . simp [hempty]
    . obtain ⟨n, hn⟩ := exists_exponent? hsign hdigits
      simp only [List.mem_cons, List.not_mem_nil, or_false] at hmark
      rcases hmark with rfl | rfl <;> simp [hempty, hn]
  . obtain ⟨htake', hdrop'⟩ := hstop exponent hplaces fun _ hhead => .inr (hexponent.head hhead)
    rcases hexponent with rfl | ⟨mark, sign, digits, rfl, hmark, hsign, hdigits⟩
    . rw [List.append_nil] at htake' hdrop'
      simp [hempty, htake', hdrop']
    . obtain ⟨n, hn⟩ := exists_exponent? hsign hdigits
      simp only [List.mem_cons, List.not_mem_nil, or_false] at hmark
      rcases hmark with rfl | rfl <;> simp [hempty, hn, htake', hdrop']

theorem exists_read {whole fraction exponent : List Char}
    (hwhole : IsDigits Unicode.isAsciiDigit whole) (hfraction : IsFraction fraction)
    (hexponent : IsExponent exponent) :
    ∃ x, read (whole ++ (fraction ++ exponent)) = .ok x := by
  obtain ⟨x, hx⟩ := exists_readNumber hwhole hfraction hexponent
  obtain ⟨digit, whole, rfl⟩ := List.exists_cons_of_ne_nil hwhole.1
  have hne := ne_of_isAsciiDigit (hwhole.2 digit List.mem_cons_self)
  refine ⟨x, ?_⟩
  rw [List.cons_append] at hx ⊢
  simp [read, hne, hx]

end Decimal

namespace Parser

open Cursor

variable {H : Type} {c : Cursor} {toks : List Token} {d limit : Nat} {bad : ParseError → Prop}

-- The parts of a number

theorem satisfies_fraction {post : List Char → Cursor → Prop}
    (hpost : ∀ part rest, c.rest = part ++ rest → IsFraction part → Longest IsFraction part rest →
      post part (c.after part rest)) :
    Satisfies fraction c post bad := by
  -- There is no fraction unless a digit follows a point.
  have hnone (h : ∀ digit, Unicode.isAsciiDigit digit = true →
      ¬ (c.peek = some '.' ∧ c.peekAt 1 = some digit)) : post [] c := by
    apply hpost [] c.rest rfl (.inl rfl)
    rintro more ⟨rest, hrest⟩ (rfl | ⟨digits, rfl, hne, hdigits⟩)
    . rfl
    . obtain ⟨digit, digits, rfl⟩ := List.exists_cons_of_ne_nil hne
      exfalso
      apply h digit (hdigits digit List.mem_cons_self)
      simp [Cursor.peek, Cursor.peekAt, ← hrest]
  rw [fraction, satisfies_bind, satisfies_peek, satisfies_bind, satisfies_peekAt]
  split
  . next digit hpoint hdigit =>
    rw [satisfies_ite]
    split
    . next hd =>
      obtain ⟨rest, hrest⟩ : ∃ rest, c.rest = '.' :: rest := List.head?_eq_some_iff.mp hpoint
      have hhead : rest.head? = some digit := by
        rw [Cursor.peekAt, hrest] at hdigit
        rw [List.head?_eq_getElem?]
        exact hdigit
      rw [satisfies_bind, satisfies_advance, hrest]
      dsimp only
      rw [satisfies_bind, satisfies_takeWhile, satisfies_pure, after_after]
      apply hpost
      . rw [hrest, List.cons_append]
        exact congrArg _ List.takeWhile_append_dropWhile.symm
      . exact .inr ⟨_, rfl, isDigits_takeWhile hhead hd⟩
      . rintro more hmore (h | ⟨digits, heq, hdigits⟩)
        . cases h
        . cases heq
          exact Longest.isDigits (fun next => head?_dropWhile) more hmore hdigits
    . next hd =>
      apply hnone
      rintro digit' hdigit' ⟨_, h⟩
      rw [hdigit] at h
      cases h
      exact hd hdigit'
  . next hother =>
    apply hnone
    rintro digit _ ⟨hpoint, hdigit⟩
    exact hother digit hpoint hdigit

theorem IsExponent.isAsciiDigit_of_mem_drop {part : List Char} {ch : Char} (h : IsExponent part)
    (hch : ch ∈ part.drop 2) : Unicode.isAsciiDigit ch = true := by
  rcases h with rfl | ⟨mark, sign, digits, rfl, _, hsign, hdigits⟩
  . cases hch
  . apply hdigits.2
    simp only [List.mem_cons, List.not_mem_nil, or_false] at hsign
    rcases hsign with rfl | rfl | rfl
    . exact List.mem_of_mem_drop hch
    . exact hch
    . exact hch

theorem longest_exponent {lead digits rest : List Char} (hlead : lead ≠ [])
    (hdigits : IsDigits Unicode.isAsciiDigit digits)
    (hnext : ∀ next, rest.head? = some next → Unicode.isAsciiDigit next = false) :
    Longest IsExponent (lead ++ digits) rest := by
  apply Longest.of_head
  intro next more hhead hexponent
  have hlength : 2 ≤ (lead ++ digits).length := by
    have := List.length_pos_iff.mpr hlead
    have := List.length_pos_iff.mpr hdigits.1
    rw [List.length_append]
    omega
  have hdigit : Unicode.isAsciiDigit next = true := by
    apply IsExponent.isAsciiDigit_of_mem_drop hexponent
    rw [List.drop_append_of_le_length hlength]
    simp
  rw [hnext next hhead] at hdigit
  cases hdigit

def digitAt (c : Cursor) : Nat :=
  if c.peekAt 1 == some '+' || c.peekAt 1 == some '-' then 2 else 1

theorem sign_of_digitAt {mark digit : Char} {rest : List Char} (hrest : c.rest = mark :: rest)
    (hdigit : c.peekAt (digitAt c) = some digit) :
    ∃ sign rest', rest = sign ++ rest' ∧ sign ∈ [[], ['+'], ['-']]
      ∧ digitAt c = (mark :: sign).length ∧ rest'.head? = some digit := by
  unfold digitAt at *
  split at hdigit
  . next hsign =>
    rw [if_pos hsign]
    cases rest with
    | nil => simp [Cursor.peekAt, hrest] at hdigit
    | cons sign rest =>
      refine ⟨[sign], rest, rfl, ?_, rfl, ?_⟩
      . simpa [Cursor.peekAt, hrest] using hsign
      . rw [List.head?_eq_getElem?]
        simpa [Cursor.peekAt, hrest] using hdigit
  . next hsign =>
    rw [if_neg hsign]
    refine ⟨[], rest, rfl, by simp, rfl, ?_⟩
    rw [List.head?_eq_getElem?]
    simpa [Cursor.peekAt, hrest] using hdigit

theorem peekAt_digitAt {mark digit : Char} {sign rest : List Char}
    (hrest : c.rest = mark :: (sign ++ digit :: rest)) (hsign : sign ∈ [[], ['+'], ['-']])
    (hdigit : Unicode.isAsciiDigit digit = true) : c.peekAt (digitAt c) = some digit := by
  have hne (ch : Char) (h : Unicode.isAsciiDigit ch = false) : digit ≠ ch := by
    rintro rfl
    simp [hdigit] at h
  simp only [List.mem_cons, List.not_mem_nil, or_false] at hsign
  rcases hsign with rfl | rfl | rfl <;>
    simp [digitAt, Cursor.peekAt, hrest, hne '+' (by decide), hne '-' (by decide)]

theorem satisfies_exponent {post : List Char → Cursor → Prop}
    (hpost : ∀ part rest, c.rest = part ++ rest → IsExponent part → Longest IsExponent part rest →
      post part (c.after part rest)) :
    Satisfies exponent c post bad := by
  -- There is no exponent unless a digit follows the mark and the sign.
  have hnone (h : ∀ digit, Unicode.isAsciiDigit digit = true →
      ¬ ((c.peek = some 'e' ∨ c.peek = some 'E') ∧ c.peekAt (digitAt c) = some digit)) :
      post [] c := by
    apply hpost [] c.rest rfl (.inl rfl)
    rintro more ⟨rest, hrest⟩ (rfl | ⟨mark, sign, digits, rfl, hmark, hsign, hne, hdigits⟩)
    . rfl
    . obtain ⟨digit, digits, rfl⟩ := List.exists_cons_of_ne_nil hne
      have hdigit := hdigits digit List.mem_cons_self
      have hrest' : c.rest = mark :: (sign ++ digit :: (digits ++ rest)) := by
        simp [← hrest]
      exfalso
      apply h digit hdigit
      refine ⟨?_, peekAt_digitAt hrest' hsign hdigit⟩
      simpa [Cursor.peek, hrest'] using hmark
  rw [exponent, satisfies_bind, satisfies_peek, satisfies_ite]
  split
  . next hmark =>
    have hmark : c.peek = some 'e' ∨ c.peek = some 'E' := by simpa using hmark
    rw [satisfies_bind, satisfies_peekAt]
    dsimp only
    rw [← digitAt, satisfies_bind, satisfies_peekAt]
    split
    . next digit hdigit =>
      rw [satisfies_ite]
      split
      . next hd =>
        obtain ⟨mark, rest, hrest, hmark⟩ : ∃ mark rest, c.rest = mark :: rest
            ∧ mark ∈ ['e', 'E'] := by
          rcases hmark with h | h <;> obtain ⟨rest, hrest⟩ := List.head?_eq_some_iff.mp h
          . exact ⟨'e', rest, hrest, by simp⟩
          . exact ⟨'E', rest, hrest, by simp⟩
        obtain ⟨sign, rest, rfl, hsign, hdigitAt, hhead⟩ := sign_of_digitAt hrest hdigit
        have hlead : c.rest = (mark :: sign) ++ rest := hrest
        rw [satisfies_bind, satisfies_get, satisfies_bind, hdigitAt, hlead, List.take_left]
        apply satisfies_advanceBy hlead
        rw [satisfies_bind, satisfies_takeWhile, satisfies_pure, after_after]
        apply hpost
        . rw [hlead, List.append_assoc]
          exact congrArg _ List.takeWhile_append_dropWhile.symm
        . exact .inr ⟨mark, sign, _, rfl, hmark, hsign, isDigits_takeWhile hhead hd⟩
        . apply longest_exponent (List.cons_ne_nil mark sign) (isDigits_takeWhile hhead hd)
          exact fun next => head?_dropWhile
      . next hd =>
        apply hnone
        rintro digit' hdigit' ⟨_, h⟩
        rw [hdigit] at h
        cases h
        exact hd hdigit'
    . next hend =>
      apply hnone
      rintro digit' _ ⟨_, h⟩
      rw [hend] at h
      cases h
  . next hmark =>
    apply hnone
    rintro digit' _ ⟨h, _⟩
    apply hmark
    simpa using h

theorem hex_of_peek (h : (c.peek == some '0' && (c.peekAt 1 == some 'x' || c.peekAt 1 == some 'X'))
    = true) : ∃ mark rest, c.rest = ['0', mark] ++ rest ∧ mark ∈ ['x', 'X'] := by
  simp only [Bool.and_eq_true, Bool.or_eq_true, beq_iff_eq] at h
  obtain ⟨hzero, hmark⟩ := h
  obtain ⟨rest, hrest⟩ := List.head?_eq_some_iff.mp hzero
  simp only [Cursor.peekAt, hrest, List.getElem?_cons_succ, ← List.head?_eq_getElem?] at hmark
  rcases hmark with hmark | hmark <;> obtain ⟨rest, rfl⟩ := List.head?_eq_some_iff.mp hmark
  . exact ⟨'x', rest, hrest, by simp⟩
  . exact ⟨'X', rest, hrest, by simp⟩

-- Whole numbers

variable {text tok : List Char} {post : Expr H → Cursor → Prop}

theorem not_hex_of_decimal {whole fraction exponent : List Char}
    (hwhole : IsDigits Unicode.isAsciiDigit whole) (hfraction : IsFraction fraction)
    (hexponent : IsExponent exponent)
    (hnext : ∀ next, text.head? = some next → Symbol.isIdentStart next = false) :
    ∀ mark ∈ ['x', 'X'], ¬ ['0', mark] <+: whole ++ (fraction ++ exponent) ++ text := by
  rintro mark hmark ⟨rest, h⟩
  have hx : Unicode.isAsciiDigit mark = false ∧ mark ≠ '.' ∧ mark ≠ 'e' ∧ mark ≠ 'E'
      ∧ Symbol.isIdentStart mark = true := by
    simp only [List.mem_cons, List.not_mem_nil, or_false] at hmark
    rcases hmark with rfl | rfl <;> decide
  obtain ⟨zero, whole, rfl⟩ := List.exists_cons_of_ne_nil hwhole.1
  rw [List.append_assoc] at h
  cases whole with
  | cons digit whole =>
    obtain rfl : mark = digit := (List.cons.inj (List.cons.inj h).2).1
    have hdigit := hwhole.2 mark (by simp)
    rw [hx.1] at hdigit
    cases hdigit
  | nil =>
    have hbehind : mark :: rest = fraction ++ exponent ++ text := (List.cons.inj h).2
    have hhead : (fraction ++ exponent ++ text).head? = some mark := by
      rw [← hbehind]
      rfl
    rw [List.head?_append, Option.or_eq_some_iff] at hhead
    rcases hhead with hhead | ⟨_, hhead⟩
    . rcases head_fraction_exponent hfraction hexponent hhead with h | h | h
      . exact hx.2.1 h
      . exact hx.2.2.1 h
      . exact hx.2.2.2.1 h
    . have := hnext mark hhead
      rw [hx.2.2.2.2] at this
      cases this

theorem satisfies_number_of_hex {mark : Char} {digits : List Char}
    (hrest : c.rest = '0' :: mark :: digits ++ text) (hmark : mark ∈ ['x', 'X'])
    (hdigits : ∀ ch ∈ digits, Symbol.isHexDigit ch = true)
    (hnext : ∀ next, text.head? = some next → Symbol.isHexDigit next = false)
    (h : Satisfies (integerLiteral c.pos 16 digits ('0' :: 'x' :: digits))
      (c.after ('0' :: mark :: digits) text) post bad) : Satisfies number c post bad := by
  have hpeek : (c.peek == some '0' && (c.peekAt 1 == some 'x' || c.peekAt 1 == some 'X'))
      = true := by
    simpa [Cursor.peek, Cursor.peekAt, hrest] using hmark
  have hlead : c.rest = ['0', mark] ++ (digits ++ text) := by
    simp [hrest]
  obtain ⟨htake, hdrop⟩ := takeWhile_append_eq hdigits hnext
  have hafter : (c.after ['0', mark] (digits ++ text)).rest = digits ++ text := rfl
  rw [number, satisfies_bind, satisfies_position, satisfies_bind, satisfies_peek, satisfies_bind,
    satisfies_peekAt, if_pos hpeek, satisfies_bind]
  apply satisfies_advanceBy hlead
  rw [satisfies_bind, satisfies_takeWhile, hafter, htake, hdrop, after_after]
  exact h

theorem satisfies_number_of_decimal {first : Char} (hpeek : c.peek = some first)
    (hfirst : Unicode.isAsciiDigit first = true)
    (hnothex : ∀ mark ∈ ['x', 'X'], ¬ ['0', mark] <+: c.rest)
    (hinteger : ∀ digits rest, c.rest = digits ++ rest → IsDigits Unicode.isAsciiDigit digits →
      Longest IsNumber digits rest →
        Satisfies (integerLiteral c.pos 10 digits digits) (c.after digits rest) post bad)
    (hdecimal : ∀ whole fraction exponent rest x, c.rest = whole ++ (fraction ++ exponent) ++ rest →
      IsDigits Unicode.isAsciiDigit whole → IsFraction fraction → IsExponent exponent →
      fraction ++ exponent ≠ [] → Longest IsNumber (whole ++ (fraction ++ exponent)) rest →
      Decimal.read (whole ++ (fraction ++ exponent)) = .ok x →
        post (.const (.decimal x)) (c.after (whole ++ (fraction ++ exponent)) rest)) :
    Satisfies number c post bad := by
  have hpeek' : ¬ (c.peek == some '0' && (c.peekAt 1 == some 'x' || c.peekAt 1 == some 'X'))
      = true := by
    intro h
    obtain ⟨mark, rest, heq, hmark⟩ := hex_of_peek h
    exact hnothex mark hmark ⟨rest, heq.symm⟩
  have hwhole : IsDigits Unicode.isAsciiDigit (c.rest.takeWhile Unicode.isAsciiDigit) :=
    isDigits_takeWhile hpeek hfirst
  rw [number, satisfies_bind, satisfies_position, satisfies_bind, satisfies_peek, satisfies_bind,
    satisfies_peekAt, if_neg hpeek', satisfies_bind, satisfies_takeWhile, satisfies_bind]
  apply satisfies_fraction
  intro fraction rest₁ hrest₁ hfraction hlongest₁
  rw [satisfies_bind, after_after]
  apply satisfies_exponent
  intro exponent rest₂ hrest₂ hexponent hlongest₂
  rw [after_after]
  obtain rfl : rest₁ = exponent ++ rest₂ := hrest₂
  obtain ⟨hrest, hmaximal⟩ :=
    longest_decimal_of_dropWhile hwhole hrest₁ hfraction hlongest₁ hlongest₂ hnothex
  generalize c.rest.takeWhile Unicode.isAsciiDigit = whole at *
  dsimp only
  rw [satisfies_ite, List.append_assoc]
  split
  . next hempty =>
    simp only [Bool.and_eq_true, List.isEmpty_iff] at hempty
    obtain ⟨rfl, rfl⟩ := hempty
    simp only [List.append_nil] at *
    exact hinteger whole rest₂ hrest hwhole hmaximal
  . next hparts =>
    obtain ⟨x, hx⟩ := Decimal.exists_read hwhole hfraction hexponent
    rw [hx]
    exact hdecimal whole fraction exponent rest₂ x hrest hwhole hfraction hexponent
      (by simpa using hparts) hmaximal hx

theorem satisfies_number_cases
    (hhex : ∀ mark digits rest, mark ∈ ['x', 'X'] → c.rest = '0' :: mark :: digits ++ rest →
      (∀ ch ∈ digits, Symbol.isHexDigit ch = true) →
      (∀ next, rest.head? = some next → Symbol.isHexDigit next = false) →
        Satisfies (integerLiteral c.pos 16 digits ('0' :: 'x' :: digits))
          (c.after ('0' :: mark :: digits) rest) post bad)
    (hdecimal : (∀ mark ∈ ['x', 'X'], ¬ ['0', mark] <+: c.rest) → Satisfies number c post bad) :
    Satisfies number c post bad := by
  by_cases h : ∃ mark ∈ ['x', 'X'], ['0', mark] <+: c.rest
  . obtain ⟨mark, hmark, rest, hrest⟩ := h
    have hdigits : ∀ ch ∈ rest.takeWhile Symbol.isHexDigit, Symbol.isHexDigit ch = true :=
      fun ch hch => List.mem_takeWhile_imp hch
    have hnext : ∀ next, (rest.dropWhile Symbol.isHexDigit).head? = some next →
        Symbol.isHexDigit next = false := fun next => head?_dropWhile
    have hrest' : c.rest = '0' :: mark :: rest.takeWhile Symbol.isHexDigit
        ++ rest.dropWhile Symbol.isHexDigit := by
      rw [← hrest]
      exact congrArg _ List.takeWhile_append_dropWhile.symm
    exact satisfies_number_of_hex hrest' hmark hdigits hnext (hhex _ _ _ hmark hrest' hdigits hnext)
  . exact hdecimal fun mark hmark hprefix => h ⟨mark, hmark, hprefix⟩

theorem satisfies_integer {start radix : Nat} {digits literal : List Char} (hradix : 0 < radix)
    (hne : digits ≠ [])
    (hdigits : ∀ ch ∈ digits, ∃ n, Integer.digitValue ch = some n ∧ n < radix)
    (hle : Integer.ofDigits radix 0 digits ≤ Integer.greatest)
    (hpost : post (.const (.int (Int64.ofInt (Integer.ofDigits radix 0 digits)))) c) :
    Satisfies (integerLiteral start radix digits literal) c post bad := by
  rw [integerLiteral, Integer.readNat_ofDigits _ hradix hne hdigits hle]
  exact hpost

theorem satisfies_decimal (hrest : c.rest = tok ++ text) (hnumber : IsNumber tok)
    (hlongest : Longest IsNumber tok text)
    (hnothex : ∀ mark ∈ ['x', 'X'], ¬ ['0', mark] <+: c.rest)
    (hinteger : IsDigits Unicode.isAsciiDigit tok →
      Satisfies (integerLiteral c.pos 10 tok tok) (c.after tok text) post bad)
    (hdecimal : ¬ IsDigits Unicode.isAsciiDigit tok → ∀ x, Decimal.read tok = .ok x →
      post (.const (.decimal x)) (c.after tok text)) :
    Satisfies number c post bad := by
  have hsame {tok' rest : List Char} (hrest' : c.rest = tok' ++ rest) (hnumber' : IsNumber tok')
      (hlongest' : Longest IsNumber tok' rest) : tok = tok' ∧ text = rest :=
    hlongest.eq_of_append_eq hlongest' hnumber hnumber' (hrest.symm.trans hrest')
  obtain ⟨first, more, htok, hfirst⟩ := hnumber.exists_digit
  have hpeek : c.peek = some first := by
    rw [Cursor.peek, hrest, htok]
    rfl
  apply satisfies_number_of_decimal hpeek hfirst hnothex
  . intro digits rest hrest' hdigits hlongest'
    obtain ⟨rfl, rfl⟩ := hsame hrest' (isNumber_of_isDigits hdigits) hlongest'
    exact hinteger hdigits
  . intro whole fraction exponent rest x hrest' hwhole hfraction hexponent hparts hlongest' hx
    obtain ⟨rfl, rfl⟩ := hsame hrest' (.decimal hwhole hfraction hexponent) hlongest'
    exact hdecimal (fun h => hparts (parts_eq_nil_of_isDigits hfraction hexponent h)) x hx

theorem satisfies_hex {mark : Char} {digits : List Char}
    (hrest : c.rest = '0' :: mark :: digits ++ text) (hmark : mark ∈ ['x', 'X'])
    (hdigits : IsDigits Symbol.isHexDigit digits)
    (hlongest : Longest IsNumber ('0' :: mark :: digits) text)
    (hle : Integer.ofDigits 16 0 digits ≤ Integer.greatest)
    (hpost : post (.const (.int (Int64.ofInt (Integer.ofDigits 16 0 digits))))
      (c.after ('0' :: mark :: digits) text)) : Satisfies number c post bad := by
  have hnext : ∀ next, text.head? = some next → Symbol.isHexDigit next = false := by
    intro next hnext
    obtain ⟨rest, rfl⟩ := List.head?_eq_some_iff.mp hnext
    rw [Bool.eq_false_iff]
    intro hdigit
    have hnumber : IsNumber ('0' :: mark :: (digits ++ [next])) := by
      refine .hex hmark ⟨by simp, ?_⟩
      rw [List.forall_mem_append]
      exact ⟨hdigits.2, by simpa using hdigit⟩
    have := hlongest [next] ⟨rest, rfl⟩ hnumber
    cases this
  apply satisfies_number_of_hex hrest hmark hdigits.2 hnext
  apply satisfies_integer (by decide) hdigits.1 _ hle hpost
  exact fun ch hch => Integer.digitValue_of_isHexDigit (hdigits.2 ch hch)

theorem before_number {v : Value H} (hv : Lexeme v tok) (hnumber : IsNumber tok)
    (hc : c.At tok toks d limit) (hnext : ¬ Begins (Symbol.isIdentStart · = true) toks)
    (hpost : ∀ c', c'.Before toks d limit → post (.const v) c') : Satisfies number c post bad := by
  obtain ⟨text, hrest, hmaximal, hlaid⟩ := hc.rest_eq
  have hbefore := hc.after hrest
  have hlongest : Longest IsNumber tok text :=
    fun more hmore hmore' => hmaximal more hmore (.inr (.inl hmore'))
  have hstart : ∀ next, text.head? = some next → Symbol.isIdentStart next = false := by
    intro next hhead
    rw [Bool.eq_false_iff]
    intro hstart
    apply hnext
    apply (hlaid.begins hhead (Symbol.isBlank_of_isIdentStart hstart)).mono
    rintro _ rfl
    exact hstart
  obtain ⟨first, more, htok, hfirst⟩ := hnumber.exists_digit
  cases hv with
  | null =>
    cases htok
    cases hfirst
  | bool b => cases b <;> cases htok <;> cases hfirst
  | str hquote _ =>
    cases htok
    simp only [List.mem_cons, List.not_mem_nil, or_false] at hquote
    rcases hquote with rfl | rfl <;> cases hfirst
  | hex hmark hdigits hle =>
    exact satisfies_hex hrest hmark hdigits hlongest hle (hpost _ hbefore)
  | int hdigits hle =>
    have hnothex := not_hex_of_decimal hdigits (.inl rfl) (.inl rfl) hstart
    rw [List.append_nil, List.append_nil, ← hrest] at hnothex
    apply satisfies_decimal hrest hnumber hlongest hnothex
    . intro _
      apply satisfies_integer (by decide) hdigits.1 _ hle (hpost _ hbefore)
      exact fun ch hch => Integer.digitValue_of_isAsciiDigit (hdigits.2 ch hch)
    . exact fun h => absurd hdigits h
  | decimal hwhole hfraction hexponent hparts hread =>
    have hnothex := not_hex_of_decimal hwhole hfraction hexponent hstart
    rw [← hrest] at hnothex
    apply satisfies_decimal hrest hnumber hlongest hnothex
    . exact fun h => absurd (parts_eq_nil_of_isDigits hfraction hexponent h) hparts
    . intro _ x' hread'
      cases hread.symm.trans hread'
      exact hpost _ hbefore

end Parser

end Stencil
