import Mathlib.Data.List.TakeWhile
import Stencil.Proofs.Parser.Lexeme

/-!
This module contains the proof that tokens are cut where they end: what the first character of a
word says about the word, and that what numbers and operators could go on with is not left behind
them.
-/

namespace Stencil

theorem Longest.of_head {kind : Token → Prop} {tok : Token} {text : List Char}
    (h : ∀ next more, text.head? = some next → ¬ kind (tok ++ next :: more)) :
    Longest kind tok text := by
  intro more hmore hkind
  cases more with
  | nil => rfl
  | cons next more =>
    obtain ⟨rest, rfl⟩ := hmore
    exact absurd hkind (h next more rfl)

theorem longest_nil {kind : Token → Prop} {tok : Token} : Longest kind tok [] := by
  intro more hmore _
  exact List.prefix_nil.mp hmore

theorem Longest.unique {kind : Token → Prop} {tok tok' text rest rest' : List Char}
    (h : Longest kind tok text) (hrest : rest <+: text) (hkind : kind tok')
    (heq : tok ++ rest = tok' ++ rest') (hhead : ∀ ch ∈ tok, rest'.head? ≠ some ch) :
    tok' = tok ∧ rest' = rest := by
  -- Two ways to divide a text are the same if the first part of one is as long as it can be, and
  -- the second part of the other begins with a character that this first part does not have.
  rcases List.append_eq_append_iff.mp heq with ⟨more, rfl, rfl⟩ | ⟨more, rfl, rfl⟩
  . obtain rfl := h more ((List.prefix_append more rest').trans hrest) hkind
    simp
  . cases more with
    | nil => simp
    | cons next more => exact absurd rfl (hhead next (by simp))

theorem Longest.eq_of_append_eq {kind : Token → Prop} {tok tok' rest rest' : List Char}
    (h : Longest kind tok rest) (h' : Longest kind tok' rest') (hkind : kind tok)
    (hkind' : kind tok') (heq : tok ++ rest = tok' ++ rest') : tok = tok' ∧ rest = rest' := by
  rcases List.append_eq_append_iff.mp heq with ⟨more, rfl, rfl⟩ | ⟨more, rfl, rfl⟩
  . obtain rfl := h more (List.prefix_append more rest') hkind'
    simp
  . obtain rfl := h' more (List.prefix_append more rest) hkind
    simp

theorem isDigits_takeWhile {p : Char → Bool} {text : List Char} {first : Char}
    (h : text.head? = some first) (hfirst : p first = true) : IsDigits p (text.takeWhile p) := by
  obtain ⟨rest, rfl⟩ := List.head?_eq_some_iff.mp h
  refine ⟨by simp [hfirst], fun c hc => List.mem_takeWhile_imp hc⟩

theorem head?_dropWhile {p : Char → Bool} {text : List Char} {next : Char}
    (h : (text.dropWhile p).head? = some next) : p next = false := by
  have := List.head?_dropWhile_not p text
  rw [h] at this
  simpa using this

-- What kind of word a token is can be seen at its first character.

theorem IsNumber.exists_digit {tok : Token} (h : IsNumber tok) :
    ∃ first rest, tok = first :: rest ∧ Unicode.isAsciiDigit first = true := by
  cases h with
  | hex _ _ => exact ⟨'0', _, rfl, by decide⟩
  | decimal hwhole _ _ =>
    obtain ⟨first, rest, rfl⟩ := List.exists_cons_of_ne_nil hwhole.1
    exact ⟨first, _, rfl, hwhole.2 first List.mem_cons_self⟩

theorem isNumber_of_isDigits {tok : Token} (h : IsDigits Unicode.isAsciiDigit tok) : IsNumber tok := by
  have hnumber := IsNumber.decimal h (.inl rfl) (.inl rfl)
  rwa [List.append_nil, List.append_nil] at hnumber

def signs : List Char :=
  ['+', '-', '*', '/', '%', '!', '^', '&', '|', '<', '>', '=']

theorem IsOperator.exists_sign {tok : Token} (h : IsOperator tok) :
    ∃ first rest, tok = first :: rest ∧ first ∈ signs := by
  rcases h with ⟨op, rfl⟩ | ⟨op, rfl⟩ <;> cases op <;> exact ⟨_, _, rfl, by decide⟩

theorem properties_of_mem_signs {ch : Char} (h : ch ∈ signs) :
    Symbol.isIdentStart ch = false ∧ Unicode.isAsciiDigit ch = false := by
  have hall : signs.all (fun ch => !Symbol.isIdentStart ch && !Unicode.isAsciiDigit ch) = true := by
    decide
  simpa using List.all_eq_true.mp hall ch h

namespace Token

variable {first : Char} {tok text : List Char}

theorem IsWord.cases_head (h : IsWord (first :: tok)) :
    (IsName (first :: tok) ∧ Symbol.isIdentStart first = true)
      ∨ (IsNumber (first :: tok) ∧ Unicode.isAsciiDigit first = true)
      ∨ (IsOperator (first :: tok) ∧ first ∈ signs) := by
  rcases h with h | h | h
  . have ⟨_, _, heq, hfirst, _⟩ := h
    cases heq
    exact .inl ⟨h, hfirst⟩
  . have ⟨_, _, heq, hfirst⟩ := h.exists_digit
    cases heq
    exact .inr (.inl ⟨h, hfirst⟩)
  . have ⟨_, _, heq, hfirst⟩ := h.exists_sign
    cases heq
    exact .inr (.inr ⟨h, hfirst⟩)

theorem IsWord.isName (h : IsWord (first :: tok)) (hfirst : Symbol.isIdentStart first = true) :
    IsName (first :: tok) := by
  rcases h.cases_head with ⟨h, _⟩ | ⟨_, hdigit⟩ | ⟨_, hsign⟩
  . exact h
  . simp [Symbol.isIdentStart_of_isAsciiDigit hdigit] at hfirst
  . simp [(properties_of_mem_signs hsign).1] at hfirst

theorem IsWord.isNumber (h : IsWord (first :: tok)) (hfirst : Unicode.isAsciiDigit first = true) :
    IsNumber (first :: tok) := by
  rcases h.cases_head with ⟨_, hstart⟩ | ⟨h, _⟩ | ⟨_, hsign⟩
  . simp [Symbol.isIdentStart_of_isAsciiDigit hfirst] at hstart
  . exact h
  . simp [(properties_of_mem_signs hsign).2] at hfirst

theorem IsWord.isOperator (h : IsWord (first :: tok)) (hfirst : first ∈ signs) :
    IsOperator (first :: tok) := by
  rcases h.cases_head with ⟨_, hstart⟩ | ⟨_, hdigit⟩ | ⟨h, _⟩
  . simp [(properties_of_mem_signs hfirst).1] at hstart
  . simp [(properties_of_mem_signs hfirst).2] at hdigit
  . exact h

theorem maximal_of_head (hstart : Symbol.isIdentStart first = false)
    (hdigit : Unicode.isAsciiDigit first = false) (hsign : first ∉ signs) (text : List Char) :
    Maximal (first :: tok) text := by
  intro more _ h
  rcases IsWord.cases_head h with ⟨_, h⟩ | ⟨_, h⟩ | ⟨_, h⟩
  . simp [hstart] at h
  . simp [hdigit] at h
  . exact absurd h hsign

theorem maximal_of_isName (h : IsName tok)
    (hnext : ∀ next, text.head? = some next → Symbol.isIdentContinue next = false) :
    Maximal tok text := by
  apply Longest.of_head
  intro next more hhead hword
  obtain ⟨first, tok, rfl, hfirst, _⟩ := h
  obtain ⟨_, _, heq, _, hcontinue⟩ := IsWord.isName hword hfirst
  cases heq
  have hnext := hnext next hhead
  rw [hcontinue next (by simp)] at hnext
  cases hnext

theorem maximal_of_isNumber (h : IsNumber tok) (hlongest : Longest IsNumber tok text) :
    Maximal tok text := by
  intro more hmore hword
  obtain ⟨first, tok, rfl, hfirst⟩ := h.exists_digit
  exact hlongest more hmore (IsWord.isNumber hword hfirst)

theorem maximal_of_isOperator (h : IsOperator tok) (hlongest : Longest IsOperator tok text) :
    Maximal tok text := by
  intro more hmore hword
  obtain ⟨first, tok, rfl, hfirst⟩ := h.exists_sign
  exact hlongest more hmore (IsWord.isOperator hword hfirst)

end Token

theorem IsName.next_of_maximal {tok text : List Char} (h : IsName tok)
    (hmaximal : Token.Maximal tok text) {next : Char} (hnext : text.head? = some next) :
    Symbol.isIdentContinue next = false := by
  rw [Bool.eq_false_iff]
  intro hcontinue
  obtain ⟨rest, rfl⟩ := List.head?_eq_some_iff.mp hnext
  obtain ⟨first, more, rfl, hfirst, hmore⟩ := h
  have hname : IsName (first :: more ++ [next]) := by
    refine ⟨first, more ++ [next], rfl, hfirst, ?_⟩
    rw [List.forall_mem_append]
    exact ⟨hmore, by simpa using hcontinue⟩
  have := hmaximal [next] ⟨rest, rfl⟩ (.inl hname)
  cases this

-- Words are made of letters, digits, points and signs.

def IsWordChar (ch : Char) : Prop :=
  Symbol.isIdentContinue ch = true ∨ ch = '.' ∨ ch ∈ signs

instance : DecidablePred IsWordChar :=
  fun ch => inferInstanceAs (Decidable (Symbol.isIdentContinue ch = true ∨ ch = '.' ∨ ch ∈ signs))

theorem IsWordChar.isBlank_eq_false {ch : Char} (h : IsWordChar ch) : Unicode.isBlank ch = false := by
  rcases h with h | rfl | h
  . exact Symbol.isBlank_of_isIdentContinue h
  . decide
  . have hall : signs.all (!Unicode.isBlank ·) = true := by
      decide
    simpa using List.all_eq_true.mp hall ch h

variable {tok : Token}

theorem IsName.isWordChar (h : IsName tok) : ∀ ch ∈ tok, IsWordChar ch := by
  obtain ⟨first, rest, rfl, hfirst, hrest⟩ := h
  rw [List.forall_mem_cons]
  exact ⟨.inl (Symbol.isIdentContinue_of_isIdentStart hfirst), fun ch hch => .inl (hrest ch hch)⟩

theorem IsNumber.isWordChar (h : IsNumber tok) : ∀ ch ∈ tok, IsWordChar ch := by
  have hdecimal {digits : List Char} (h : IsDigits Unicode.isAsciiDigit digits) :
      ∀ ch ∈ digits, IsWordChar ch :=
    fun ch hch => .inl (Symbol.isIdentContinue_of_isAsciiDigit (h.2 ch hch))
  have hmark : ∀ mark ∈ ['x', 'X', 'e', 'E'], IsWordChar mark := by
    have hall : ['x', 'X', 'e', 'E'].all Symbol.isIdentContinue = true := by
      decide
    exact fun mark hmark => .inl (List.all_eq_true.mp hall mark hmark)
  cases h with
  | hex hx hdigits =>
    rw [List.forall_mem_cons, List.forall_mem_cons]
    refine ⟨.inl (by decide), hmark _ (List.mem_append_left _ hx), ?_⟩
    exact fun ch hch => .inl (Symbol.isIdentContinue_of_isHexDigit (hdigits.2 ch hch))
  | decimal hwhole hfraction hexponent =>
    rw [List.forall_mem_append, List.forall_mem_append]
    refine ⟨hdecimal hwhole, ?_, ?_⟩
    . rcases hfraction with rfl | ⟨digits, rfl, hdigits⟩
      . simp
      . exact List.forall_mem_cons.mpr ⟨.inr (.inl rfl), hdecimal hdigits⟩
    . rcases hexponent with rfl | ⟨mark, sign, digits, rfl, he, hsign, hdigits⟩
      . simp
      . rw [List.forall_mem_cons, List.forall_mem_append]
        refine ⟨hmark _ (List.mem_append_right ['x', 'X'] he), ?_, hdecimal hdigits⟩
        simp only [List.mem_cons, List.not_mem_nil, or_false] at hsign
        rcases hsign with rfl | rfl | rfl
        . simp
        . exact List.forall_mem_singleton.mpr (.inr (.inr (by decide)))
        . exact List.forall_mem_singleton.mpr (.inr (.inr (by decide)))

theorem IsOperator.mem_signs (h : IsOperator tok) : ∀ ch ∈ tok, ch ∈ signs := by
  rcases h with ⟨op, rfl⟩ | ⟨op, rfl⟩
  . have hall : op.symbol.toList.all signs.contains = true := by
      cases op <;> decide
    simpa using hall
  . have hall : op.symbol.toList.all signs.contains = true := by
      cases op <;> decide
    simpa using hall

namespace Token

theorem IsWord.isWordChar (h : IsWord tok) : ∀ ch ∈ tok, IsWordChar ch := by
  rcases h with h | h | h
  . exact h.isWordChar
  . exact h.isWordChar
  . exact fun ch hch => .inr (.inr (h.mem_signs ch hch))

theorem maximal_of_not_isWordChar (tok : Token) {ch : Char} (h : ¬ IsWordChar ch)
    (rest : List Char) : tok.Maximal (ch :: rest) := by
  apply Longest.of_head
  rintro _ more ⟨⟩ hword
  exact h (hword.isWordChar ch (by simp))

theorem not_isWordChar_of_isBlank {ch : Char} (h : Unicode.isBlank ch = true) : ¬ IsWordChar ch := by
  intro hch
  rw [hch.isBlank_eq_false] at h
  cases h

end Token

-- Numbers

theorem Longest.isDigits {p : Char → Bool} {tok text : List Char}
    (h : ∀ next, text.head? = some next → p next = false) : Longest (IsDigits p) tok text := by
  apply Longest.of_head
  intro next more hhead hdigits
  have := hdigits.2 next (by simp)
  rw [h next hhead] at this
  cases this

theorem IsFraction.head {text : List Char} {first : Char} (h : IsFraction text)
    (hfirst : text.head? = some first) : first = '.' := by
  rcases h with rfl | ⟨digits, rfl, _⟩
  . cases hfirst
  . exact (Option.some.inj hfirst).symm

theorem IsExponent.head {text : List Char} {first : Char} (h : IsExponent text)
    (hfirst : text.head? = some first) : first = 'e' ∨ first = 'E' := by
  rcases h with rfl | ⟨mark, sign, digits, rfl, hmark, _⟩
  . cases hfirst
  . obtain rfl : mark = first := Option.some.inj hfirst
    simpa using hmark

theorem head_fraction_exponent {fraction exponent : List Char} {first : Char}
    (hfraction : IsFraction fraction) (hexponent : IsExponent exponent)
    (hfirst : (fraction ++ exponent).head? = some first) :
    first = '.' ∨ first = 'e' ∨ first = 'E' := by
  rw [List.head?_append, Option.or_eq_some_iff] at hfirst
  rcases hfirst with hfirst | ⟨_, hfirst⟩
  . exact .inl (hfraction.head hfirst)
  . exact .inr (hexponent.head hfirst)

theorem parts_eq_nil_of_isDigits {whole fraction exponent : List Char} (hfraction : IsFraction fraction)
    (hexponent : IsExponent exponent)
    (h : IsDigits Unicode.isAsciiDigit (whole ++ (fraction ++ exponent))) :
    fraction ++ exponent = [] := by
  cases hparts : fraction ++ exponent with
  | nil => rfl
  | cons first rest =>
    -- The mark of a part is no digit.
    have hdigit := h.2 first (by simp [hparts])
    have hhead : (fraction ++ exponent).head? = some first := by
      rw [hparts]
      rfl
    rcases head_fraction_exponent hfraction hexponent hhead with rfl | rfl | rfl <;>
      exact absurd hdigit (by decide)

theorem longest_hex {mark : Char} {digits text : List Char} (hmark : mark ∈ ['x', 'X'])
    (hlongest : Longest (IsDigits Symbol.isHexDigit) digits text) :
    Longest IsNumber ('0' :: mark :: digits) text := by
  intro more hmore hnumber
  generalize htok : '0' :: mark :: digits ++ more = tok at hnumber
  cases hnumber with
  | hex _ hdigits =>
    cases htok
    exact hlongest more hmore hdigits
  | @decimal whole fraction exponent hwhole hfraction hexponent =>
    -- A decimal number does not go on with the mark.
    exfalso
    have hx : Unicode.isAsciiDigit mark = false ∧ mark ≠ '.' ∧ mark ≠ 'e' ∧ mark ≠ 'E' := by
      simp only [List.mem_cons, List.not_mem_nil, or_false] at hmark
      rcases hmark with rfl | rfl <;> decide
    obtain ⟨zero, whole, rfl⟩ := List.exists_cons_of_ne_nil hwhole.1
    cases whole with
    | nil =>
      have hhead : (fraction ++ exponent).head? = some mark := by
        have htok' : mark :: (digits ++ more) = fraction ++ exponent := (List.cons.inj htok).2
        rw [← htok', List.head?_cons]
      rcases head_fraction_exponent hfraction hexponent hhead with h | h | h
      . exact hx.2.1 h
      . exact hx.2.2.1 h
      . exact hx.2.2.2 h
    | cons digit whole =>
      obtain rfl : mark = digit := (List.cons.inj (List.cons.inj htok).2).1
      have hdigit := hwhole.2 mark (by simp)
      rw [hx.1] at hdigit
      cases hdigit

theorem longest_decimal {whole fraction exponent text : List Char}
    (hwhole : IsDigits Unicode.isAsciiDigit whole) (hfraction : IsFraction fraction)
    (hlongest : Longest (IsDigits Unicode.isAsciiDigit) whole (fraction ++ (exponent ++ text)))
    (hlongest' : Longest IsFraction fraction (exponent ++ text))
    (hlongest'' : Longest IsExponent exponent text)
    (hhex : ∀ mark ∈ ['x', 'X'],
      ¬ ['0', mark] <+: whole ++ (fraction ++ (exponent ++ text))) :
    Longest IsNumber (whole ++ (fraction ++ exponent)) text := by
  intro more hmore hnumber
  have hmore' : exponent ++ more <+: exponent ++ text := List.prefix_append_right_inj _ |>.mpr hmore
  have hmore'' : fraction ++ (exponent ++ more) <+: fraction ++ (exponent ++ text) :=
    List.prefix_append_right_inj _ |>.mpr hmore'
  generalize htok : whole ++ (fraction ++ exponent) ++ more = tok at hnumber
  simp only [List.append_assoc] at htok
  cases hnumber with
  | @hex mark digits hmark _ =>
    exfalso
    apply hhex mark hmark
    have hprefix : ['0', mark] <+: whole ++ (fraction ++ (exponent ++ more)) := by
      rw [htok]
      exact List.prefix_append ['0', mark] digits
    exact hprefix.trans (List.prefix_append_right_inj _ |>.mpr hmore'')
  | @decimal whole' fraction' exponent' hwhole' hfraction' hexponent' =>
    -- The parts are the same one after the other, and nothing is left for `more`.
    have hhead : ∀ ch ∈ whole, (fraction' ++ exponent').head? ≠ some ch := by
      intro ch hch hhead
      have hdigit := hwhole.2 ch hch
      rcases head_fraction_exponent hfraction' hexponent' hhead with rfl | rfl | rfl <;>
        exact absurd hdigit (by decide)
    obtain ⟨rfl, hbehind⟩ := hlongest.unique hmore'' hwhole' htok hhead
    have hhead' : ∀ ch ∈ fraction, exponent'.head? ≠ some ch := by
      intro ch hch hhead
      have hmark : ch = 'e' ∨ ch = 'E' := hexponent'.head hhead
      rcases hfraction with rfl | ⟨digits, rfl, hdigits⟩
      . cases hch
      . rw [List.mem_cons] at hch
        rcases hch with rfl | hch
        . simp at hmark
        . have hdigit := hdigits.2 ch hch
          rcases hmark with rfl | rfl <;> exact absurd hdigit (by decide)
    obtain ⟨rfl, hbehind'⟩ := hlongest'.unique hmore' hfraction' hbehind.symm hhead'
    rw [hbehind'] at hexponent'
    exact hlongest'' more hmore hexponent'

theorem longest_decimal_of_dropWhile {text fraction exponent rest : List Char}
    (hwhole : IsDigits Unicode.isAsciiDigit (text.takeWhile Unicode.isAsciiDigit))
    (hrest : text.dropWhile Unicode.isAsciiDigit = fraction ++ (exponent ++ rest))
    (hfraction : IsFraction fraction) (hlongest : Longest IsFraction fraction (exponent ++ rest))
    (hlongest' : Longest IsExponent exponent rest)
    (hhex : ∀ mark ∈ ['x', 'X'], ¬ ['0', mark] <+: text) :
    text = text.takeWhile Unicode.isAsciiDigit ++ (fraction ++ exponent) ++ rest
      ∧ Longest IsNumber (text.takeWhile Unicode.isAsciiDigit ++ (fraction ++ exponent)) rest := by
  have htext : text.takeWhile Unicode.isAsciiDigit ++ (fraction ++ (exponent ++ rest)) = text := by
    rw [← hrest, List.takeWhile_append_dropWhile]
  constructor
  . rw [List.append_assoc, List.append_assoc, htext]
  . apply longest_decimal hwhole hfraction _ hlongest hlongest'
    . rw [htext]
      exact hhex
    . rw [← hrest]
      exact Longest.isDigits fun next => head?_dropWhile

-- A sign in a number stands behind the mark of an exponent, where no number ends.

def IsDecimalChar (ch : Char) : Prop :=
  Unicode.isAsciiDigit ch = true ∨ ch = '.'

theorem IsDigits.isAsciiDigit_last {digits : List Char} (h : IsDigits Unicode.isAsciiDigit digits)
    {front text : List Char} {last : Char} (heq : front ++ digits = text ++ [last]) :
    Unicode.isAsciiDigit last = true := by
  have hlast := congrArg List.getLast? heq
  rw [List.getLast?_append_of_ne_nil front h.1, List.getLast?_concat] at hlast
  exact h.2 last (List.mem_of_getLast? hlast)

theorem not_isNumber_of_mark {front : List Char} {mark : Char}
    (hfront : ∀ ch ∈ front, IsDecimalChar ch) (hmark : mark ∈ ['e', 'E']) :
    ¬ IsNumber (front ++ [mark]) := by
  have hdigit : Unicode.isAsciiDigit mark = false := by
    simp only [List.mem_cons, List.not_mem_nil, or_false] at hmark
    rcases hmark with rfl | rfl <;> decide
  have hlast {digits : List Char} (text : List Char) (h : IsDigits Unicode.isAsciiDigit digits)
      (heq : text ++ digits = front ++ [mark]) : False := by
    rw [h.isAsciiDigit_last heq] at hdigit
    cases hdigit
  intro h
  generalize htok : front ++ [mark] = tok at h
  cases h with
  | @hex x digits hx _ =>
    have hmem : x ∈ front ++ [mark] := by
      rw [htok]
      simp
    have hnot : ¬ (Unicode.isAsciiDigit x = true ∨ x = '.' ∨ x ∈ ['e', 'E']) := by
      simp only [List.mem_cons, List.not_mem_nil, or_false] at hx
      rcases hx with rfl | rfl <;> decide
    rw [List.mem_append, List.mem_singleton] at hmem
    rcases hmem with hmem | rfl
    . exact hnot ((hfront x hmem).imp_right .inl)
    . exact hnot (.inr (.inr hmark))
  | decimal hwhole hfraction hexponent =>
    rcases hexponent with rfl | ⟨mark', sign, digits, rfl, _, _, hdigits⟩
    . rcases hfraction with rfl | ⟨digits, rfl, hdigits⟩
      . exact hlast [] hwhole (by simpa using htok.symm)
      . exact hlast (_ ++ ['.']) hdigits (by simpa using htok.symm)
    . exact hlast (_ ++ (_ ++ mark' :: sign)) hdigits (by simpa using htok.symm)

theorem IsNumber.exists_mark {before behind : List Char} {sign : Char}
    (h : IsNumber (before ++ sign :: behind)) (hsign : sign ∈ signs) :
    ∃ front mark, before = front ++ [mark] ∧ mark ∈ ['e', 'E'] ∧ ∀ ch ∈ front, IsDecimalChar ch := by
  have hall : signs.all (fun ch => !Unicode.isAsciiDigit ch && !Symbol.isHexDigit ch
      && !(['x', 'X', '.', 'e', 'E'].contains ch)) = true := by
    decide
  have hnot : (Unicode.isAsciiDigit sign = false ∧ Symbol.isHexDigit sign = false)
      ∧ sign ∉ ['x', 'X', '.', 'e', 'E'] := by
    simpa using List.all_eq_true.mp hall sign hsign
  generalize htok : before ++ sign :: behind = tok at h
  have hmem : sign ∈ tok := by
    rw [← htok]
    simp
  cases h with
  | hex hmark hdigits =>
    exfalso
    rw [List.mem_cons, List.mem_cons] at hmem
    rcases hmem with rfl | rfl | hmem
    . exact absurd hnot.1.1 (by decide)
    . exact hnot.2 (List.mem_append_left ['.', 'e', 'E'] hmark)
    . simp [hdigits.2 sign hmem] at hnot
  | @decimal whole fraction exponent hwhole hfraction hexponent =>
    have hfront : ∀ ch ∈ whole ++ fraction, IsDecimalChar ch := by
      rw [List.forall_mem_append]
      refine ⟨fun ch hch => .inl (hwhole.2 ch hch), ?_⟩
      rcases hfraction with rfl | ⟨digits, rfl, hdigits⟩
      . simp
      . rw [List.forall_mem_cons]
        exact ⟨.inr rfl, fun ch hch => .inl (hdigits.2 ch hch)⟩
    have hnot' : ¬ IsDecimalChar sign := by
      rintro (hdigit | rfl)
      . simp [hdigit] at hnot
      . simp at hnot
    have hsign' : sign ∉ whole ++ fraction := fun hmem => hnot' (hfront sign hmem)
    rw [← List.append_assoc] at htok hmem
    rcases hexponent with rfl | ⟨mark, plus, digits, rfl, hmark, hplus, hdigits⟩
    . rw [List.append_nil] at hmem
      exact absurd hmem hsign'
    . have hne : sign ≠ mark := by
        rintro rfl
        exact hnot.2 (List.mem_append_right ['x', 'X', '.'] hmark)
      have hlast : sign ∉ digits := fun hmem => hnot' (.inl (hdigits.2 sign hmem))
      -- The only place that is left is the sign of the exponent.
      have hplus' : plus = [sign] := by
        rw [List.mem_append, or_iff_right hsign', List.mem_cons, or_iff_right hne, List.mem_append,
          or_iff_left hlast] at hmem
        simp only [List.mem_cons, List.not_mem_nil, or_false] at hplus
        rcases hplus with rfl | rfl | rfl
        . cases hmem
        . rw [List.mem_singleton.mp hmem]
        . rw [List.mem_singleton.mp hmem]
      have hsplit : (whole ++ fraction ++ [mark]) ++ sign :: digits = before ++ sign :: behind := by
        rw [htok, hplus']
        simp
      have hbehind : sign ∉ whole ++ fraction ++ [mark] := by
        rw [List.mem_append, List.mem_singleton, not_or]
        exact ⟨hsign', hne⟩
      rw [List.append_cons_inj_of_notMem hbehind hlast] at hsplit
      exact ⟨whole ++ fraction, mark, hsplit.1.symm, hmark, hfront⟩

theorem IsNumber.longest_before_sign {tok rest : List Char} {sign : Char} (h : IsNumber tok)
    (hsign : sign ∈ signs) : Longest IsNumber tok (sign :: rest) := by
  apply Longest.of_head
  rintro _ more ⟨⟩ hnumber
  obtain ⟨front, mark, rfl, hmark, hfront⟩ := hnumber.exists_mark hsign
  exact not_isNumber_of_mark hfront hmark h

-- Operators

namespace Parser

theorem prefix_of_binaryOp? {text : List Char} {op : BinaryOp} {width : Nat}
    (h : binaryOp? text.head? text[1]? = some (op, width)) :
    op.symbol.toList <+: text ∧ width = op.symbol.toList.length := by
  cases text with
  | nil => cases h
  | cons first text =>
    cases text with
    | nil =>
      simp only [List.head?_cons, List.getElem?_cons_succ, List.getElem?_nil] at h
      unfold binaryOp? at h
      split at h <;> cases h <;> simp_all [BinaryOp.symbol]
    | cons second text =>
      simp only [List.head?_cons, List.getElem?_cons_succ, List.getElem?_cons_zero] at h
      unfold binaryOp? at h
      split at h <;> cases h <;> simp_all [BinaryOp.symbol]

theorem length_symbol (op : BinaryOp) :
    op.symbol.toList.length = 1 ∨ op.symbol.toList.length = 2 := by
  cases op <;> decide

theorem binaryOp?_of_length {op : BinaryOp} (h : op.symbol.toList.length = 2) (text : List Char) :
    binaryOp? (op.symbol.toList ++ text).head? (op.symbol.toList ++ text)[1]? = some (op, 2) := by
  cases op <;> first | rfl | cases h

theorem longest_binaryOp {text : List Char} {op : BinaryOp} {width : Nat}
    (h : binaryOp? (op.symbol.toList ++ text).head? (op.symbol.toList ++ text)[1]?
      = some (op, width)) :
    Longest IsOperator op.symbol.toList text := by
  rintro more ⟨rest, rfl⟩ hoperator
  have hlength := length_symbol op
  rw [← List.append_assoc] at h
  rcases hoperator with ⟨op', hop'⟩ | ⟨op', hop'⟩
  . have hlength' := congrArg List.length hop'
    rw [List.length_append] at hlength'
    rcases length_symbol op' with hone | htwo
    . exact List.eq_nil_of_length_eq_zero (by omega)
    . -- The longer operator would have been read.
      rw [hop', binaryOp?_of_length htwo] at h
      cases h
      simpa using hop'
  . have hone : op'.symbol.toList.length = 1 := by
      cases op' <;> rfl
    have hlength' := congrArg List.length hop'
    rw [List.length_append] at hlength'
    exact List.eq_nil_of_length_eq_zero (by omega)

theorem longest_neg (text : List Char) : Longest IsOperator ['-'] text := by
  rintro more _ (⟨op, hop⟩ | ⟨op, hop⟩)
  . cases op <;> simp_all [BinaryOp.symbol]
  . cases op <;> simp_all [UnaryOp.symbol]

theorem longest_not {text : List Char} (h : text.head? ≠ some '=') :
    Longest IsOperator ['!'] text := by
  rintro more ⟨rest, rfl⟩ (⟨op, hop⟩ | ⟨op, hop⟩)
  . cases op <;> simp_all [BinaryOp.symbol]
  . cases op <;> simp_all [UnaryOp.symbol]

end Parser

end Stencil
