import Stencil.Proofs.Parser.Number

/-!
This module contains the proof that names and constants are read the way they are written.
-/

namespace Stencil

variable {H : Type}

theorem isName_null : IsName "null".toList :=
  ⟨'n', ['u', 'l', 'l'], rfl, by decide, List.all_eq_true.mp (by decide)⟩

theorem isName_bool (b : Bool) : IsName (if b then "true" else "false").toList := by
  cases b with
  | false => exact ⟨'f', ['a', 'l', 's', 'e'], rfl, by decide, List.all_eq_true.mp (by decide)⟩
  | true => exact ⟨'t', ['r', 'u', 'e'], rfl, by decide, List.all_eq_true.mp (by decide)⟩

theorem isDigits_toDigits (n : Nat) : IsDigits Unicode.isAsciiDigit (Nat.toDigits 10 n) :=
  ⟨Nat.toDigits_ne_nil, fun _ => Integer.isAsciiDigit_of_mem_toDigits⟩

theorem unquoted_escaped {quote : Char} (hquote : quote = '\'' ∨ quote = '"') (text : List Char) :
    Unquoted quote (escaped quote text) text := by
  induction text with
  | nil => exact .nil
  | cons ch text ih =>
    have hcons : escaped quote (ch :: text)
        = (if ch = quote ∨ ch = '\\' then ['\\', ch] else [ch]) ++ escaped quote text := rfl
    rw [hcons]
    split
    . next h =>
      -- Behind a backslash, quotes and backslashes stand for themselves.
      have hunescape : Parser.unescape ch = ch := by
        rcases h with rfl | rfl
        . rcases hquote with rfl | rfl <;> rfl
        . rfl
      have hescaped := ih.escaped (c := ch)
      rw [hunescape] at hescaped
      exact hescaped
    . next h =>
      rw [not_or] at h
      exact .plain h.2 h.1 ih

theorem Literal.lexeme {v : Value H} {tok : Token} (h : Literal v tok) : Lexeme v tok := by
  cases h with
  | null => exact .null
  | bool b => exact .bool b
  | int n hn =>
    obtain ⟨_, hvalue, hle⟩ := Integer.readNat_eq_ok
      (Integer.readNat_toDigits .tooLarge (Integer.natAbs_le_greatest hn))
    have hint := Lexeme.int (H := H) (isDigits_toDigits n.toInt.natAbs) (hvalue ▸ hle)
    rw [← hvalue, Integer.ofInt_natAbs hn] at hint
    rw [Integer.toText_of_nonneg hn]
    exact hint
  | str quote text hquote =>
    have hstr := Lexeme.str (H := H) (by simpa using hquote) (unquoted_escaped hquote text.toList)
    rw [String.ofList_toList] at hstr
    exact hstr

theorem Written.lexemes {classes : Parser.ClassLookup H} {phrase : Phrase H} {ts : List Token}
    (h : Written Literal classes phrase ts) : Written Lexeme classes phrase ts :=
  h.mono fun _ _ => Literal.lexeme

theorem Lexeme.apart {v : Value H} {tok next : Token} {sign : Char} (h : Lexeme v tok)
    (hsign : sign ∈ signs) : Apart tok (sign :: next) := by
  have hcontinue : Symbol.isIdentContinue sign = false := by
    have hall : signs.all (!Symbol.isIdentContinue ·) = true := by
      decide
    simpa using List.all_eq_true.mp hall sign hsign
  cases h with
  | null => exact isName_null.apart hcontinue
  | bool b => exact (isName_bool b).apart hcontinue
  | int hdigits _ => exact (isNumber_of_isDigits hdigits).apart hsign
  | hex hmark hdigits _ => exact (IsNumber.hex hmark hdigits).apart hsign
  | decimal hwhole hfraction hexponent _ _ =>
    exact (IsNumber.decimal hwhole hfraction hexponent).apart hsign
  | str hquote _ =>
    simp only [List.mem_cons, List.not_mem_nil, or_false] at hquote
    rcases hquote with rfl | rfl <;> exact apart_of_head (by decide) (by decide) (by decide) _ _

namespace Parser

open Cursor

variable {c : Cursor} {toks : List Token} {d limit : Nat} {bad : ParseError → Prop}

theorem classify_name {name : Token} (hc : c.Before (name :: toks) d limit) (hname : IsName name) :
    c.skipBlanks.peek.map Symbol.ofChar = some .identStart := by
  obtain ⟨first, rest, rfl, hfirst, _⟩ := hname
  rw [hc.at.peek, Option.map_some, Symbol.ofChar_of_isIdentStart hfirst]

theorem classify_number {tok : Token} (hnumber : IsNumber tok)
    (hc : c.Before (tok :: toks) d limit) :
    c.skipBlanks.peek.map Symbol.ofChar = some .digit := by
  obtain ⟨first, rest, rfl, hfirst⟩ := hnumber.exists_digit
  rw [hc.at.peek, Option.map_some, Symbol.ofChar_of_isAsciiDigit hfirst]

theorem classify_quoted {quote : Char} {source : List Char} (hquote : quote ∈ ['\'', '"'])
    (hc : c.Before ((quote :: (source ++ [quote])) :: toks) d limit) :
    c.skipBlanks.peek.map Symbol.ofChar = some .quote := by
  rw [hc.at.peek, Option.map_some]
  simp only [List.mem_cons, List.not_mem_nil, or_false] at hquote
  rcases hquote with rfl | rfl <;> decide

theorem before_variable {name : String} {post : Expr H → Cursor → Prop}
    (hc : c.At name.toList toks d limit) (hname : IsName name.toList)
    (hkeyword : keyword? (H := H) name = none)
    (hpost : ∀ c', c'.Before toks d limit → post (.var name) c') :
    Satisfies variableOrKeyword c post bad := by
  rw [variableOrKeyword, satisfies_bind]
  apply before_identifier hc hname
  intro c' hc'
  rw [hkeyword]
  exact hpost c' hc'

theorem before_keyword {word : String} {v : Value H} {post : Expr H → Cursor → Prop}
    (hc : c.At word.toList toks d limit) (hword : IsName word.toList)
    (hkeyword : keyword? word = some v)
    (hpost : ∀ c', c'.Before toks d limit → post (.const v) c') :
    Satisfies variableOrKeyword c post bad := by
  rw [variableOrKeyword, satisfies_bind]
  apply before_identifier hc hword
  intro c' hc'
  rw [hkeyword]
  exact hpost c' hc'

theorem untilQuote_quote {quote : Char} (h : quote ≠ '\\') (rest : List Char) :
    untilQuote quote (quote :: rest) = some ([], [quote]) := by
  rw [untilQuote.eq_def]
  simp [h]

theorem untilQuote_backslash (quote ch : Char) (rest : List Char) :
    untilQuote quote ('\\' :: ch :: rest)
      = (untilQuote quote rest).map fun r => (unescape ch :: r.1, '\\' :: ch :: r.2) := by
  rw [untilQuote.eq_def]
  rfl

theorem untilQuote_other {quote ch : Char} (h : ¬ (ch = quote ∨ ch = '\\')) (rest : List Char) :
    untilQuote quote (ch :: rest)
      = (untilQuote quote rest).map fun r => (ch :: r.1, ch :: r.2) := by
  rw [not_or] at h
  rw [untilQuote.eq_def]
  simp [h]

theorem untilQuote_unquoted {quote : Char} {source text : List Char} (hquote : quote ≠ '\\')
    (h : Unquoted quote source text) (rest : List Char) :
    untilQuote quote (source ++ quote :: rest) = some (text, source ++ [quote]) := by
  induction h with
  | nil => exact untilQuote_quote hquote rest
  | escaped _ ih =>
    simp only [List.cons_append]
    rw [untilQuote_backslash, ih, Option.map_some]
  | plain hbackslash hne _ ih =>
    simp only [List.cons_append]
    rw [untilQuote_other (not_or.mpr ⟨hne, hbackslash⟩), ih, Option.map_some]

theorem before_stringLiteral {quote : Char} {source text : List Char} {post : Expr H → Cursor → Prop}
    (hquote : quote ∈ ['\'', '"']) (htext : Unquoted quote source text)
    (hc : c.At (quote :: (source ++ [quote])) toks d limit)
    (hpost : ∀ c', c'.Before toks d limit → post (.const (.str (String.ofList text))) c') :
    Satisfies stringLiteral c post bad := by
  obtain ⟨rest, hrest, _⟩ := hc.rest_eq
  have hne : quote ≠ '\\' := by
    rintro rfl
    simp at hquote
  have hbefore := hc.after hrest
  simp only [List.cons_append, List.append_assoc, List.nil_append] at hrest
  rw [stringLiteral, satisfies_bind, satisfies_position, satisfies_bind, satisfies_advance, hrest]
  dsimp only
  rw [satisfies_bind, satisfies_get]
  have hread : (c.after [quote] (source ++ quote :: rest)).rest = source ++ quote :: rest := rfl
  rw [hread, untilQuote_unquoted hne htext]
  dsimp only
  rw [satisfies_bind, satisfies_set, satisfies_pure, after_after, List.append_cons source quote rest,
    List.drop_left]
  exact hpost _ hbefore

end Parser

end Stencil
