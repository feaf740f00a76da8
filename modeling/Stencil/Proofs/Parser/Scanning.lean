import Stencil.Proofs.Parser.Boundary
import Stencil.Proofs.Parser.Maximal
import Stencil.Proofs.Parser.Position

/-!
This module contains what parsers have read of a source when they succeed: tokens that are cut where
they end, on a level that the nesting limit allows.
-/

namespace Stencil

variable {H : Type}

namespace Cursor

structure Behind (toks : List Token) (text : List Char) (depth limit : Nat) (c : Cursor) : Prop where
  scans : Scans toks text c.rest
  depth_eq : c.depth = depth
  maxDepth_eq : c.maxDepth = limit
  depth_le : depth ≤ limit

theorem behind_start (text : List Char) (limit : Nat) :
    (start text limit).Behind [] text 0 limit :=
  ⟨Scans.refl text, rfl, rfl, Nat.zero_le limit⟩

variable {c : Cursor} {toks : List Token} {text : List Char} {d limit : Nat}

theorem Behind.skipBlanks (hc : c.Behind toks text d limit) :
    c.skipBlanks.Behind toks text d limit := by
  refine ⟨?_, hc.depth_eq, hc.maxDepth_eq, hc.depth_le⟩
  have hblanks : Scans [] c.rest c.skipBlanks.rest := by
    have hrest : c.rest.takeWhile Unicode.isBlank ++ c.skipBlanks.rest = c.rest :=
      List.takeWhile_append_dropWhile
    rw [← hrest]
    exact Scans.nil fun ch hch => List.mem_takeWhile_imp hch
  have hscans := hc.scans.append hblanks
  rw [List.append_nil] at hscans
  exact hscans

theorem Behind.after {tok : Token} {rest : List Char} (hc : c.Behind toks text d limit)
    (hproper : tok.Proper) (hmaximal : tok.Maximal rest) (hrest : c.rest = tok ++ rest) :
    (c.after tok rest).Behind (toks ++ [tok]) text d limit := by
  refine ⟨hc.scans.append ?_, hc.depth_eq, hc.maxDepth_eq, hc.depth_le⟩
  rw [hrest]
  exact Scans.singleton hproper hmaximal

theorem Behind.ascendBy {levels : Nat} (hc : c.Behind toks text (d + levels) limit) :
    Cursor.Behind toks text d limit { c with depth := c.depth - levels } := by
  refine ⟨hc.scans, ?_, hc.maxDepth_eq, Nat.le_of_add_right_le hc.depth_le⟩
  simp only [hc.depth_eq]
  omega

end Cursor

def marks : List Char :=
  ['(', ')', '[', ']', '\x7b', '\x7d', ',', ':', '?', '.', '@']

theorem properties_of_mem_marks {ch : Char} (h : ch ∈ marks) :
    Unicode.isBlank ch = false ∧ Symbol.isIdentStart ch = false
      ∧ Unicode.isAsciiDigit ch = false ∧ ch ∉ signs := by
  have hall : marks.all (fun ch => !Unicode.isBlank ch && !Symbol.isIdentStart ch
      && !Unicode.isAsciiDigit ch && decide (ch ∉ signs)) = true := by
    decide
  simpa [and_assoc] using List.all_eq_true.mp hall ch h

theorem IsOperator.proper {tok : Token} (h : IsOperator tok) : tok.Proper := by
  rcases h with ⟨op, rfl⟩ | ⟨op, rfl⟩
  . exact Token.proper_symbol op
  . exact Token.proper_prefix op

theorem IsNumber.proper {tok : Token} (h : IsNumber tok) : tok.Proper := by
  obtain ⟨first, rest, rfl, hfirst⟩ := h.exists_digit
  exact ⟨first, rest, rfl, Symbol.isBlank_of_isAsciiDigit hfirst⟩

namespace Parser

open Cursor

variable {c : Cursor} {toks : List Token} {text : List Char} {d limit : Nat}

-- Marks and operators

theorem behind_advance {ch : Char} {post : Char → Cursor → Prop}
    (hc : c.Behind toks text d limit) (hpeek : c.peek = some ch) (hmark : ch ∈ marks)
    (hpost : ∀ c', c'.Behind (toks ++ [[ch]]) text d limit → post ch c') :
    Satisfies advance c post (fun _ => True) := by
  obtain ⟨rest, hrest⟩ : ∃ rest, c.rest = ch :: rest := List.head?_eq_some_iff.mp hpeek
  obtain ⟨hblank, hstart, hdigit, hsign⟩ := properties_of_mem_marks hmark
  rw [satisfies_advance, hrest]
  apply hpost
  exact hc.after ⟨ch, [], rfl, hblank⟩ (Token.maximal_of_head hstart hdigit hsign rest) hrest

theorem behind_expected {expected found : Char} {problem : ParseProblem}
    {post : Unit → Cursor → Prop} (hc : c.Behind toks text d limit) (hpeek : c.peek = some found)
    (hmark : expected ∈ marks)
    (hpost : ∀ c', c'.Behind (toks ++ [[expected]]) text d limit → post () c') :
    Satisfies (if found == expected then discard advance else fail problem) c post
      (fun _ => True) := by
  rw [satisfies_ite]
  split
  . next heq =>
    obtain rfl : found = expected := by simpa using heq
    rw [satisfies_discard]
    exact behind_advance hc hpeek hmark hpost
  . trivial

theorem behind_expect {expected : Char} {post : Unit → Cursor → Prop}
    (hc : c.Behind toks text d limit) (hmark : expected ∈ marks)
    (hpost : ∀ c', c'.Behind (toks ++ [[expected]]) text d limit → post () c') :
    Satisfies (expect expected) c post (fun _ => True) := by
  rw [expect, satisfies_bind, satisfies_nextSignificant]
  split
  . next hpeek => exact behind_expected hc.skipBlanks hpeek hmark hpost
  . trivial

theorem behind_closing {close : Char} {start : Nat} {construct : Construct}
    {post : Unit → Cursor → Prop} (hc : c.Behind toks text d limit) (hmark : close ∈ marks)
    (hpost : ∀ c', c'.Behind (toks ++ [[close]]) text d limit → post () c') :
    Satisfies (closing close start construct) c post (fun _ => True) := by
  rw [closing, satisfies_bind, satisfies_nextSignificant]
  split
  . next hpeek => exact behind_expected hc.skipBlanks hpeek hmark hpost
  . trivial

theorem behind_descend {post : Unit → Cursor → Prop} (hc : c.Behind toks text d limit)
    (hpost : ∀ c', c'.rest = c.rest → c'.Behind toks text (d + 1) limit → post () c') :
    Satisfies descend c post (fun _ => True) := by
  rw [satisfies_descend, hc.depth_eq, hc.maxDepth_eq]
  split
  . trivial
  . next h => exact hpost _ rfl ⟨hc.scans, rfl, rfl, Nat.lt_of_not_le h⟩

theorem behind_open {α : Type} {opening : Char} {parser : Parser α} {post : α → Cursor → Prop}
    (hc : c.Behind toks text d limit) (hpeek : c.peek = some opening) (hmark : opening ∈ marks)
    (hpost : ∀ c', c'.Behind (toks ++ [[opening]]) text (d + 1) limit →
      Satisfies parser c' post (fun _ => True)) :
    Satisfies (do
      let _ ← advance
      descend
      parser) c post (fun _ => True) := by
  rw [satisfies_bind]
  apply behind_advance hc hpeek hmark
  intro c₁ hc₁
  rw [satisfies_bind]
  apply behind_descend hc₁
  exact fun c₂ _ hc₂ => hpost c₂ hc₂

theorem behind_binaryOp {op : BinaryOp} {width : Nat} {post : Unit → Cursor → Prop}
    (hc : c.Behind toks text d limit) (hop : binaryOp? c.peek (c.peekAt 1) = some (op, width))
    (hpost : ∀ c', c'.Behind (toks ++ [op.symbol.toList]) text d limit → post () c') :
    Satisfies (advanceBy width) c post (fun _ => True) := by
  obtain ⟨⟨rest, hrest⟩, rfl⟩ := prefix_of_binaryOp? hop
  have hoperator : IsOperator op.symbol.toList := .inl ⟨op, rfl⟩
  apply satisfies_advanceBy hrest.symm
  apply hpost
  apply hc.after hoperator.proper _ hrest.symm
  apply Token.maximal_of_isOperator hoperator
  rw [Cursor.peek, Cursor.peekAt, ← hrest] at hop
  exact longest_binaryOp hop

theorem behind_unaryOp {op : UnaryOp} {ch : Char} {post : Char → Cursor → Prop}
    (hc : c.Behind toks text d limit) (hpeek : c.peek = some ch) (hch : op.symbol.toList = [ch])
    (hnext : op = .not → c.peekAt 1 ≠ some '=')
    (hpost : ∀ c', c'.Behind (toks ++ [op.symbol.toList]) text d limit → post ch c') :
    Satisfies advance c post (fun _ => True) := by
  obtain ⟨rest, hrest⟩ : ∃ rest, c.rest = ch :: rest := List.head?_eq_some_iff.mp hpeek
  have hoperator : IsOperator [ch] := .inr ⟨op, hch.symm⟩
  rw [satisfies_advance, hrest]
  apply hpost
  rw [hch]
  apply hc.after hoperator.proper _ hrest
  apply Token.maximal_of_isOperator hoperator
  cases op with
  | neg =>
    cases hch
    exact longest_neg rest
  | not =>
    cases hch
    apply longest_not
    rw [List.head?_eq_getElem?]
    have := hnext rfl
    rw [Cursor.peekAt, hrest] at this
    exact this

-- Names

theorem behind_identifier {ch : Char} {post : String → Cursor → Prop}
    (hc : c.Behind toks text d limit) (hpeek : c.peek = some ch)
    (hch : Symbol.isIdentStart ch = true)
    (hpost : ∀ name c', IsName name.toList → c'.Behind (toks ++ [name.toList]) text d limit →
      post name c') :
    Satisfies identifier c post (fun _ => True) := by
  obtain ⟨rest, hrest⟩ : ∃ rest, c.rest = ch :: rest := List.head?_eq_some_iff.mp hpeek
  have hname : IsName (c.rest.takeWhile Symbol.isIdentContinue) := by
    rw [hrest, List.takeWhile_cons_of_pos (Symbol.isIdentContinue_of_isIdentStart hch)]
    exact ⟨ch, _, rfl, hch, fun _ h => List.mem_takeWhile_imp h⟩
  rw [identifier, satisfies_bind, satisfies_takeWhile, satisfies_pure]
  apply hpost
  . rw [String.toList_ofList]
    exact hname
  . rw [String.toList_ofList]
    apply hc.after hname.proper _ List.takeWhile_append_dropWhile.symm
    exact Token.maximal_of_isName hname fun next => head?_dropWhile

theorem behind_name {post : String → Cursor → Prop} (hc : c.Behind toks text d limit)
    (hpost : ∀ name c', IsName name.toList → c'.Behind (toks ++ [name.toList]) text d limit →
      post name c') :
    Satisfies name c post (fun _ => True) := by
  rw [name, satisfies_bind, satisfies_nextSignificant]
  split
  . next ch hpeek =>
    rw [satisfies_ite]
    split
    . next hch => exact behind_identifier hc.skipBlanks hpeek hch hpost
    . trivial
  . trivial

theorem lexeme_of_keyword? {name : String} {v : Value H} (h : keyword? name = some v) :
    Lexeme v name.toList := by
  unfold keyword? at h
  split at h
  . next htrue =>
    cases h
    rw [beq_iff_eq] at htrue
    rw [htrue]
    exact Lexeme.bool true
  . split at h
    . next hfalse =>
      cases h
      rw [beq_iff_eq] at hfalse
      rw [hfalse]
      exact Lexeme.bool false
    . split at h
      . next hnull =>
        cases h
        rw [beq_iff_eq] at hnull
        rw [hnull]
        exact Lexeme.null
      . cases h

-- Texts

theorem unquoted_of_untilQuote {quote : Char} {chars content source : List Char}
    (h : untilQuote quote chars = some (content, source)) :
    ∃ read, source = read ++ [quote] ∧ Unquoted quote read content := by
  fun_induction untilQuote quote chars generalizing content source with
  | case1 => simp at h
  | case2 => simp at h
  | case3 ch hbackslash escaped rest ih =>
    obtain ⟨⟨content', source'⟩, h', heq⟩ := Option.map_eq_some_iff.mp h
    cases heq
    obtain ⟨read, rfl, hread⟩ := ih h'
    rw [beq_iff_eq] at hbackslash
    rw [hbackslash]
    exact ⟨'\\' :: escaped :: read, rfl, .escaped hread⟩
  | case4 ch rest _ hquote =>
    cases h
    rw [beq_iff_eq] at hquote
    rw [hquote]
    exact ⟨[], rfl, .nil⟩
  | case5 ch rest hbackslash hquote ih =>
    obtain ⟨⟨content', source'⟩, h', heq⟩ := Option.map_eq_some_iff.mp h
    cases heq
    obtain ⟨read, rfl, hread⟩ := ih h'
    rw [beq_iff_eq] at hbackslash hquote
    exact ⟨ch :: read, rfl, .plain hbackslash hquote hread⟩

theorem behind_stringLiteral {quote : Char} {post : Expr H → Cursor → Prop}
    (hc : c.Behind toks text d limit) (hpeek : c.peek = some quote)
    (hquote : quote = '\'' ∨ quote = '"')
    (hpost : ∀ v tok c', Lexeme v tok → c'.Behind (toks ++ [tok]) text d limit →
      post (.const v) c') :
    Satisfies stringLiteral c post (fun _ => True) := by
  obtain ⟨rest, hrest⟩ : ∃ rest, c.rest = quote :: rest := List.head?_eq_some_iff.mp hpeek
  rw [stringLiteral, satisfies_bind, satisfies_position, satisfies_bind, satisfies_advance, hrest]
  dsimp only
  rw [satisfies_bind, satisfies_get]
  split
  . trivial
  . next content source h =>
    obtain ⟨read, rfl, hread⟩ := unquoted_of_untilQuote h
    have hsource : rest = read ++ [quote] ++ rest.drop (read ++ [quote]).length :=
      (List.prefix_iff_eq_append.mp (isPrefix_of_untilQuote h)).symm
    rw [satisfies_bind, satisfies_set, satisfies_pure, after_after]
    apply hpost _ _ _ (Lexeme.str (by simpa using hquote) hread)
    apply hc.after
    . refine ⟨quote, _, rfl, ?_⟩
      rcases hquote with rfl | rfl <;> decide
    . apply Token.maximal_of_head <;> rcases hquote with rfl | rfl <;> decide
    . rw [hrest, List.cons_append]
      congr

-- Numbers

theorem integerLiteral_ofDigits {start radix : Nat} {digits literal : List Char}
    {post : Expr H → Cursor → Prop}
    (hpost : digits ≠ [] → Integer.ofDigits radix 0 digits ≤ Integer.greatest →
      post (.const (.int (Int64.ofInt (Integer.ofDigits radix 0 digits)))) c) :
    Satisfies (integerLiteral start radix digits literal) c post (fun _ => True) := by
  unfold integerLiteral
  split
  . next n h =>
    obtain ⟨hne, rfl, hle⟩ := Integer.readNat_eq_ok h
    exact hpost hne hle
  . trivial

theorem behind_number {first : Char} {post : Expr H → Cursor → Prop}
    (hc : c.Behind toks text d limit) (hpeek : c.peek = some first)
    (hfirst : Unicode.isAsciiDigit first = true)
    (hpost : ∀ v tok c', Lexeme v tok → c'.Behind (toks ++ [tok]) text d limit →
      post (.const v) c') :
    Satisfies number c post (fun _ => True) := by
  have hread {v : Value H} {tok : Token} {rest : List Char} (hrest : c.rest = tok ++ rest)
      (hnumber : IsNumber tok) (hlongest : Longest IsNumber tok rest) (hv : Lexeme v tok) :
      post (.const v) (c.after tok rest) :=
    hpost v tok _ hv
      (hc.after hnumber.proper (Token.maximal_of_isNumber hnumber hlongest) hrest)
  apply satisfies_number_cases
  . intro mark digits rest hmark hrest hdigits hnext
    apply integerLiteral_ofDigits
    intro hne hle
    apply hread hrest (.hex hmark ⟨hne, hdigits⟩) _ (.hex hmark ⟨hne, hdigits⟩ hle)
    exact longest_hex hmark (Longest.isDigits hnext)
  . intro hnothex
    apply satisfies_number_of_decimal hpeek hfirst hnothex
    . intro digits rest hrest hdigits hlongest
      apply integerLiteral_ofDigits
      intro _ hle
      exact hread hrest (isNumber_of_isDigits hdigits) hlongest (.int hdigits hle)
    . intro whole fraction exponent rest x hrest hwhole hfraction hexponent hparts hlongest hx
      exact hread hrest (.decimal hwhole hfraction hexponent) hlongest
        (.decimal hwhole hfraction hexponent hparts hx)

theorem behind_variableOrKeyword {first : Char} {post : Expr H → Cursor → Prop}
    (hc : c.Behind toks text d limit) (hpeek : c.peek = some first)
    (hfirst : Symbol.isIdentStart first = true)
    (hconst : ∀ v tok c', Lexeme v tok → c'.Behind (toks ++ [tok]) text d limit →
      post (.const v) c')
    (hvar : ∀ name c', IsName name.toList → keyword? (H := H) name = none →
      c'.Behind (toks ++ [name.toList]) text d limit → post (.var name) c') :
    Satisfies variableOrKeyword c post (fun _ => True) := by
  rw [variableOrKeyword, satisfies_bind]
  apply behind_identifier hc hpeek hfirst
  intro name c' hname hc'
  split
  . next v hv => exact hconst v _ c' (lexeme_of_keyword? hv) hc'
  . next hnone => exact hvar name c' hname hnone hc'

end Parser

end Stencil
