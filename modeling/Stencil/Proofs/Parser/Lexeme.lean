import Mathlib.Data.List.Infix
import Stencil.Proofs.Grammar
import Stencil.Proofs.Integer

/-!
This module contains how constants are spelled in a source, and how a source is cut into tokens:
blanks stand between tokens and nowhere else, and a name, a number or an operator takes as much of
the source as it can.
-/

namespace Stencil

variable {H : Type}

def Blank (text : List Char) : Prop :=
  ∀ c ∈ text, Unicode.isBlank c = true

def Token.Proper (tok : Token) : Prop :=
  ∃ first rest, tok = first :: rest ∧ Unicode.isBlank first = false

def IsDigits (p : Char → Bool) (text : List Char) : Prop :=
  text ≠ [] ∧ ∀ c ∈ text, p c = true

def IsFraction (text : List Char) : Prop :=
  text = [] ∨ ∃ digits, text = '.' :: digits ∧ IsDigits Unicode.isAsciiDigit digits

def IsExponent (text : List Char) : Prop :=
  text = [] ∨ ∃ mark sign digits, text = mark :: (sign ++ digits) ∧ mark ∈ ['e', 'E']
    ∧ sign ∈ [[], ['+'], ['-']] ∧ IsDigits Unicode.isAsciiDigit digits

inductive IsNumber : Token → Prop where
  | hex {mark : Char} {digits : List Char} :
      mark ∈ ['x', 'X'] → IsDigits Symbol.isHexDigit digits → IsNumber ('0' :: mark :: digits)
  | decimal {whole fraction exponent : List Char} :
      IsDigits Unicode.isAsciiDigit whole → IsFraction fraction → IsExponent exponent →
        IsNumber (whole ++ (fraction ++ exponent))

inductive Unquoted (quote : Char) : List Char → List Char → Prop where
  | nil : Unquoted quote [] []
  | escaped {c : Char} {source text : List Char} :
      Unquoted quote source text → Unquoted quote ('\\' :: c :: source) (Parser.unescape c :: text)
  | plain {c : Char} {source text : List Char} :
      c ≠ '\\' → c ≠ quote → Unquoted quote source text → Unquoted quote (c :: source) (c :: text)

/--
All the ways in which constants are spelled. Integers that are too large are no constants.
-/
inductive Lexeme : Value H → Token → Prop where
  | null : Lexeme .null "null".toList
  | bool (b : Bool) : Lexeme (.bool b) (if b then "true" else "false").toList
  | int {digits : List Char} :
      IsDigits Unicode.isAsciiDigit digits → Integer.ofDigits 10 0 digits ≤ Integer.greatest →
        Lexeme (.int (Int64.ofInt (Integer.ofDigits 10 0 digits))) digits
  | hex {mark : Char} {digits : List Char} :
      mark ∈ ['x', 'X'] → IsDigits Symbol.isHexDigit digits →
        Integer.ofDigits 16 0 digits ≤ Integer.greatest →
          Lexeme (.int (Int64.ofInt (Integer.ofDigits 16 0 digits))) ('0' :: mark :: digits)
  | decimal {whole fraction exponent : List Char} {x : Float} :
      IsDigits Unicode.isAsciiDigit whole → IsFraction fraction → IsExponent exponent →
        fraction ++ exponent ≠ [] → Decimal.read (whole ++ (fraction ++ exponent)) = .ok x →
          Lexeme (.decimal x) (whole ++ (fraction ++ exponent))
  | str {quote : Char} {source text : List Char} :
      quote ∈ ['\'', '"'] → Unquoted quote source text →
        Lexeme (.str (String.ofList text)) (quote :: (source ++ [quote]))

/--
With the text behind it, or with the beginning of that, a token would be nothing of the kind.
-/
def Longest (kind : Token → Prop) (tok : Token) (text : List Char) : Prop :=
  ∀ more, more <+: text → kind (tok ++ more) → more = []

def IsOperator (tok : Token) : Prop :=
  (∃ op : BinaryOp, tok = op.symbol.toList) ∨ ∃ op : UnaryOp, tok = op.symbol.toList

namespace Token

/--
The tokens that could go on: those whose end is not marked by a character of their own.
-/
def IsWord (tok : Token) : Prop :=
  IsName tok ∨ IsNumber tok ∨ IsOperator tok

/--
A token does not go on in the text behind it.
-/
def Maximal (tok : Token) (text : List Char) : Prop :=
  Longest IsWord tok text

end Token

/--
The tokens are cut from the front of a text, each as long as it can be, and `rest` is left of it.
Blanks may stand before and behind every token.
-/
inductive Scans : List Token → List Char → List Char → Prop where
  | nil {blanks rest : List Char} : Blank blanks → Scans [] (blanks ++ rest) rest
  | cons {tok : Token} {toks : List Token} {blanks text rest : List Char} :
      Blank blanks → tok.Proper → tok.Maximal text → Scans toks text rest →
        Scans (tok :: toks) (blanks ++ tok ++ text) rest

theorem blank_nil : Blank [] := by
  intro c hc
  cases hc

theorem Blank.append {blanks blanks' : List Char} (h : Blank blanks) (h' : Blank blanks') :
    Blank (blanks ++ blanks') :=
  List.forall_mem_append.mpr ⟨h, h'⟩

namespace Scans

variable {toks : List Token} {text rest : List Char}

theorem refl (text : List Char) : Scans [] text text :=
  @Scans.nil [] text blank_nil

theorem blank_append (h : Scans toks text rest) {blanks : List Char} (hblanks : Blank blanks) :
    Scans toks (blanks ++ text) rest := by
  cases h with
  | nil hblanks' =>
    rw [← List.append_assoc]
    exact Scans.nil (hblanks.append hblanks')
  | cons hblanks' hproper hmaximal h =>
    rw [← List.append_assoc, ← List.append_assoc]
    exact Scans.cons (hblanks.append hblanks') hproper hmaximal h

theorem append (h : Scans toks text rest) {toks' : List Token} {rest' : List Char}
    (h' : Scans toks' rest rest') : Scans (toks ++ toks') text rest' := by
  induction h with
  | nil hblanks => exact h'.blank_append hblanks
  | cons hblanks hproper hmaximal _ ih => exact Scans.cons hblanks hproper hmaximal (ih h')

theorem singleton {tok : Token} (hproper : tok.Proper) (hmaximal : tok.Maximal rest) :
    Scans [tok] (tok ++ rest) rest :=
  @Scans.cons tok [] [] rest rest blank_nil hproper hmaximal (Scans.refl rest)

theorem head {tok : Token} (h : Scans (tok :: toks) text rest)
    (hblank : ∀ first, text.head? = some first → Unicode.isBlank first = false) :
    ∃ first more, tok = first :: more ∧ text.head? = some first := by
  cases h with
  | @cons _ _ blanks _ _ hblanks hproper _ _ =>
    cases blanks with
    | nil =>
      obtain ⟨first, more, rfl, _⟩ := hproper
      exact ⟨first, more, rfl, rfl⟩
    | cons blank blanks =>
      have := hblanks blank List.mem_cons_self
      rw [hblank blank rfl] at this
      cases this

end Scans

end Stencil
