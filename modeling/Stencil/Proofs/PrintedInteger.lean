import Stencil.Proofs.Recognition
import Stencil.Settings

/-!
This module contains the proof that every integer but the least one can be written the way it is
printed. A minus sign is no part of a literal but an operator in front of one, and the digits of the
least integer are out of the range of literals.
-/

namespace Stencil

namespace Integer

theorem toInt_neg_of_ne {n : Int64} (h : n ≠ Int64.minValue) : (-n).toInt = -n.toInt := by
  have hne : n.toInt ≠ -2 ^ 63 := fun hn => h (Int64.toInt_inj.mp hn)
  have hle := n.le_toInt
  have hlt := n.toInt_lt
  rw [Int64.toInt_neg]
  exact Int.bmod_eq_of_le (by omega) (by omega)

theorem toText_of_neg {n : Int64} (h : n < 0) (hne : n ≠ Int64.minValue) :
    (toText n).toList = '-' :: (toText (-n)).toList := by
  have hneg := toInt_neg_of_ne hne
  have hnonneg : 0 ≤ -n := by
    rw [Int64.lt_iff_toInt_lt] at h
    rw [Int64.le_iff_toInt_le, hneg]
    exact Int.neg_nonneg_of_nonpos (Int.le_of_lt h)
  rw [toText_of_nonneg hnonneg, hneg, Int.natAbs_neg]
  simp [toText, h]

end Integer

variable {H : Type} [HostObject H] {classes : Parser.ClassLookup H}

def Calculates (classes : Parser.ClassLookup H) (least : Nat) (v : Value H) (text : List Char)
    (n : Nat) : Prop :=
  ∃ ts n', DerivesSpine classes least (.const v) ts 0 n' ∧ n' ≤ n ∧ Laid ts text

theorem Laid.singleton {tok : Token} (h : tok.Proper) : Laid [tok] tok := by
  simpa using Laid.cons blank_nil h longest_nil (.nil blank_nil)

theorem blank_space : Blank [' '] := by
  simp [Blank]
  decide

namespace Calculates

variable {least n n' : Nat} {u v w : Value H} {text text' : List Char}

theorem mono (h : Calculates classes least v text n) {least' : Nat} (hle : least' ≤ least)
    (hn : n ≤ n') : Calculates classes least' v text n' := by
  obtain ⟨ts, k, hspine, hk, hlaid⟩ := h
  exact ⟨ts, k, hspine.mono hle, Nat.le_trans hk hn, hlaid⟩

theorem literal {tok : Token} (h : Literal v tok) : Calculates classes 10 v tok 0 :=
  ⟨[tok], 0, ((Derives.const h.lexeme).mono (by decide)).spine, Nat.le_refl 0,
    .singleton h.lexeme.proper⟩

theorem neg (h : Calculates classes 10 v text n) (happly : v.applyUnary .neg = .ok w) :
    Calculates classes 10 w ('-' :: text) (n + 1) := by
  obtain ⟨ts, k, hspine, hk, hlaid⟩ := h
  have hfold : Expr.foldUnary .neg (.const v) = .ok (.const w) := by
    simp only [Expr.foldUnary, Expr.constValue?, happly]
    rfl
  have hmaximal : Token.Maximal ['-'] text :=
    Token.maximal_of_isOperator (.inr ⟨.neg, rfl⟩) (Parser.longest_neg text)
  exact ⟨_, k + 1, (hspine.derives.unary hfold).spine, Nat.add_le_add_right hk 1,
    .cons blank_nil (Token.proper_prefix .neg) hmaximal hlaid⟩

theorem binary (op : BinaryOp) (hop : op.isLogical = false)
    (hleft : Calculates classes op.precedence v text n)
    (hright : Calculates classes (op.precedence + 1) w text' n')
    (happly : v.applyBinary op w = .ok u) :
    Calculates classes op.precedence u (text ++ ' ' :: (op.symbol.toList ++ ' ' :: text'))
      (max n n') := by
  obtain ⟨ts, k, hspine, hk, hlaid⟩ := hleft
  obtain ⟨ts', k', hspine', hk', hlaid'⟩ := hright
  have hspace : ∀ ch, some ' ' = some ch → ¬ IsWordChar ch := by
    rintro ch ⟨⟩
    decide
  have hfold : Expr.foldBinary op (.const v) (.const w) = .ok (.const u) := by
    simp only [Expr.foldBinary, hop, Expr.constValue?, happly]
    rfl
  have hlaidright : Laid (op.symbol.toList :: ts') (' ' :: (op.symbol.toList ++ ' ' :: text')) :=
    .cons blank_space (Token.proper_symbol op)
      (Token.maximal_of_not_isWordChar _ (hspace ' ' rfl) _) (hlaid'.blanks_append blank_space)
  refine ⟨_, _, hspine.binary (Nat.le_refl _) hspine'.derives hfold rfl, ?_,
    hlaid.append hlaidright hspace⟩
  omega

theorem parens (h : Calculates classes 0 v text n) :
    Calculates classes 10 v ('(' :: (text ++ [')'])) (n + 1) := by
  obtain ⟨ts, k, hspine, hk, hlaid⟩ := h
  have hderives : Derives classes 10 (.const v) (['('] :: ts ++ [[')']]) (k + 1) :=
    hspine.derives.group.mono (by decide)
  have hclosing : ∀ ch, some ')' = some ch → ¬ IsWordChar ch := by
    rintro ch ⟨⟩
    decide
  have hproper : Token.Proper ['('] ∧ Token.Proper [')'] := by
    rw [Token.proper_singleton, Token.proper_singleton]
    decide
  have hmaximal : Token.Maximal ['('] (text ++ [')']) :=
    Token.maximal_of_head (by decide) (by decide) (by decide) _
  exact ⟨_, k + 1, hderives.spine, Nat.add_le_add_right hk 1,
    .cons blank_nil hproper.1 hmaximal (hlaid.append (.singleton hproper.2) hclosing)⟩

theorem parse {src : String} {limit : Nat} (h : Calculates classes 0 v src.toList n)
    (hle : n ≤ limit) : Expr.parse classes limit src = .ok (.const v) := by
  obtain ⟨ts, k, hspine, hk, hlaid⟩ := h
  exact (hspine.derives.parse hlaid limit).1 (Nat.le_trans hk hle)

theorem integer {i : Int64} (h : i ≠ Int64.minValue) :
    Calculates classes 10 (.int i) (Integer.toText i).toList 1 := by
  by_cases hnonneg : 0 ≤ i
  . exact (literal (.int i hnonneg)).mono (Nat.le_refl _) (Nat.zero_le 1)
  . have hneg : i < 0 := Int64.not_le.mp hnonneg
    have hle : 0 ≤ -i := by
      rw [Int64.lt_iff_toInt_lt] at hneg
      rw [Int64.le_iff_toInt_le, Integer.toInt_neg_of_ne h]
      exact Int.neg_nonneg_of_nonpos (Int.le_of_lt hneg)
    rw [Integer.toText_of_neg hneg h]
    apply (literal (.int (-i) hle)).neg
    rw [Value.applyUnary, Int64.neg_neg]

end Calculates

namespace Settings

def integerSource (a b : Int64) : String :=
  Integer.toText a ++ " + " ++ Integer.toText b ++ " * 3 - (" ++ Integer.toText a ++ " & "
    ++ Integer.toText b ++ ")"

/--
Every integer but the least one is read back from the way it is printed, and calculations with such
integers fold to what the operators make of them.
-/
theorem parse_printed (s : Settings H) (hpos : 1 ≤ s.maxDepth) :
    (∀ n, n ≠ Int64.minValue → s.parse (Value.toText (.int n : Value H)) = .ok (.const (.int n)))
      ∧ (2 ≤ s.maxDepth → ∀ a b, a ≠ Int64.minValue → b ≠ Int64.minValue →
        s.parse (integerSource a b) = .ok (.const (.int (a + b * 3 - (a &&& b))))) := by
  constructor
  . intro n h
    exact ((Calculates.integer h).mono (Nat.zero_le _) hpos).parse (Nat.le_refl _)
  . intro hdepth a b ha hb
    have hthree : Calculates s.classes 10 (.int 3) ['3'] 0 := .literal (.int 3 (by decide))
    have hproduct : Calculates s.classes 9 (.int (b * 3)) _ _ :=
      ((Calculates.integer hb).mono (by decide) (Nat.le_refl _)).binary .mul rfl hthree rfl
    have hsum : Calculates s.classes 8 (.int (a + b * 3)) _ _ :=
      ((Calculates.integer ha).mono (by decide) (Nat.le_refl _)).binary .add rfl hproduct rfl
    have hbits : Calculates s.classes 6 (.int (a &&& b)) _ _ :=
      ((Calculates.integer ha).mono (by decide) (Nat.le_refl _)).binary .bitAnd rfl
        ((Calculates.integer hb).mono (by decide) (Nat.le_refl _)) rfl
    have hgroup := (hbits.mono (Nat.zero_le _) (Nat.le_refl _)).parens
    have hwhole : Calculates s.classes 8 (.int (a + b * 3 - (a &&& b))) _ _ :=
      hsum.binary .sub rfl (hgroup.mono (by decide) (Nat.le_refl _)) rfl
    have htext : Calculates s.classes 0 (.int (a + b * 3 - (a &&& b))) (integerSource a b).toList 2 := by
      simpa [integerSource, BinaryOp.symbol] using hwhole.mono (Nat.zero_le _) (Nat.le_refl _)
    exact htext.parse hdepth

theorem parse_printed_default :
    let s : Settings Empty := Settings.default 0
    (-7 : Int64) ≠ Int64.minValue ∧ Int64.maxValue ≠ Int64.minValue ∧ 2 ≤ s.maxDepth
      ∧ s.parse (Value.toText (.int (-7) : Value Empty)) = .ok (.const (.int (-7)))
      ∧ s.parse "-7 + 9223372036854775807 * 3 - (-7 & 9223372036854775807)"
        = .ok (.const (.int (-3))) := by
  intro s
  have hleft : (-7 : Int64) ≠ Int64.minValue := by decide
  have hright : Int64.maxValue ≠ Int64.minValue := by decide
  have hdepth : 2 ≤ s.maxDepth := by decide
  have htext : integerSource (-7) Int64.maxValue
      = "-7 + 9223372036854775807 * 3 - (-7 & 9223372036854775807)" := by
    cbv
  have hvalue : -7 + Int64.maxValue * 3 - (-7 &&& Int64.maxValue) = -3 := by decide
  obtain ⟨hprinted, hsource⟩ := parse_printed s (Nat.le_of_succ_le hdepth)
  rw [← htext, ← hvalue]
  exact ⟨hleft, hright, hdepth, hprinted _ hleft, hsource hdepth _ _ hleft hright⟩

/--
The digits of the least integer are out of the range of literals.
-/
theorem parse_printed_least :
    (Settings.default 0 : Settings Empty).parse (Value.toText (.int Int64.minValue : Value Empty))
      = .error ⟨1, .invalidNumber "9223372036854775808"⟩ := by
  cbv

end Settings

end Stencil
