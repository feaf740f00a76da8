import Mathlib.Data.Int.Bitwise
import Mathlib.Data.Int.ModEq
import Mathlib.Tactic.Positivity
import Stencil.Proofs.Expr.Folding

/-!
This module contains what the operators do to integers, measured against exact arithmetic: sums,
differences, products and shifts to the left are exact up to a multiple of `2 ^ 64`, and only a
division by zero fails. For a whole tree of such operators it makes no difference how much of it is
folded before it is evaluated.
-/

namespace Stencil

namespace Integer

/--
The exact number `z` and the integer `n` differ by a multiple of `2 ^ 64`.
-/
def Wraps (z : Int) (n : Int64) : Prop :=
  n.toInt ≡ z [ZMOD 2 ^ 64]

theorem wraps_iff {z : Int} {n : Int64} : Wraps z n ↔ n.toInt = z.bmod (2 ^ 64) := by
  rw [Wraps, Int.ModEq]
  constructor
  . intro h
    have hbmod : n.toInt.bmod (2 ^ 64) = n.toInt := n.toInt_bmod
    rw [← hbmod, ← Int.emod_bmod, ← Int.emod_bmod z]
    exact congrArg (Int.bmod · (2 ^ 64)) h
  . intro h
    rw [h]
    exact Int.bmod_emod

theorem wraps_add (a b : Int64) : Wraps (a.toInt + b.toInt) (a + b) :=
  wraps_iff.mpr (Int64.toInt_add a b)

theorem wraps_sub (a b : Int64) : Wraps (a.toInt - b.toInt) (a - b) :=
  wraps_iff.mpr (Int64.toInt_sub a b)

theorem wraps_mul (a b : Int64) : Wraps (a.toInt * b.toInt) (a * b) :=
  wraps_iff.mpr (Int64.toInt_mul a b)

theorem wraps_neg (a : Int64) : Wraps (-a.toInt) (-a) :=
  wraps_iff.mpr (Int64.toInt_neg a)

-- The two's complement of an integer is the number itself or `2 ^ 64` more.

theorem toInt_eq_toNat_or (n : Int64) :
    n.toInt = n.toBitVec.toNat ∨ n.toInt = n.toBitVec.toNat - 2 ^ 64 := by
  rw [← Int64.toInt_toBitVec, BitVec.toInt_eq_toNat_cond]
  split
  . exact .inl rfl
  . exact .inr rfl

theorem wraps_toNat (n : Int64) : Wraps n.toBitVec.toNat n := by
  rw [Wraps, Int.ModEq]
  have := toInt_eq_toNat_or n
  omega

theorem testBit_toInt (n : Int64) (i : Nat) :
    n.toInt.testBit i = if i < 64 then n.toBitVec.getLsbD i else n.toBitVec.msb := by
  have hlt : n.toBitVec.toNat < 2 ^ 64 := n.toBitVec.isLt
  rw [← Int64.toInt_toBitVec, BitVec.toInt_eq_msb_cond]
  cases hmsb : n.toBitVec.msb with
  | false =>
    rw [if_neg Bool.false_ne_true, ← BitVec.testBit_toNat]
    change n.toBitVec.toNat.testBit i = _
    split
    . rfl
    . exact Nat.testBit_lt_two_pow (hlt.trans_le (Nat.pow_le_pow_right (by decide) (by omega)))
  | true =>
    -- What is below zero is the complement of a natural number.
    have hneg : (n.toBitVec.toNat : Int) - (2 ^ 64 : Nat)
        = Int.negSucc (2 ^ 64 - (n.toBitVec.toNat + 1)) := by
      omega
    rw [if_pos rfl, hneg, ← BitVec.testBit_toNat]
    change (!(2 ^ 64 - (n.toBitVec.toNat + 1)).testBit i) = _
    rw [Nat.testBit_two_pow_sub_succ hlt]
    split <;> simp [*]

theorem testBit_and (a b : Int64) (i : Nat) :
    (a &&& b).toInt.testBit i = (a.toInt.testBit i && b.toInt.testBit i) := by
  rw [testBit_toInt, testBit_toInt, testBit_toInt, Int64.toBitVec_and]
  split <;> simp

theorem testBit_or (a b : Int64) (i : Nat) :
    (a ||| b).toInt.testBit i = (a.toInt.testBit i || b.toInt.testBit i) := by
  rw [testBit_toInt, testBit_toInt, testBit_toInt, Int64.toBitVec_or]
  split <;> simp

theorem testBit_xor (a b : Int64) (i : Nat) :
    (a ^^^ b).toInt.testBit i = (a.toInt.testBit i ^^ b.toInt.testBit i) := by
  rw [testBit_toInt, testBit_toInt, testBit_toInt, Int64.toBitVec_xor]
  split <;> simp

theorem toNat_shiftCount (b : Int64) :
    ((b &&& 63).toBitVec.smod 64).toNat = (b.toInt % 64).toNat := by
  have hand : (b &&& 63).toBitVec.toNat = b.toBitVec.toNat % 64 := by
    rw [Int64.toBitVec_and, BitVec.toNat_and]
    exact Nat.and_two_pow_sub_one_eq_mod _ 6
  have hint : (b &&& 63).toBitVec.toInt = b.toBitVec.toNat % 64 := by
    rw [BitVec.toInt_eq_toNat_of_lt (by omega), hand]
    rfl
  have hsmod : ((b &&& 63).toBitVec.smod 64).toInt = b.toBitVec.toNat % 64 := by
    have h64 : (64 : BitVec 64).toInt = 64 := rfl
    rw [BitVec.toInt_smod, hint, h64, Int.fmod_eq_emod_of_nonneg _ (by decide), Int.emod_emod]
  rw [BitVec.toInt_eq_toNat_cond] at hsmod
  have := toInt_eq_toNat_or b
  split at hsmod <;> omega

theorem wraps_shiftLeft (a b : Int64) :
    Wraps (a.toInt * 2 ^ (b.toInt % 64).toNat) (a <<< (b &&& 63)) := by
  have hnat : (a <<< (b &&& 63)).toInt
      = ((a.toBitVec.toNat <<< (b.toInt % 64).toNat : Nat) : Int).bmod (2 ^ 64) := by
    rw [← Int64.toInt_toBitVec, Int64.toBitVec_shiftLeft, BitVec.shiftLeft_eq', toNat_shiftCount,
      BitVec.toInt_shiftLeft]
  refine (wraps_iff.mpr hnat).trans ?_
  rw [Nat.shiftLeft_eq]
  push_cast
  exact (wraps_toNat a).symm.mul_right _

theorem toInt_shiftRight (a b : Int64) :
    (a >>> (b &&& 63)).toInt = a.toInt.fdiv (2 ^ (b.toInt % 64).toNat) := by
  rw [← Int64.toInt_toBitVec, Int64.toBitVec_shiftRight, BitVec.sshiftRight_eq', toNat_shiftCount,
    BitVec.toInt_sshiftRight, Int64.toInt_toBitVec, Int.shiftRight_eq_div_pow,
    Int.fdiv_eq_ediv_of_nonneg _ (by positivity)]
  push_cast
  rfl

structure Divides (a b q r : Int64) : Prop where
  exact : a.toInt = q.toInt * b.toInt + r.toInt
  lt : |r.toInt| < |b.toInt|
  sign : r.toInt = 0 ∨ r.toInt.sign = a.toInt.sign

theorem divides {a b : Int64} (hb : b ≠ 0) (h : ¬ (a = Int64.minValue ∧ b = -1)) :
    Divides a b (a / b) (a % b) where
  exact := by
    have hdiv : (a / b).toInt = a.toInt.tdiv b.toInt := by
      by_cases ha : a = Int64.minValue
      . exact Int64.toInt_div_of_ne_right a b fun hb' => h ⟨ha, hb'⟩
      . exact Int64.toInt_div_of_ne_left a b ha
    rw [hdiv, Int64.toInt_mod]
    exact (Int.tdiv_mul_add_tmod _ _).symm
  lt := by
    have hb' : b.toInt ≠ 0 := fun h0 => hb (Int64.toInt_inj.mp h0)
    rw [Int64.toInt_mod, Int.abs_eq_natAbs, Int.abs_eq_natAbs, Int.natAbs_tmod]
    exact_mod_cast Nat.mod_lt _ (Int.natAbs_pos.mpr hb')
  sign := by
    rw [Int64.toInt_mod, Int.sign_tmod]
    split
    . next hdvd => exact .inl (Int.tmod_eq_zero_of_dvd hdvd)
    . exact .inr rfl

end Integer

namespace Value

variable {H : Type} [HostObject H]

def Yields (r : Eval (Value H)) (p : Int64 → Prop) : Prop :=
  ∃ n, r = .ok (.int n) ∧ p n

open Integer in
structure IntegerOperators (H : Type) [HostObject H] (a b : Int64) : Prop where
  add : Yields (H := H) (applyBinary .add (.int a) (.int b)) (Wraps (a.toInt + b.toInt))
  sub : Yields (H := H) (applyBinary .sub (.int a) (.int b)) (Wraps (a.toInt - b.toInt))
  mul : Yields (H := H) (applyBinary .mul (.int a) (.int b)) (Wraps (a.toInt * b.toInt))
  neg : Yields (H := H) (applyUnary .neg (.int a)) (Wraps (-a.toInt))
  bitAnd : Yields (H := H) (applyBinary .bitAnd (.int a) (.int b)) fun n =>
    ∀ i, n.toInt.testBit i = (a.toInt.testBit i && b.toInt.testBit i)
  bitOr : Yields (H := H) (applyBinary .bitOr (.int a) (.int b)) fun n =>
    ∀ i, n.toInt.testBit i = (a.toInt.testBit i || b.toInt.testBit i)
  bitXor : Yields (H := H) (applyBinary .bitXor (.int a) (.int b)) fun n =>
    ∀ i, n.toInt.testBit i = (a.toInt.testBit i ^^ b.toInt.testBit i)
  shl : Yields (H := H) (applyBinary .shl (.int a) (.int b))
    (Wraps (a.toInt * 2 ^ (b.toInt % 64).toNat))
  shr : Yields (H := H) (applyBinary .shr (.int a) (.int b)) fun n =>
    n.toInt = a.toInt.fdiv (2 ^ (b.toInt % 64).toNat)
  byZero : b = 0 →
    applyBinary (H := H) .div (.int a) (.int b) = .error .divisionByZero
      ∧ applyBinary (H := H) .rem (.int a) (.int b) = .error .divisionByZero
  division : b ≠ 0 → ¬ (a = Int64.minValue ∧ b = -1) →
    Yields (H := H) (applyBinary .div (.int a) (.int b)) fun q =>
      Yields (H := H) (applyBinary .rem (.int a) (.int b)) (Divides a b q)
  overflow : a = Int64.minValue → b = -1 →
    applyBinary (H := H) .div (.int a) (.int b) = .ok (.int Int64.minValue)
      ∧ applyBinary (H := H) .rem (.int a) (.int b) = .ok (.int 0)

theorem applyBinary_div {a b : Int64} (hb : b ≠ 0) :
    applyBinary (H := H) .div (.int a) (.int b) = .ok (.int (a / b)) := by
  simp [applyBinary, arithmetic, BinaryOp.applyInts, hb, Except.map]

theorem applyBinary_rem {a b : Int64} (hb : b ≠ 0) :
    applyBinary (H := H) .rem (.int a) (.int b) = .ok (.int (a % b)) := by
  simp [applyBinary, arithmetic, BinaryOp.applyInts, hb, Except.map]

theorem integerOperators (a b : Int64) : IntegerOperators H a b where
  add := ⟨a + b, rfl, Integer.wraps_add a b⟩
  sub := ⟨a - b, rfl, Integer.wraps_sub a b⟩
  mul := ⟨a * b, rfl, Integer.wraps_mul a b⟩
  neg := ⟨-a, rfl, Integer.wraps_neg a⟩
  bitAnd := ⟨a &&& b, rfl, Integer.testBit_and a b⟩
  bitOr := ⟨a ||| b, rfl, Integer.testBit_or a b⟩
  bitXor := ⟨a ^^^ b, rfl, Integer.testBit_xor a b⟩
  shl := ⟨a <<< (b &&& 63), rfl, Integer.wraps_shiftLeft a b⟩
  shr := ⟨a >>> (b &&& 63), rfl, Integer.toInt_shiftRight a b⟩
  byZero := by
    rintro rfl
    exact ⟨rfl, rfl⟩
  division := fun hb h =>
    ⟨a / b, applyBinary_div hb, a % b, applyBinary_rem hb, Integer.divides hb h⟩
  overflow := by
    rintro rfl rfl
    rw [applyBinary_div (by decide), applyBinary_rem (by decide)]
    exact ⟨rfl, rfl⟩

end Value

namespace Expr

variable {H : Type} {env : Env H} {t t' : Expr H}

/--
The expression is put together from integers and stands for the number `z` in exact arithmetic.
-/
inductive Exact (env : Env H) : Expr H → Int → Prop where
  | const (n : Int64) : Exact env (.const (.int n)) n.toInt
  | var {name : String} {n : Int64} (h : env.lookup name = some (.int n)) :
    Exact env (.var name) n.toInt
  | neg {e : Expr H} {z : Int} (h : Exact env e z) : Exact env (.unary .neg e) (-z)
  | add {l r : Expr H} {y z : Int} (hl : Exact env l y) (hr : Exact env r z) :
    Exact env (.binary .add l r) (y + z)
  | sub {l r : Expr H} {y z : Int} (hl : Exact env l y) (hr : Exact env r z) :
    Exact env (.binary .sub l r) (y - z)
  | mul {l r : Expr H} {y z : Int} (hl : Exact env l y) (hr : Exact env r z) :
    Exact env (.binary .mul l r) (y * z)
  | group {e : Expr H} {z : Int} (h : Exact env e z) : Exact env (.group e) z

variable [HostObject H]

/--
The second expression is what part of the work makes of the first: variables may have got the values
that they have in the environment, and each operator and group is rebuilt as it is or by its folding
constructor.
-/
inductive Prepared (env : Env H) : Expr H → Expr H → Prop where
  | const (v : Value H) : Prepared env (.const v) (.const v)
  | var (name : String) : Prepared env (.var name) (.var name)
  | bound {name : String} {v : Value H} (h : env.lookup name = some v) :
    Prepared env (.var name) (.const v)
  | unary (op : UnaryOp) {e e' : Expr H} (h : Prepared env e e') :
    Prepared env (.unary op e) (.unary op e')
  | foldUnary {op : UnaryOp} {e e' t : Expr H} (h : Prepared env e e')
    (hfold : foldUnary op e' = .ok t) : Prepared env (.unary op e) t
  | binary (op : BinaryOp) {l l' r r' : Expr H} (hl : Prepared env l l') (hr : Prepared env r r') :
    Prepared env (.binary op l r) (.binary op l' r')
  | foldBinary {op : BinaryOp} {l l' r r' t : Expr H} (hl : Prepared env l l')
    (hr : Prepared env r r') (hfold : foldBinary op l' r' = .ok t) :
    Prepared env (.binary op l r) t
  | group {e e' : Expr H} (h : Prepared env e e') : Prepared env (.group e) (.group e')
  | foldGroup {e e' : Expr H} (h : Prepared env e e') : Prepared env (.group e) (foldGroup e')

theorem Prepared.eval_eq (h : Prepared env t t') : eval env t' = eval env t := by
  induction h with
  | const v => rfl
  | var name => rfl
  | bound h => simp only [eval, h]
  | unary _ _ ih => simp only [eval, ih]
  | @foldUnary op e e' t _ hfold ih =>
    have heval := foldUnary_bind_eval env op e'
    rw [hfold, Outcome.ok_bind] at heval
    simp only [heval, eval, ih]
  | binary _ _ _ ihl ihr => simp only [eval, ihl, ihr]
  | @foldBinary op l l' r r' t _ _ hfold ihl ihr =>
    have heval := foldBinary_bind_eval env op l' r'
    rw [hfold, Outcome.ok_bind] at heval
    simp only [heval, eval, ihl, ihr]
  | group _ ih => simp only [eval, ih]
  | foldGroup _ ih => rw [eval_foldGroup, ih, eval]

theorem Exact.eval_yields {z : Int} (h : Exact env t z) :
    Value.Yields (eval env t) (Integer.Wraps z) := by
  induction h with
  | const n => exact ⟨n, rfl, Int.ModEq.refl _⟩
  | @var name n h => exact ⟨n, by rw [eval, h], Int.ModEq.refl _⟩
  | neg _ ih =>
    obtain ⟨n, hn, hz⟩ := ih
    exact ⟨-n, by rw [eval, hn]; rfl, (Integer.wraps_neg n).trans hz.neg⟩
  | add _ _ ihl ihr =>
    obtain ⟨m, hm, hy⟩ := ihl
    obtain ⟨n, hn, hz⟩ := ihr
    exact ⟨m + n, by rw [eval, hm, hn]; rfl, (Integer.wraps_add m n).trans (hy.add hz)⟩
  | sub _ _ ihl ihr =>
    obtain ⟨m, hm, hy⟩ := ihl
    obtain ⟨n, hn, hz⟩ := ihr
    exact ⟨m - n, by rw [eval, hm, hn]; rfl, (Integer.wraps_sub m n).trans (hy.sub hz)⟩
  | mul _ _ ihl ihr =>
    obtain ⟨m, hm, hy⟩ := ihl
    obtain ⟨n, hn, hz⟩ := ihr
    exact ⟨m * n, by rw [eval, hm, hn]; rfl, (Integer.wraps_mul m n).trans (hy.mul hz)⟩
  | group _ ih =>
    obtain ⟨n, hn, hz⟩ := ih
    exact ⟨n, by rw [eval, hn], hz⟩

-- An operator that has a value can be folded.

theorem exists_foldUnary {op : UnaryOp} {e e' : Expr H} {v : Value H} (h : Prepared env e e')
    (heval : eval env (.unary op e) = .ok v) : ∃ t, foldUnary op e' = .ok t := by
  rw [← (h.unary op).eval_eq, ← foldUnary_bind_eval] at heval
  obtain ⟨t, ht, -⟩ := Outcome.bind_eq_ok.mp heval
  exact ⟨t, ht⟩

theorem exists_foldBinary {op : BinaryOp} {l l' r r' : Expr H} {v : Value H}
    (hl : Prepared env l l') (hr : Prepared env r r')
    (heval : eval env (.binary op l r) = .ok v) : ∃ t, foldBinary op l' r' = .ok t := by
  rw [← (Prepared.binary op hl hr).eval_eq, ← foldBinary_bind_eval] at heval
  obtain ⟨t, ht, -⟩ := Outcome.bind_eq_ok.mp heval
  exact ⟨t, ht⟩

def Folds (env : Env H) (bound : String → Option (Value H)) (t : Expr H) : Prop :=
  ∃ t', (t.substitute bound).fold = .ok t' ∧ Prepared env t t'

variable {bound : String → Option (Value H)}

theorem Folds.binary {op : BinaryOp} {l r : Expr H} {v : Value H} (hl : Folds env bound l)
    (hr : Folds env bound r) (heval : eval env (.binary op l r) = .ok v) :
    Folds env bound (.binary op l r) := by
  obtain ⟨l', hl', hpl⟩ := hl
  obtain ⟨r', hr', hpr⟩ := hr
  obtain ⟨t, ht⟩ := exists_foldBinary hpl hpr heval
  refine ⟨t, ?_, .foldBinary hpl hpr ht⟩
  rw [substitute, fold, hl', hr']
  exact ht

theorem Exact.folds (hbound : env.Extends bound) {z : Int} (h : Exact env t z) :
    Folds env bound t := by
  induction h with
  | const n => exact ⟨_, rfl, .const _⟩
  | @var name n h =>
    cases hname : bound name with
    | none => exact ⟨.var name, by rw [substitute, hname]; rfl, .var name⟩
    | some v => exact ⟨.const v, by rw [substitute, hname]; rfl, .bound (hbound name v hname)⟩
  | @neg e z h ih =>
    obtain ⟨e', he', hp⟩ := ih
    obtain ⟨v, hv, -⟩ := h.neg.eval_yields
    obtain ⟨t, ht⟩ := exists_foldUnary hp hv
    refine ⟨t, ?_, .foldUnary hp ht⟩
    rw [substitute, fold, he']
    exact ht
  | add hl hr ihl ihr =>
    obtain ⟨v, hv, -⟩ := (hl.add hr).eval_yields
    exact ihl.binary ihr hv
  | sub hl hr ihl ihr =>
    obtain ⟨v, hv, -⟩ := (hl.sub hr).eval_yields
    exact ihl.binary ihr hv
  | mul hl hr ihl ihr =>
    obtain ⟨v, hv, -⟩ := (hl.mul hr).eval_yields
    exact ihl.binary ihr hv
  | group _ ih =>
    obtain ⟨e', he', hp⟩ := ih
    refine ⟨foldGroup e', ?_, .foldGroup hp⟩
    rw [substitute, fold, he']
    rfl

/--
Integer arithmetic is exact up to a multiple of `2 ^ 64`, for single operators and for trees of them,
and so whatever part of the work folding has taken over. It can take over the whole of it.
-/
theorem integers_exact (H : Type) [HostObject H] :
    (∀ a b : Int64, Value.IntegerOperators H a b)
      ∧ ∀ (env : Env H) (t : Expr H) (z : Int), Exact env t z →
        (∀ t', Prepared env t t' → Value.Yields (eval env t') (Integer.Wraps z))
          ∧ ∀ bound, env.Extends bound → Folds env bound t := by
  refine ⟨Value.integerOperators, fun env t z h => ⟨fun t' ht' => ?_, fun bound hbound => ?_⟩⟩
  . rw [ht'.eval_eq]
    exact h.eval_yields
  . exact h.folds hbound

theorem integers_exact_ends :
    let lookup : String → Option (Value Empty) := fun name =>
      if name == "x" then some (.int Int64.minValue) else none
    let env : Env Empty := ⟨lookup, ⟨fun _ _ => none, fun _ _ _ => none⟩⟩
    let t : Expr Empty := .unary .neg (.group (.binary .add
      (.binary .mul (.var "x") (.const (.int 3))) (.const (.int Int64.maxValue))))
    Exact env t (2 ^ 64 + 1)
      ∧ env.Extends lookup
      ∧ (t.substitute lookup).fold = .ok (.const (.int 1))
      ∧ Value.Yields (eval env t) (Integer.Wraps (2 ^ 64 + 1))
      ∧ Folds env lookup t := by
  intro lookup env t
  have hexact : Exact env t (2 ^ 64 + 1) :=
    .neg (.group (.add (.mul (.var (n := Int64.minValue) rfl) (.const 3)) (.const Int64.maxValue)))
  have hextends : env.Extends lookup := fun name v hv => hv
  obtain ⟨-, htrees⟩ := integers_exact Empty
  obtain ⟨hprepared, hfolds⟩ := htrees env t _ hexact
  have hplain : Prepared env t t :=
    .unary _ (.group (.binary _ (.binary _ (.var "x") (.const _)) (.const _)))
  exact ⟨hexact, hextends, rfl, hprepared t hplain, hfolds lookup hextends⟩

end Expr

end Stencil
