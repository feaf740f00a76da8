import Mathlib.Logic.Function.Iterate
import Stencil.Proofs.Height
import Stencil.Proofs.RoundTrip

/-!
This module contains sources whose trees are as tall as the nesting limit allows. On each level of
parentheses the nine kinds of binary operators stand on top of each other, each with as many operators
as there are levels left.
-/

namespace Stencil

open Outcome

variable {H : Type} [HostObject H]

namespace Expr

/--
A chain of `n + 1` operators at whose bottom the expression is a right operand.
-/
def pile (op : BinaryOp) (n : Nat) (e : Expr H) : Expr H :=
  (fun left => .binary op left (.var "a"))^[n] (.binary op (.var "a") e)

def looser : List BinaryOp :=
  [.mul, .add, .shl, .bitAnd, .bitXor, .bitOr, .eq, .and, .or]

def piles (n : Nat) (e : Expr H) : Expr H :=
  looser.foldl (fun e op => pile op n e) e

def tower : Nat → Expr H
  | 0 => .chain (.var "a") [.property "a"]
  | n + 1 => .ternary (piles n (.chain (.group (tower n)) [.property "a"])) (.var "a") (.var "a")

structure Fits (classes : Parser.ClassLookup H) (n height : Nat) (e : Expr H) : Prop where
  written : ∃ ts, Written Literal classes (.expr e) ts
  fold_eq : e.fold = .ok e
  nesting_le : e.nesting ≤ n
  height_eq : e.height = height

variable {classes : Parser.ClassLookup H} {n k : Nat} {e : Expr H}

theorem fits_var (n : Nat) : (var "a").Fits classes n 1 :=
  ⟨⟨_, .var ⟨'a', [], rfl, by decide, by simp⟩ rfl⟩, rfl, Nat.zero_le n, rfl⟩

theorem Fits.height_pos (h : e.Fits classes n k) : 0 < k := by
  rw [← h.height_eq, Expr.height_eq]
  exact Nat.succ_pos _

theorem Fits.binary {op : BinaryOp} {left right : Expr H} {levels' k' : Nat}
    (hl : left.Fits classes n k) (hr : right.Fits classes n k')
    (hlevel : op.precedence ≤ left.level) (hlevel' : op.precedence < right.level)
    (hnone : left.constValue? = none) (hconst : (Expr.binary op left right).isConst = false)
    (hlevels : left.levels = levels') (hright : levels' + right.nesting ≤ n) (hlt : levels' < n) :
    (Expr.binary op left right).Fits classes n (max k k' + 1)
      ∧ (Expr.binary op left right).levels = levels' + 1 := by
  obtain ⟨ts, hwritten⟩ := hl.written
  obtain ⟨ts', hwritten'⟩ := hr.written
  have hfold : (Expr.binary op left right).fold = .ok (.binary op left right) := by
    rw [fold, hl.fold_eq, hr.fold_eq]
    exact foldBinary_of_constValue? hnone op right
  have hsucc : (Expr.binary op left right).levels = levels' + 1 := by
    rw [levels, hfold]
    simp [hconst, hlevels]
  refine ⟨⟨⟨_, .binary hlevel hlevel' hwritten hwritten'⟩, hfold, ?_, ?_⟩, hsucc⟩
  . have := hl.nesting_le
    rw [nesting, hsucc, hlevels]
    omega
  . rw [height, hl.height_eq, hr.height_eq]

theorem Fits.pile (h : e.Fits classes n k) {op : BinaryOp} (hlevel : op.precedence < e.level)
    {m : Nat} (hm : m < n) :
    (pile op m e).Fits classes n (k + m + 1) ∧ (Expr.pile op m e).levels = m + 1
      ∧ (Expr.pile op m e).level = op.precedence ∧ (Expr.pile op m e).constValue? = none := by
  have hpos := h.height_pos
  have hten := Parser.precedence_lt op
  induction m with
  | zero =>
    have hnesting := h.nesting_le
    have hvar : (var "a" : Expr H).levels = 0 := rfl
    obtain ⟨hfits, hlevels⟩ := (fits_var n).binary h (show op.precedence ≤ 12 by omega) hlevel rfl
      rfl hvar (by omega) hm
    rw [Nat.max_eq_right hpos] at hfits
    exact ⟨hfits, hlevels, rfl, rfl⟩
  | succ m ih =>
    obtain ⟨hfits, hlevels, hsame, hnone⟩ := ih (by omega)
    have hstep : Expr.pile op (m + 1) e = .binary op (Expr.pile op m e) (.var "a") := by
      rw [Expr.pile, Function.iterate_succ_apply']
      rfl
    rw [hstep]
    obtain ⟨hfits, hlevels⟩ := hfits.binary (fits_var n) (Nat.le_of_eq hsame.symm)
      (show op.precedence < 12 by omega) hnone (by simp [isConst]) hlevels
      (show m + 1 + 0 ≤ n by omega) hm
    rw [Nat.max_eq_left (by omega)] at hfits
    exact ⟨hfits, hlevels, rfl, rfl⟩

theorem Fits.foldl_pile (h : e.Fits classes (n + 1) k) (ops : List BinaryOp)
    (hpos : 0 < e.level) (hfirst : ∀ op, ops.head? = some op → op.precedence < e.level)
    (hloose : ops.IsChain fun op op' => op'.precedence < op.precedence) :
    (ops.foldl (fun e op => Expr.pile op n e) e).Fits classes (n + 1) (k + ops.length * (n + 1))
      ∧ 0 < (ops.foldl (fun e op => Expr.pile op n e) e).level := by
  induction ops generalizing e k with
  | nil => simpa using ⟨h, hpos⟩
  | cons op ops ih =>
    obtain ⟨hpile, _, hlevel, _⟩ := h.pile (hfirst op rfl) (Nat.lt_succ_self n)
    rw [List.foldl_cons, List.length_cons]
    have hheight : k + (ops.length + 1) * (n + 1) = k + n + 1 + ops.length * (n + 1) := by
      ring
    rw [hheight]
    apply ih hpile
    . rw [hlevel]
      exact Parser.precedence_pos op
    . intro op' hop'
      rw [hlevel]
      obtain ⟨rest, rfl⟩ := List.head?_eq_some_iff.mp hop'
      exact (List.isChain_cons_cons.mp hloose).1
    . exact hloose.of_cons

theorem Fits.piles (h : e.Fits classes (n + 1) k) (hlevel : 9 < e.level) :
    (piles n e).Fits classes (n + 1) (k + 9 * (n + 1)) ∧ 0 < (Expr.piles n e).level := by
  apply h.foldl_pile looser (Nat.lt_trans (by decide) hlevel)
  . rintro _ ⟨⟩
    exact hlevel
  . decide

theorem Fits.group (h : e.Fits classes n k) (hgroup : foldGroup e = .group e) :
    (Expr.group e).Fits classes (n + 1) (k + 1) := by
  obtain ⟨ts, hwritten⟩ := h.written
  refine ⟨⟨_, .group hwritten⟩, ?_, Nat.succ_le_succ h.nesting_le, congrArg _ h.height_eq⟩
  rw [fold, h.fold_eq, ← hgroup]
  rfl

theorem Fits.chain (h : e.Fits classes n k) (hlevel : 12 ≤ e.level) :
    (Expr.chain e [.property "a"]).Fits classes n (k + 1) := by
  obtain ⟨ts, hwritten⟩ := h.written
  have hsteps : Written Literal classes (.steps [.property "a"]) [['.'], "a".toList] :=
    .property ⟨'a', [], rfl, by decide, by simp⟩ .noSteps
  refine ⟨⟨_, .chain hlevel (List.cons_ne_nil _ _) hwritten hsteps⟩, ?_, ?_, ?_⟩
  . rw [fold, h.fold_eq]
    rfl
  . have := h.nesting_le
    simp only [nesting, nestingSteps, nestingStep]
    omega
  . have := h.height_eq
    simp only [height, heightSteps, heightStep]
    omega

theorem Fits.ternary (h : e.Fits classes (n + 1) k) (hlevel : 0 < e.level) :
    (Expr.ternary e (.var "a") (.var "a")).Fits classes (n + 1) (k + 1) := by
  obtain ⟨ts, hwritten⟩ := h.written
  have hvar : (Expr.var "a").Fits classes n 1 := fits_var n
  obtain ⟨ts', hwritten'⟩ := hvar.written
  refine ⟨⟨_, .ternary hlevel hwritten hwritten' hwritten'⟩, ?_, ?_, ?_⟩
  . rw [fold, h.fold_eq]
    simp [fold, foldTernary, constValue?]
  . have := h.nesting_le
    simp only [nesting]
    omega
  . have := h.height_eq
    have := h.height_pos
    simp only [height]
    omega

theorem fits_tower (n : Nat) : (tower n).Fits classes n (tallest n) := by
  induction n with
  | zero => exact (fits_var 0).chain (Nat.le_refl 12)
  | succ n ih =>
    have hgroup : foldGroup (tower n : Expr H) = .group (tower n) := by
      cases n <;> rfl
    have hcore := (ih.group hgroup).chain (Nat.le_refl 12)
    obtain ⟨hcond, hlevel⟩ := hcore.piles (show 9 < 11 by decide)
    have htower := hcond.ternary hlevel
    have hheight : tallest n + 1 + 1 + 9 * (n + 1) + 1 = tallest (n + 1) := by
      rw [tallest]
      omega
    rw [hheight] at htower
    exact htower

theorem exists_tallest (classes : Parser.ClassLookup H) (limit : Nat) :
    ∃ src r, Expr.parse classes limit src = .ok r ∧ r.height = tallest limit := by
  have hfits : (tower limit).Fits classes limit (tallest limit) := fits_tower limit
  obtain ⟨ts, hwritten⟩ := hfits.written
  have hlaid : Laid ts (String.ofList (ts.flatMap (' ' :: ·))).toList := by
    rw [String.toList_ofList]
    exact (spaced_flatMap ts).laid hwritten.lexemes.proper
  rcases parse_of_laid hwritten.lexemes hlaid limit with
    ⟨r, hparse, hfold, _⟩ | ⟨err, _, ⟨cause, hfold, _⟩ | ⟨hlt, _⟩⟩
  . rw [hfits.fold_eq] at hfold
    cases hfold
    exact ⟨_, _, hparse, hfits.height_eq⟩
  . rw [hfits.fold_eq] at hfold
    cases hfold
  . exact absurd hfits.nesting_le (Nat.not_le_of_lt hlt)

/--
The nesting limit bounds the paths of parsed trees by a polynomial of degree two, and by no less.
-/
theorem longest_path_of_parse (classes : Parser.ClassLookup H) (limit : Nat) :
    (∀ src r path, Expr.parse classes limit src = .ok r → IsPath (r :: path) →
        (r :: path).length ≤ 2 + 3 * limit + 9 * (limit * (limit + 1) / 2))
      ∧ ∃ src r path, Expr.parse classes limit src = .ok r ∧ IsPath (r :: path)
        ∧ (r :: path).length = 2 + 3 * limit + 9 * (limit * (limit + 1) / 2) := by
  rw [← tallest_eq]
  constructor
  . intro src r path hparse hpath
    exact Nat.le_trans hpath.length_le (height_le_of_parse hparse)
  . obtain ⟨src, r, hparse, hheight⟩ := exists_tallest classes limit
    obtain ⟨path, hpath, hlength⟩ := r.exists_path
    exact ⟨src, r, path, hparse, hpath, hlength.trans hheight⟩

/--
Three levels make room for a path of 49 nodes, which are more than twelve for each level and twelve
for the outermost expression.
-/
theorem long_path_of_parse :
    let src := "a||a&&a==a|a^a&a<<a+a*(a||a&&a==a|a^a&a<<a+a*a.a*a+a<<a&a^a|a==a&&a||a).a*a*a+a+a<<a<<a&a&a^a^a|a|a==a==a&&a&&a||a||a"
    ∃ (r : Expr Empty) (path : List (Expr Empty)), Expr.parse (fun _ => none) 3 src = .ok r
      ∧ IsPath (r :: path) ∧ 12 * (3 + 1) < (r :: path).length := by
  intro src
  have hheight : (Expr.parse (H := Empty) (fun _ => none) 3 src).map height = .ok 49 := by
    decide +kernel
  obtain ⟨r, hparse, hr⟩ := map_eq_ok.mp hheight
  obtain ⟨path, hpath, hlength⟩ := r.exists_path
  exact ⟨r, path, hparse, hpath, by omega⟩

end Expr

end Stencil
