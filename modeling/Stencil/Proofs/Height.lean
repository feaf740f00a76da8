import Mathlib.Tactic.Ring
import Stencil.Proofs.NormalForm

/-!
This module contains how tall a parsed tree may be. Within the nesting limit the binary operators of
one chain pile up on its left side, and a whole chain may stand at the bottom of another one whose
operators bind more loosely. So every level of brackets makes room for nine chains on top of each other,
each as long as the levels that are left, and the height grows with the square of the limit.
-/

namespace Stencil

open Outcome

variable {H : Type}

namespace Expr

mutual
def height : Expr H → Nat
  | const _ => 1
  | var _ => 1
  | unary _ operand => height operand + 1
  | binary _ left right => max (height left) (height right) + 1
  | ternary cond yes no => max (height cond) (max (height yes) (height no)) + 1
  | array items => heightAll items + 1
  | map entries => heightEntries entries + 1
  | group inner => height inner + 1
  | classRef _ => 1
  | staticField _ _ => 1
  | staticCall _ _ args => heightAll args + 1
  | chain base steps => max (height base) (heightSteps steps) + 1

def heightAll : List (Expr H) → Nat
  | [] => 0
  | e :: rest => max (height e) (heightAll rest)

def heightEntries : List (Expr H × Expr H) → Nat
  | [] => 0
  | (k, e) :: rest => max (max (height k) (height e)) (heightEntries rest)

def heightSteps : List (Step H) → Nat
  | [] => 0
  | step :: rest => max (heightStep step) (heightSteps rest)

def heightStep : Step H → Nat
  | .property _ => 0
  | .method _ args => heightAll args
  | .index key => height key
end

theorem heightAll_append (es es' : List (Expr H)) :
    heightAll (es ++ es') = max (heightAll es) (heightAll es') := by
  induction es with
  | nil => simp [heightAll]
  | cons e es ih => rw [List.cons_append, heightAll, heightAll, ih, Nat.max_assoc]

theorem heightEntries_eq (entries : List (Expr H × Expr H)) :
    heightEntries entries = heightAll (entries.flatMap fun entry => [entry.1, entry.2]) := by
  induction entries with
  | nil => rfl
  | cons entry entries ih =>
    rw [heightEntries, ih, List.flatMap_cons, heightAll_append]
    simp [heightAll]

theorem heightSteps_eq (steps : List (Step H)) :
    heightSteps steps = heightAll (steps.flatMap Step.children) := by
  induction steps with
  | nil => rfl
  | cons step steps ih =>
    rw [heightSteps, ih, List.flatMap_cons, heightAll_append]
    cases step <;> simp [heightStep, Step.children, heightAll]

theorem height_eq (e : Expr H) : e.height = heightAll e.children + 1 := by
  cases e with
  | map entries => rw [height, children, heightEntries_eq]
  | chain base steps => rw [height, children, heightSteps_eq, heightAll]
  | _ => simp [height, children, heightAll]

theorem height_le_heightAll {e : Expr H} {es : List (Expr H)} (h : e ∈ es) :
    e.height ≤ heightAll es := by
  induction es with
  | nil => cases h
  | cons e' es ih =>
    rw [heightAll]
    rcases List.mem_cons.mp h with rfl | h
    . omega
    . have := ih h
      omega

theorem exists_height_eq_heightAll {es : List (Expr H)} (h : es ≠ []) :
    ∃ e ∈ es, e.height = heightAll es := by
  induction es with
  | nil => exact absurd rfl h
  | cons e es ih =>
    rw [heightAll]
    by_cases hle : heightAll es ≤ e.height
    . exact ⟨e, List.mem_cons_self, by omega⟩
    . cases es with
      | nil => exact absurd (Nat.zero_le _) hle
      | cons e' es =>
        obtain ⟨e'', hmem, heq⟩ := ih (List.cons_ne_nil e' es)
        exact ⟨e'', List.mem_cons_of_mem e hmem, by omega⟩

def IsPath (path : List (Expr H)) : Prop :=
  path.IsChain fun e c => c ∈ e.children

theorem IsPath.length_le {e : Expr H} {path : List (Expr H)} (h : IsPath (e :: path)) :
    (e :: path).length ≤ e.height := by
  induction path generalizing e with
  | nil =>
    rw [height_eq]
    exact Nat.succ_le_succ (Nat.zero_le _)
  | cons c path ih =>
    obtain ⟨hc, h⟩ := List.isChain_cons_cons.mp h
    have := ih h
    have := height_le_heightAll hc
    rw [height_eq, List.length_cons]
    omega

theorem exists_path (e : Expr H) :
    ∃ path, IsPath (e :: path) ∧ (e :: path).length = e.height := by
  generalize hn : e.height = n
  induction n generalizing e with
  | zero =>
    rw [height_eq] at hn
    cases hn
  | succ n ih =>
    rw [height_eq, Nat.succ_inj] at hn
    cases hchildren : e.children with
    | nil =>
      rw [hchildren] at hn
      obtain rfl : 0 = n := hn
      exact ⟨[], List.IsChain.singleton e, rfl⟩
    | cons c cs =>
      obtain ⟨c', hmem, heq⟩ := exists_height_eq_heightAll (hchildren ▸ List.cons_ne_nil c cs)
      obtain ⟨path, hpath, hlength⟩ := ih c' (heq.trans hn)
      refine ⟨c' :: path, List.isChain_cons_cons.mpr ⟨hmem, hpath⟩, ?_⟩
      rw [List.length_cons, hlength]

end Expr

-- The largest heights

/--
The largest height of a tree whose constructs are nested on `n` levels.
-/
def tallest : Nat → Nat
  | 0 => 2
  | n + 1 => tallest n + 9 * (n + 1) + 3

def tallestPrimary : Nat → Nat
  | 0 => 1
  | n + 1 => tallest n + 1

theorem tallest_eq (n : Nat) : tallest n = 2 + 3 * n + 9 * (n * (n + 1) / 2) := by
  induction n with
  | zero => rfl
  | succ n ih =>
    have hsum : (n + 1) * (n + 1 + 1) / 2 = n * (n + 1) / 2 + (n + 1) := by
      have hmul : (n + 1) * (n + 1 + 1) = n * (n + 1) + (n + 1) * 2 := by
        ring
      rw [hmul, Nat.add_mul_div_right _ _ (by decide)]
    rw [tallest, ih, hsum]
    omega

example : tallest 3 = 65 := by
  decide

theorem tallestPrimary_pos (n : Nat) : 0 < tallestPrimary n := by
  cases n <;> simp [tallestPrimary]

theorem tallestPrimary_add_le (n : Nat) : 9 * n + tallestPrimary n + 1 ≤ tallest n := by
  cases n with
  | zero => decide
  | succ n =>
    rw [tallest, tallestPrimary]
    omega

variable [HostObject H]

/--
What the nesting levels of an expression say about the height of what it folds to: the tighter it
binds, the fewer chains of operators there can be on top of each other.
-/
structure Expr.Limited (e r : Expr H) (n : Nat) : Prop where
  primary : 12 ≤ e.level → r.height ≤ tallestPrimary n
  spine : 0 < e.level → r.height ≤ e.levels + (9 - e.level) * n + tallestPrimary n + 1
  any : r.height ≤ tallest n

namespace Expr.Limited

variable {e r : Expr H} {n : Nat}

theorem of_primary (h : r.height ≤ tallestPrimary n) : e.Limited r n := by
  have := tallestPrimary_add_le n
  constructor <;> omega

theorem of_spine (hpos : 0 < e.level) (hlt : e.level < 12)
    (h : r.height ≤ e.levels + (9 - e.level) * n + tallestPrimary n + 1) (hn : e.nesting ≤ n) :
    e.Limited r n := by
  have hlevels := e.levels_le_nesting
  have hmul : (9 - e.level) * n ≤ 8 * n := Nat.mul_le_mul_right n (by omega)
  have := tallestPrimary_add_le n
  constructor <;> omega

theorem const (v : Value H) : e.Limited (.const v) n := by
  apply of_primary
  rw [height]
  exact tallestPrimary_pos n

theorem unary {op : UnaryOp} {operand r' : Expr H} (h : operand.Limited r' n)
    (hfold : foldUnary op r' = .ok r) : (Expr.unary op operand).Limited r (n + 1) := by
  rcases foldUnary_eq_ok hfold with ⟨v, rfl⟩ | ⟨rfl, _⟩
  . exact const v
  . apply of_primary
    rw [height, tallestPrimary]
    exact Nat.succ_le_succ h.any

theorem right_spine (hr : e.Limited r n) (hn : e.nesting ≤ n) {p : Nat} (hlt : p < e.level) :
    r.height ≤ (9 - p) * n + tallestPrimary n + 1 := by
  -- A right operand binds more tightly than its operator, so that the chain that it may be is
  -- shorter than those that the operator could still have above it.
  have hspine := hr.spine (by omega)
  have hlevels := e.levels_le_nesting
  by_cases hten : 10 ≤ e.level
  . rw [levels_of_level hten, Nat.sub_eq_zero_of_le (by omega), Nat.zero_mul] at hspine
    omega
  . have hmul : (9 - e.level + 1) * n ≤ (9 - p) * n := Nat.mul_le_mul_right n (by omega)
    rw [Nat.succ_mul] at hmul
    omega

theorem binary {op : BinaryOp} {left right : Expr H}
    (hl : ∀ l, left.fold = .ok l → left.Limited l n)
    (hr : ∀ r', right.fold = .ok r' → right.Limited r' n)
    (hlevel : op.precedence ≤ left.level) (hlevel' : op.precedence < right.level)
    (hn : (Expr.binary op left right).nesting ≤ n)
    (hfold : (Expr.binary op left right).fold = .ok r) (hnormal : r.Normal) :
    (Expr.binary op left right).Limited r n := by
  have hlevels := hfold
  obtain ⟨l, hleft, hfold⟩ := bind_eq_ok.mp hfold
  obtain ⟨r', hright, hfold⟩ := bind_eq_ok.mp hfold
  rcases foldBinary_eq_ok hfold with ⟨v, rfl⟩ | ⟨rfl, _⟩
  . exact const v
  . have hpos := Parser.precedence_pos op
    have hten := Parser.precedence_lt op
    have hconst : ¬ (Expr.binary op l r').isConst = true := by
      intro h
      obtain ⟨v, hv⟩ := hnormal.isNormal.eq_const h
      cases hv
    have hlevels : (Expr.binary op left right).levels = left.levels + 1 := by
      rw [levels, hlevels]
      exact if_neg hconst
    have hspine := (hl l hleft).spine (by omega)
    have hmul : (9 - left.level) * n ≤ (9 - op.precedence) * n :=
      Nat.mul_le_mul_right n (by omega)
    have hspine' : r'.height ≤ (9 - op.precedence) * n + tallestPrimary n + 1 := by
      apply (hr r' hright).right_spine _ hlevel'
      rw [nesting] at hn
      omega
    have hlevel : (Expr.binary op left right).level = op.precedence := rfl
    apply of_spine (by omega) (by omega) _ hn
    rw [hlevels, hlevel, height]
    omega

theorem ternary {cond yes no c y z : Expr H} (hc : cond.Limited c (n + 1)) (hy : yes.Limited y n)
    (hz : no.Limited z n) (hlevel : 0 < cond.level) (hn : cond.nesting ≤ n + 1)
    (hfold : foldTernary c y z = .ok r) : (Expr.ternary cond yes no).Limited r (n + 1) := by
  have hany : r.height ≤ tallest (n + 1) := by
    have hy := hy.any
    have hz := hz.any
    have hmore : tallest n ≤ tallest (n + 1) := by
      rw [tallest]
      omega
    rcases foldTernary_eq_ok hfold with ⟨rfl | rfl, _⟩ | ⟨rfl, _⟩
    . omega
    . omega
    . have hspine := hc.spine hlevel
      have hlevels := cond.levels_le_nesting
      have hmul : (9 - cond.level) * (n + 1) ≤ 8 * (n + 1) := Nat.mul_le_mul_right _ (by omega)
      rw [height]
      simp only [tallest, tallestPrimary] at *
      omega
  have hlevel : (Expr.ternary cond yes no).level = 0 := rfl
  constructor <;> omega

end Expr.Limited

def Phrase.Limited : Phrase H → Prop
  | expr e => ∀ r n, e.fold = .ok r → e.nesting ≤ n → e.Limited r n
  | items es => ∀ rs n, Expr.foldAll es = .ok rs → Expr.nestingAll es ≤ n →
    Expr.heightAll rs ≤ tallest n
  | key k => ∀ r n, k.fold = .ok r → k.nesting ≤ n → r.height ≤ tallest n
  | entries es => ∀ rs n, Expr.foldEntries es = .ok rs → Expr.nestingEntries es ≤ n →
    Expr.heightEntries rs ≤ tallest n
  | steps ss => ∀ rs n, Expr.foldSteps ss = .ok rs → Expr.nestingSteps ss ≤ n →
    Expr.heightSteps rs < tallestPrimary n

variable {Spelled : Value H → Token → Prop} {classes : Parser.ClassLookup H}

theorem tallest_pos (n : Nat) : 0 < tallest n := by
  have := tallestPrimary_add_le n
  omega

theorem Written.limited {phrase : Phrase H} {ts : List Token}
    (h : Written Spelled classes phrase ts) : phrase.Limited := by
  induction h with
  | literal _ =>
    rintro _ n ⟨⟩ _
    exact Expr.Limited.const _
  | var _ _ =>
    rintro _ n ⟨⟩ _
    exact Expr.Limited.of_primary (tallestPrimary_pos n)
  | unary _ _ ih =>
    intro r n h hn
    obtain ⟨operand, hoperand, h⟩ := bind_eq_ok.mp h
    obtain ⟨m, rfl, hm⟩ := exists_succ hn
    exact (ih operand m hoperand hm).unary h
  | binary hlevel hlevel' hleft hright ih ih' =>
    intro r n h hn
    apply Expr.Limited.binary _ _ hlevel hlevel' hn h
    . exact (Written.binary hlevel hlevel' hleft hright).foldsNormal r h
    . intro l hl
      rw [Expr.nesting] at hn
      exact ih l n hl (by omega)
    . intro r' hr'
      rw [Expr.nesting] at hn
      exact ih' r' n hr' (by omega)
  | ternary hlevel _ _ _ ih ih' ih'' =>
    intro r n h hn
    obtain ⟨cond, hcond, h⟩ := bind_eq_ok.mp h
    obtain ⟨yes, hyes, h⟩ := bind_eq_ok.mp h
    obtain ⟨no, hno, h⟩ := bind_eq_ok.mp h
    rw [Expr.nesting] at hn
    obtain ⟨m, rfl, hm⟩ := exists_succ (le_of_max_le_right hn)
    exact (ih cond (m + 1) hcond (by omega)).ternary (ih' yes m hyes (by omega))
      (ih'' no m hno (by omega)) hlevel (by omega) h
  | group _ ih =>
    intro r n h hn
    obtain ⟨inner, hinner, rfl⟩ := bind_pure_eq_ok.mp h
    obtain ⟨m, rfl, hm⟩ := exists_succ hn
    have := (ih inner m hinner hm).any
    rcases Expr.foldGroup_eq inner with ⟨v, hv⟩ | ⟨hgroup, _⟩
    . rw [hv]
      exact Expr.Limited.const v
    . rw [hgroup]
      exact Expr.Limited.of_primary (Nat.succ_le_succ this)
  | array _ ih =>
    intro r n h hn
    obtain ⟨items, hitems, rfl⟩ := bind_pure_eq_ok.mp h
    obtain ⟨m, rfl, hm⟩ := exists_succ hn
    exact Expr.Limited.of_primary (Nat.succ_le_succ (ih items m hitems hm))
  | map _ ih =>
    intro r n h hn
    obtain ⟨entries, hentries, rfl⟩ := bind_pure_eq_ok.mp h
    obtain ⟨m, rfl, hm⟩ := exists_succ hn
    exact Expr.Limited.of_primary (Nat.succ_le_succ (ih entries m hentries hm))
  | emptyMap =>
    rintro _ n ⟨⟩ _
    exact Expr.Limited.of_primary (tallestPrimary_pos n)
  | staticField _ _ _ =>
    rintro _ n ⟨⟩ _
    exact Expr.Limited.of_primary (tallestPrimary_pos n)
  | staticCall _ _ _ _ ih =>
    intro r n h hn
    obtain ⟨args, hargs, rfl⟩ := bind_pure_eq_ok.mp h
    obtain ⟨m, rfl, hm⟩ := exists_succ hn
    exact Expr.Limited.of_primary (Nat.succ_le_succ (ih args m hargs hm))
  | @chain base steps _ _ hlevel _ _ _ ih ih' =>
    intro r n h hn
    obtain ⟨base', hbase, h⟩ := bind_eq_ok.mp h
    obtain ⟨steps', hsteps, rfl⟩ := bind_pure_eq_ok.mp h
    have hn' := hn
    rw [Expr.nesting] at hn'
    have hheight := (ih base' n hbase (by omega)).primary hlevel
    have hheight' := ih' steps' n hsteps (by omega)
    have hchain : (Expr.chain base steps).level = 11 := rfl
    apply Expr.Limited.of_spine (by omega) (by omega) _ hn
    rw [Expr.height]
    omega
  | noItems =>
    rintro _ n ⟨⟩ _
    exact Nat.zero_le _
  | lastItem _ ih =>
    intro rs n h hn
    obtain ⟨r, hr, h⟩ := bind_eq_ok.mp h
    cases h
    rw [Expr.nestingAll] at hn
    have := (ih r n hr (by omega)).any
    simp only [Expr.heightAll]
    omega
  | item _ _ ih ih' =>
    intro rs n h hn
    obtain ⟨r, hr, h⟩ := bind_eq_ok.mp h
    obtain ⟨rs, hrs, rfl⟩ := bind_pure_eq_ok.mp h
    rw [Expr.nestingAll] at hn
    have := (ih r n hr (by omega)).any
    have := ih' rs n hrs (by omega)
    rw [Expr.heightAll]
    omega
  | nameKey _ =>
    rintro _ n ⟨⟩ _
    exact tallest_pos n
  | key _ _ _ ih =>
    intro r n h hn
    exact (ih r n h hn).any
  | noEntries =>
    rintro _ n ⟨⟩ _
    exact Nat.zero_le _
  | lastEntry _ _ ih ih' =>
    intro rs n h hn
    obtain ⟨k, hk, h⟩ := bind_eq_ok.mp h
    obtain ⟨r, hr, h⟩ := bind_eq_ok.mp h
    cases h
    rw [Expr.nestingEntries] at hn
    have := ih k n hk (by omega)
    have := (ih' r n hr (by omega)).any
    simp only [Expr.heightEntries]
    omega
  | entry _ _ _ ih ih' ih'' =>
    intro rs n h hn
    obtain ⟨k, hk, h⟩ := bind_eq_ok.mp h
    obtain ⟨r, hr, h⟩ := bind_eq_ok.mp h
    obtain ⟨rs, hrs, rfl⟩ := bind_pure_eq_ok.mp h
    rw [Expr.nestingEntries] at hn
    have := ih k n hk (by omega)
    have := (ih' r n hr (by omega)).any
    have := ih'' rs n hrs (by omega)
    rw [Expr.heightEntries]
    omega
  | noSteps =>
    rintro _ n ⟨⟩ _
    exact tallestPrimary_pos n
  | property _ _ ih =>
    intro rs n h hn
    obtain ⟨rs, hrs, rfl⟩ := bind_pure_eq_ok.mp h
    rw [Expr.nestingSteps] at hn
    have := ih rs n hrs (by omega)
    rw [Expr.heightSteps, Expr.heightStep]
    omega
  | method _ _ _ ih ih' =>
    intro rs n h hn
    obtain ⟨step, hstep, h⟩ := bind_eq_ok.mp h
    obtain ⟨args, hargs, rfl⟩ := bind_pure_eq_ok.mp hstep
    obtain ⟨rs, hrs, rfl⟩ := bind_pure_eq_ok.mp h
    obtain ⟨m, rfl, hm⟩ := exists_succ (Nat.le_trans (Nat.le_max_left ..) hn)
    have := ih args m hargs hm
    have := ih' rs (m + 1) hrs (Nat.le_trans (Nat.le_max_right ..) hn)
    rw [Expr.heightSteps, Expr.heightStep]
    simp only [tallestPrimary] at *
    omega
  | index _ _ ih ih' =>
    intro rs n h hn
    obtain ⟨step, hstep, h⟩ := bind_eq_ok.mp h
    obtain ⟨key, hkey, rfl⟩ := bind_pure_eq_ok.mp hstep
    obtain ⟨rs, hrs, rfl⟩ := bind_pure_eq_ok.mp h
    obtain ⟨m, rfl, hm⟩ := exists_succ (Nat.le_trans (Nat.le_max_left ..) hn)
    have := (ih key m hkey hm).any
    have := ih' rs (m + 1) hrs (Nat.le_trans (Nat.le_max_right ..) hn)
    rw [Expr.heightSteps, Expr.heightStep]
    simp only [tallestPrimary] at *
    omega

namespace Expr

theorem height_le_of_parse {limit : Nat} {src : String} {r : Expr H}
    (h : Expr.parse classes limit src = .ok r) : r.height ≤ tallest limit := by
  obtain ⟨ts, n, ⟨e, hwritten, _, hfold, rfl⟩, hn, _⟩ := derives_of_parse h
  exact (hwritten.limited r limit hfold hn).any

end Expr

end Stencil
