import Stencil.Engine
import Stencil.Proofs.Acceptance
import Stencil.Proofs.Expr.Inversion
import Stencil.Proofs.Expr.Subtree

/-!
This module contains the proof that parsed trees are in normal form: they have the shape of the
grammar, and no constant in them is left to be computed.
-/

namespace Stencil

open Outcome

variable {H : Type} [HostObject H]

namespace Expr

/--
What the parser ensures of every node of a tree. The shape is said by how tightly the operands bind:
choices are on level 0, binary operators on the level of their precedence, prefix operators on level
10, chains on level 11 and everything else on level 12.
-/
structure IsNormal (e : Expr H) : Prop where
  ne_classRef : ∀ cls, e ≠ .classRef cls
  isValuer : e.isValuer = true
  eq_const : e.isConst = true → ∃ v, e = .const v
  ne_group_const : ∀ v, e ≠ .group (.const v)
  undecided : ∀ op left right v, e = .binary op left right → op.isLogical = true →
    left.constValue? = some v → v.truth op.symbol ≠ .ok op.deciding
  binary : ∀ op left right, e = .binary op left right →
    op.precedence ≤ left.level ∧ op.precedence < right.level
  unary : ∀ op operand, e = .unary op operand → 10 ≤ operand.level
  ternary : ∀ cond yes no, e = .ternary cond yes no → 0 < cond.level
  chain : ∀ base steps, e = .chain base steps → steps ≠ [] ∧ 12 ≤ base.level

def Normal (e : Expr H) : Prop :=
  ∀ s, Subtree s e → s.IsNormal

theorem Normal.isNormal {e : Expr H} (h : e.Normal) : e.IsNormal :=
  h e .refl

theorem Normal.intro {e : Expr H} (h : e.IsNormal) (hchildren : ∀ c ∈ e.children, c.Normal) :
    e.Normal := by
  intro s hs
  cases hs with
  | refl => exact h
  | child hmem hs => exact hchildren _ hmem s hs

theorem Normal.not_isConst {e : Expr H} (h : e.Normal) (hv : e.constValue? = none) :
    e.isConst = false := by
  rw [Bool.eq_false_iff]
  intro hconst
  obtain ⟨v, rfl⟩ := h.isNormal.eq_const hconst
  cases hv

-- The folding constructors keep normal trees normal.

theorem normal_const (v : Value H) : (const v).Normal := by
  apply Normal.intro
  . constructor <;> simp [Expr.isValuer]
  . simp [children]

theorem normal_var (name : String) : (var name : Expr H).Normal := by
  apply Normal.intro
  . constructor <;> simp [Expr.isValuer, isConst]
  . simp [children]

theorem normal_staticField (cls : StaticClass H) (name : String) :
    (staticField cls name).Normal := by
  apply Normal.intro
  . constructor <;> simp [Expr.isValuer, isConst]
  . simp [children]

theorem normal_foldGroup {inner : Expr H} (h : inner.Normal) : inner.foldGroup.Normal := by
  rcases foldGroup_eq inner with ⟨v, hv⟩ | ⟨hgroup, hne⟩
  . rw [hv]
    exact normal_const v
  . rw [hgroup]
    have hconst : inner.isConst = false := by
      rw [Bool.eq_false_iff]
      intro hconst
      obtain ⟨v, hv⟩ := h.isNormal.eq_const hconst
      exact hne v hv
    apply Normal.intro
    . constructor <;> simp [Expr.isValuer, isConst, hconst, h.isNormal.isValuer, hne]
    . simpa [children] using h

theorem normal_foldUnary {op : UnaryOp} {operand r : Expr H} (h : operand.Normal)
    (hlevel : 10 ≤ operand.level) (hfold : foldUnary op operand = .ok r) : r.Normal := by
  rcases foldUnary_eq_ok hfold with ⟨v, rfl⟩ | ⟨rfl, hnone⟩
  . exact normal_const v
  . apply Normal.intro
    . constructor <;> simp [Expr.isValuer, isConst, h.not_isConst hnone, hlevel]
    . simpa [children] using h

theorem normal_foldBinary {op : BinaryOp} {left right r : Expr H} (h : left.Normal)
    (h' : right.Normal) (hlevel : op.precedence ≤ left.level)
    (hlevel' : op.precedence < right.level) (hfold : foldBinary op left right = .ok r) :
    r.Normal := by
  rcases foldBinary_eq_ok hfold with ⟨v, rfl⟩ | ⟨rfl, hnone, hundecided⟩
  . exact normal_const v
  . have hconst : (left.isConst && right.isConst) = false := by
      rcases hnone with hnone | hnone
      . simp [h.not_isConst hnone]
      . simp [h'.not_isConst hnone]
    apply Normal.intro
    . constructor
      case undecided =>
        rintro _ _ _ v ⟨⟩ hlogical
        exact hundecided hlogical v
      all_goals simp_all [Expr.isValuer, isConst]
    . simpa [children] using ⟨h, h'⟩

theorem normal_foldTernary {cond yes no r : Expr H} (h : cond.Normal) (h' : yes.Normal)
    (h'' : no.Normal) (hlevel : 0 < cond.level) (hfold : foldTernary cond yes no = .ok r) :
    r.Normal := by
  rcases foldTernary_eq_ok hfold with ⟨rfl | rfl, _⟩ | ⟨rfl, hnone⟩
  . exact h'
  . exact h''
  . have hconst : (cond.isConst && yes.isConst && no.isConst) = false := by
      rcases hnone with hnone | hnone | hnone
      . simp [h.not_isConst hnone]
      . simp [h'.not_isConst hnone]
      . simp [h''.not_isConst hnone]
    apply Normal.intro
    . constructor <;> simp_all [Expr.isValuer, isConst]
    . simpa [children] using ⟨h, h', h''⟩

theorem normal_array {items : List (Expr H)} (h : ∀ e ∈ items, e.Normal) :
    (array items).Normal := by
  apply Normal.intro
  . constructor <;> simp [Expr.isValuer, isConst]
  . exact h

theorem normal_map {entries : List (Expr H × Expr H)}
    (h : ∀ entry ∈ entries, entry.1.Normal ∧ entry.2.Normal) : (map entries).Normal := by
  apply Normal.intro
  . constructor <;> simp [Expr.isValuer, isConst]
  . intro e he
    obtain ⟨entry, hentry, he⟩ := List.mem_flatMap.mp he
    obtain ⟨hkey, hvalue⟩ := h entry hentry
    simp only [List.mem_cons, List.not_mem_nil, or_false] at he
    rcases he with rfl | rfl
    . exact hkey
    . exact hvalue

theorem normal_staticCall {cls : StaticClass H} {method : String} {args : List (Expr H)}
    (h : ∀ e ∈ args, e.Normal) : (staticCall cls method args).Normal := by
  apply Normal.intro
  . constructor <;> simp [Expr.isValuer, isConst]
  . exact h

theorem normal_chain {base : Expr H} {steps : List (Step H)} (h : base.Normal)
    (hlevel : 12 ≤ base.level) (hne : steps ≠ [])
    (hsteps : ∀ step ∈ steps, ∀ e ∈ step.children, e.Normal) : (chain base steps).Normal := by
  apply Normal.intro
  . constructor <;> simp [Expr.isValuer, isConst, hlevel, hne]
  . rw [children, List.forall_mem_cons]
    refine ⟨h, ?_⟩
    intro e he
    obtain ⟨step, hstep, he⟩ := List.mem_flatMap.mp he
    exact hsteps step hstep e he

theorem foldSteps_ne_nil {steps steps' : List (Step H)} (h : foldSteps steps = .ok steps')
    (hne : steps ≠ []) : steps' ≠ [] := by
  cases steps with
  | nil => exact absurd rfl hne
  | cons step steps =>
    obtain ⟨_, _, h⟩ := bind_eq_ok.mp h
    obtain ⟨_, _, rfl⟩ := bind_pure_eq_ok.mp h
    exact List.cons_ne_nil _ _

end Expr

def Phrase.FoldsNormal : Phrase H → Prop
  | expr e => ∀ r, e.fold = .ok r → r.Normal
  | items es => ∀ rs, Expr.foldAll es = .ok rs → ∀ r ∈ rs, r.Normal
  | key k => ∀ r, k.fold = .ok r → r.Normal
  | entries es => ∀ rs, Expr.foldEntries es = .ok rs → ∀ r ∈ rs, r.1.Normal ∧ r.2.Normal
  | steps ss => ∀ rs, Expr.foldSteps ss = .ok rs → ∀ r ∈ rs, ∀ e ∈ r.children, e.Normal

variable {Spelled : Value H → Token → Prop} {classes : Parser.ClassLookup H}

theorem Written.foldsNormal {phrase : Phrase H} {ts : List Token}
    (h : Written Spelled classes phrase ts) : phrase.FoldsNormal := by
  induction h with
  | literal _ =>
    rintro _ ⟨⟩
    exact Expr.normal_const _
  | var _ _ =>
    rintro _ ⟨⟩
    exact Expr.normal_var _
  | unary hlevel _ ih =>
    intro r h
    obtain ⟨operand, hoperand, h⟩ := bind_eq_ok.mp h
    apply Expr.normal_foldUnary (ih operand hoperand) _ h
    exact Nat.le_trans hlevel (Expr.level_le_of_fold hoperand)
  | binary hlevel hlevel' _ _ ih ih' =>
    intro r h
    obtain ⟨left, hleft, h⟩ := bind_eq_ok.mp h
    obtain ⟨right, hright, h⟩ := bind_eq_ok.mp h
    apply Expr.normal_foldBinary (ih left hleft) (ih' right hright) _ _ h
    . exact Nat.le_trans hlevel (Expr.level_le_of_fold hleft)
    . exact Nat.lt_of_lt_of_le hlevel' (Expr.level_le_of_fold hright)
  | ternary hlevel _ _ _ ih ih' ih'' =>
    intro r h
    obtain ⟨cond, hcond, h⟩ := bind_eq_ok.mp h
    obtain ⟨yes, hyes, h⟩ := bind_eq_ok.mp h
    obtain ⟨no, hno, h⟩ := bind_eq_ok.mp h
    apply Expr.normal_foldTernary (ih cond hcond) (ih' yes hyes) (ih'' no hno) _ h
    exact Nat.lt_of_lt_of_le hlevel (Expr.level_le_of_fold hcond)
  | group _ ih =>
    intro r h
    obtain ⟨inner, hinner, rfl⟩ := bind_pure_eq_ok.mp h
    exact Expr.normal_foldGroup (ih inner hinner)
  | array _ ih =>
    intro r h
    obtain ⟨items, hitems, rfl⟩ := bind_pure_eq_ok.mp h
    exact Expr.normal_array (ih items hitems)
  | map _ ih =>
    intro r h
    obtain ⟨entries, hentries, rfl⟩ := bind_pure_eq_ok.mp h
    exact Expr.normal_map (ih entries hentries)
  | emptyMap =>
    rintro _ ⟨⟩
    exact Expr.normal_map (by simp)
  | staticField _ _ _ =>
    rintro _ ⟨⟩
    exact Expr.normal_staticField _ _
  | staticCall _ _ _ _ ih =>
    intro r h
    obtain ⟨args, hargs, rfl⟩ := bind_pure_eq_ok.mp h
    exact Expr.normal_staticCall (ih args hargs)
  | chain hlevel hne _ _ ih ih' =>
    intro r h
    obtain ⟨base, hbase, h⟩ := bind_eq_ok.mp h
    obtain ⟨steps, hsteps, rfl⟩ := bind_pure_eq_ok.mp h
    apply Expr.normal_chain (ih base hbase) _ (Expr.foldSteps_ne_nil hsteps hne) (ih' steps hsteps)
    exact Nat.le_trans hlevel (Expr.level_le_of_fold hbase)
  | noItems | noEntries | noSteps =>
    rintro _ ⟨⟩
    simp
  | lastItem _ ih =>
    intro rs h
    obtain ⟨r, hr, h⟩ := bind_eq_ok.mp h
    cases h
    simpa using ih r hr
  | item _ _ ih ih' =>
    intro rs h
    obtain ⟨r, hr, h⟩ := bind_eq_ok.mp h
    obtain ⟨rs, hrs, rfl⟩ := bind_pure_eq_ok.mp h
    exact List.forall_mem_cons.mpr ⟨ih r hr, ih' rs hrs⟩
  | nameKey _ =>
    rintro _ ⟨⟩
    exact Expr.normal_const _
  | key _ _ _ ih => exact ih
  | lastEntry _ _ ih ih' =>
    intro rs h
    obtain ⟨k, hk, h⟩ := bind_eq_ok.mp h
    obtain ⟨r, hr, h⟩ := bind_eq_ok.mp h
    cases h
    simpa using ⟨ih k hk, ih' r hr⟩
  | entry _ _ _ ih ih' ih'' =>
    intro rs h
    obtain ⟨k, hk, h⟩ := bind_eq_ok.mp h
    obtain ⟨r, hr, h⟩ := bind_eq_ok.mp h
    obtain ⟨rs, hrs, rfl⟩ := bind_pure_eq_ok.mp h
    exact List.forall_mem_cons.mpr ⟨⟨ih k hk, ih' r hr⟩, ih'' rs hrs⟩
  | property _ _ ih =>
    intro rs h
    obtain ⟨rs, hrs, rfl⟩ := bind_pure_eq_ok.mp h
    exact List.forall_mem_cons.mpr ⟨by simp [Step.children], ih rs hrs⟩
  | method _ _ _ ih ih' =>
    intro rs h
    obtain ⟨step, hstep, h⟩ := bind_eq_ok.mp h
    obtain ⟨args, hargs, rfl⟩ := bind_pure_eq_ok.mp hstep
    obtain ⟨rs, hrs, rfl⟩ := bind_pure_eq_ok.mp h
    exact List.forall_mem_cons.mpr ⟨ih args hargs, ih' rs hrs⟩
  | index _ _ ih ih' =>
    intro rs h
    obtain ⟨step, hstep, h⟩ := bind_eq_ok.mp h
    obtain ⟨key, hkey, rfl⟩ := bind_pure_eq_ok.mp hstep
    obtain ⟨rs, hrs, rfl⟩ := bind_pure_eq_ok.mp h
    exact List.forall_mem_cons.mpr ⟨by simpa [Step.children] using ih key hkey, ih' rs hrs⟩

theorem Expression.isConst_of_isNormal {e : Expr H} (h : e.IsNormal) (members : Members H) :
    (Expression.mk e members).isConst = e.isConst := by
  cases hconst : e.isConst with
  | true =>
    obtain ⟨v, rfl⟩ := h.eq_const hconst
    rfl
  | false =>
    unfold isConst
    split
    . next hv =>
      cases hv
      cases hconst
    . rfl

namespace Expr

/--
Every node of a parsed tree is normal, and so a compiled expression is constant for its caller just
if its tree is constant for the parser.
-/
theorem isNormal_of_parse {limit : Nat} {src : String} {r : Expr H}
    (h : Expr.parse classes limit src = .ok r) :
    (∀ s, Subtree s r → s.IsNormal) ∧ ∀ members, (Expression.mk r members).isConst = r.isConst := by
  obtain ⟨ts, _, ⟨e, hwritten, _, hfold, _⟩, _, _⟩ := derives_of_parse h
  have hnormal : r.Normal := hwritten.foldsNormal r hfold
  exact ⟨hnormal, Expression.isConst_of_isNormal hnormal.isNormal⟩

theorem isNormal_of_parse_folded :
    let src := "(1+2)*x?[!y]:-a.b"
    let r : Expr Empty :=
      .ternary (.binary .mul (.const (.int 3)) (.var "x")) (.array [.unary .not (.var "y")])
        (.unary .neg (.chain (.var "a") [.property "b"]))
    Expr.parse (fun _ => none) 3 src = .ok r
      ∧ (∀ s, Subtree s r → s.IsNormal)
      ∧ ∀ members, (Expression.mk r members).isConst = r.isConst := by
  intro src r
  have hparse : Expr.parse (fun _ => none) 3 src = .ok r := by
    cbv
  exact ⟨hparse, isNormal_of_parse hparse⟩

end Expr

end Stencil
