import Stencil.Proofs.Nesting
import Stencil.Proofs.Outcome
import Stencil.Proofs.Parser.Lexeme

/-!
This module contains the phrases that the grammar derives from tokens, after folding. A derivation of
a phrase is put together from those of its parts, as the phrase itself is put together from its folded
parts.
-/

namespace Stencil

variable {H : Type} [HostObject H]

/--
The tokens are those of an expression that binds at least as tightly as `least`, that folds to `r`
and whose constructs are nested on `n` levels.
-/
def Derives (classes : Parser.ClassLookup H) (least : Nat) (r : Expr H) (ts : List Token) (n : Nat) :
    Prop :=
  ∃ e, Written Lexeme classes (.expr e) ts ∧ least ≤ e.level ∧ e.fold = .ok r ∧ e.nesting = n

def DerivesSpine (classes : Parser.ClassLookup H) (least : Nat) (r : Expr H) (ts : List Token)
    (levels n : Nat) : Prop :=
  ∃ e, Written Lexeme classes (.expr e) ts ∧ least ≤ e.level ∧ e.fold = .ok r ∧ e.levels = levels
    ∧ e.nesting = n

def DerivesItems (classes : Parser.ClassLookup H) (rs : List (Expr H)) (ts : List Token) (n : Nat) :
    Prop :=
  ∃ es, Written Lexeme classes (.items es) ts ∧ Expr.foldAll es = .ok rs ∧ Expr.nestingAll es = n

def DerivesKey (classes : Parser.ClassLookup H) (r : Expr H) (ts : List Token) (n : Nat) : Prop :=
  ∃ k, Written Lexeme classes (.key k) ts ∧ k.fold = .ok r ∧ k.nesting = n

def DerivesEntries (classes : Parser.ClassLookup H) (rs : List (Expr H × Expr H)) (ts : List Token)
    (n : Nat) : Prop :=
  ∃ es, Written Lexeme classes (.entries es) ts ∧ Expr.foldEntries es = .ok rs
    ∧ Expr.nestingEntries es = n

def DerivesSteps (classes : Parser.ClassLookup H) (rs : List (Step H)) (ts : List Token) (n : Nat) :
    Prop :=
  ∃ ss, Written Lexeme classes (.steps ss) ts ∧ Expr.foldSteps ss = .ok rs
    ∧ Expr.nestingSteps ss = n

def DerivesArguments (classes : Parser.ClassLookup H) (rs : List (Expr H)) (ts : List Token)
    (n : Nat) : Prop :=
  ∃ ts' n', ts = ['('] :: ts' ++ [[')']] ∧ n = n' + 1 ∧ DerivesItems classes rs ts' n'

variable {classes : Parser.ClassLookup H} {ts ts' ts'' : List Token} {n n' n'' least : Nat}

namespace Derives

variable {r left right cond yes no operand inner base : Expr H}

theorem mono (h : Derives classes least r ts n) {least' : Nat} (hle : least' ≤ least) :
    Derives classes least' r ts n := by
  obtain ⟨e, hwritten, hlevel, hfold, hnesting⟩ := h
  exact ⟨e, hwritten, Nat.le_trans hle hlevel, hfold, hnesting⟩

theorem tokens_ne_nil (h : Derives classes least r ts n) : ts ≠ [] := by
  obtain ⟨e, hwritten, _⟩ := h
  have := hwritten.levels_lt_length
  exact List.ne_nil_of_length_pos (by omega)

theorem const {v : Value H} {tok : Token} (h : Lexeme v tok) :
    Derives classes 12 (.const v) [tok] 0 :=
  ⟨.const v, .literal h, Nat.le_refl _, rfl, rfl⟩

theorem var {name : String} (hname : IsName name.toList)
    (hkeyword : Parser.keyword? (H := H) name = none) :
    Derives classes 12 (.var name) [name.toList] 0 :=
  ⟨.var name, .var hname hkeyword, Nat.le_refl _, rfl, rfl⟩

theorem unary {op : UnaryOp} (h : Derives classes 10 operand ts n)
    (hfold : Expr.foldUnary op operand = .ok r) :
    Derives classes 10 r (op.symbol.toList :: ts) (n + 1) := by
  obtain ⟨e, hwritten, hlevel, hoperand, rfl⟩ := h
  refine ⟨.unary op e, .unary hlevel hwritten, Nat.le_refl _, ?_, rfl⟩
  rw [Expr.fold, hoperand]
  exact hfold

theorem ternary (hcond : Derives classes 1 cond ts n) (hyes : Derives classes 0 yes ts' n')
    (hno : Derives classes 0 no ts'' n'') (hfold : Expr.foldTernary cond yes no = .ok r) :
    Derives classes 0 r (ts ++ ['?'] :: ts' ++ [':'] :: ts'') (max n (max n' n'' + 1)) := by
  obtain ⟨c, hwritten, hlevel, hc, rfl⟩ := hcond
  obtain ⟨y, hwritten', _, hy, rfl⟩ := hyes
  obtain ⟨z, hwritten'', _, hz, rfl⟩ := hno
  refine ⟨.ternary c y z, .ternary hlevel hwritten hwritten' hwritten'', Nat.zero_le _, ?_, rfl⟩
  rw [Expr.fold, hc, hy, hz]
  exact hfold

theorem group (h : Derives classes 0 inner ts n) :
    Derives classes 12 inner.foldGroup (['('] :: ts ++ [[')']]) (n + 1) := by
  obtain ⟨e, hwritten, _, hinner, rfl⟩ := h
  refine ⟨.group e, .group hwritten, Nat.le_refl _, ?_, rfl⟩
  rw [Expr.fold, hinner]
  rfl

theorem array {rs : List (Expr H)} (h : DerivesItems classes rs ts n) :
    Derives classes 12 (.array rs) (['['] :: ts ++ [[']']]) (n + 1) := by
  obtain ⟨es, hwritten, hitems, rfl⟩ := h
  refine ⟨.array es, .array hwritten, Nat.le_refl _, ?_, rfl⟩
  rw [Expr.fold, hitems]
  rfl

theorem map {rs : List (Expr H × Expr H)} (h : DerivesEntries classes rs ts n) :
    Derives classes 12 (.map rs) (['\x7b'] :: ts ++ [['\x7d']]) (n + 1) := by
  obtain ⟨es, hwritten, hentries, rfl⟩ := h
  refine ⟨.map es, .map hwritten, Nat.le_refl _, ?_, rfl⟩
  rw [Expr.fold, hentries]
  rfl

theorem emptyMap : Derives classes 12 (.map []) [['\x7b'], [':'], ['\x7d']] 1 :=
  ⟨.map [], .emptyMap, Nat.le_refl _, rfl, rfl⟩

theorem staticField {className name : String} {cls : StaticClass H} (hclass : IsName className.toList)
    (hcls : classes className = some cls) (hname : IsName name.toList) :
    Derives classes 12 (.staticField cls name) [['@'], className.toList, ['.'], name.toList] 0 :=
  ⟨.staticField cls name, .staticField hclass hcls hname, Nat.le_refl _, rfl, rfl⟩

theorem staticCall {className name : String} {cls : StaticClass H} {args : List (Expr H)}
    (hclass : IsName className.toList) (hcls : classes className = some cls)
    (hname : IsName name.toList) (h : DerivesArguments classes args ts n) :
    Derives classes 12 (.staticCall cls name args)
      (['@'] :: className.toList :: ['.'] :: name.toList :: ts) n := by
  obtain ⟨ts', n', rfl, rfl, es, hwritten, hitems, rfl⟩ := h
  refine ⟨.staticCall cls name es, .staticCall hclass hcls hname hwritten, Nat.le_refl _, ?_, rfl⟩
  rw [Expr.fold, hitems]
  rfl

theorem chain {steps : List (Step H)} (hbase : Derives classes 12 base ts n)
    (hsteps : DerivesSteps classes steps ts' n') (hne : steps ≠ []) :
    Derives classes 11 (.chain base steps) (ts ++ ts') (max n n') := by
  obtain ⟨e, hwritten, hlevel, hfold, rfl⟩ := hbase
  obtain ⟨ss, hwritten', hfold', rfl⟩ := hsteps
  have hss : ss ≠ [] := by
    rintro rfl
    cases hfold'
    exact hne rfl
  refine ⟨.chain e ss, .chain hlevel hss hwritten hwritten', Nat.le_refl _, ?_, rfl⟩
  rw [Expr.fold, hfold, Outcome.ok_bind, hfold']
  rfl

theorem spine (h : Derives classes 10 r ts n) : DerivesSpine classes 10 r ts 0 n := by
  obtain ⟨e, hwritten, hlevel, hfold, hnesting⟩ := h
  exact ⟨e, hwritten, hlevel, hfold, Expr.levels_of_level hlevel, hnesting⟩

end Derives

namespace DerivesSpine

variable {r left right : Expr H} {levels : Nat}

theorem derives (h : DerivesSpine classes least r ts levels n) : Derives classes least r ts n := by
  obtain ⟨e, hwritten, hlevel, hfold, _, hnesting⟩ := h
  exact ⟨e, hwritten, hlevel, hfold, hnesting⟩

theorem mono (h : DerivesSpine classes least r ts levels n) {least' : Nat} (hle : least' ≤ least) :
    DerivesSpine classes least' r ts levels n := by
  obtain ⟨e, hwritten, hlevel, hfold, hlevels, hnesting⟩ := h
  exact ⟨e, hwritten, Nat.le_trans hle hlevel, hfold, hlevels, hnesting⟩

theorem binary {op : BinaryOp} (hleft : DerivesSpine classes least left ts levels n)
    (hle : op.precedence ≤ least) (hright : Derives classes (op.precedence + 1) right ts' n')
    (hfold : Expr.foldBinary op left right = .ok r) {levels' : Nat}
    (hlevels : levels' = if r.isConst then levels else levels + 1) :
    DerivesSpine classes op.precedence r (ts ++ op.symbol.toList :: ts') levels'
      (max (max n (levels + n')) levels') := by
  obtain ⟨l, hwritten, hlevel, hl, rfl, rfl⟩ := hleft
  obtain ⟨e, hwritten', hlevel', he, rfl⟩ := hright
  have hbinary : (Expr.binary op l e).fold = .ok r := by
    rw [Expr.fold, hl, he]
    exact hfold
  have hlevels' : (Expr.binary op l e).levels = levels' := by
    rw [Expr.levels, hbinary, hlevels]
  refine ⟨.binary op l e, .binary (Nat.le_trans hle hlevel) hlevel' hwritten hwritten', Nat.le_refl _,
    hbinary, hlevels', ?_⟩
  rw [Expr.nesting, hlevels']

end DerivesSpine

namespace DerivesItems

variable {r : Expr H} {rs : List (Expr H)}

theorem nil : DerivesItems classes [] [] 0 :=
  ⟨[], .noItems, rfl, rfl⟩

theorem last (h : Derives classes 0 r ts n) : DerivesItems classes [r] ts n := by
  obtain ⟨e, hwritten, _, hfold, rfl⟩ := h
  refine ⟨[e], .lastItem hwritten, ?_, Nat.max_zero _⟩
  rw [Expr.foldAll, hfold]
  rfl

theorem cons (h : Derives classes 0 r ts n) (hrest : DerivesItems classes rs ts' n') (hne : rs ≠ []) :
    DerivesItems classes (r :: rs) (ts ++ [','] :: ts') (max n n') := by
  obtain ⟨e, hwritten, _, hfold, rfl⟩ := h
  obtain ⟨es, hwritten', hfold', rfl⟩ := hrest
  cases es with
  | nil =>
    cases hfold'
    exact absurd rfl hne
  | cons e' es =>
    refine ⟨e :: e' :: es, .item hwritten hwritten', ?_, rfl⟩
    rw [Expr.foldAll, hfold, Outcome.ok_bind, hfold']
    rfl

end DerivesItems

namespace DerivesKey

theorem name {name : String} (hname : IsName name.toList) :
    DerivesKey classes (.const ((Parser.keyword? name).getD (.str name))) [name.toList] 0 :=
  ⟨_, .nameKey hname, rfl, rfl⟩

theorem expr {r : Expr H} {first : Char} {tok : Token}
    (hfirst : Symbol.isIdentStart first = false)
    (h : Derives classes 11 r ((first :: tok) :: ts) n) :
    DerivesKey classes r ((first :: tok) :: ts) n := by
  obtain ⟨e, hwritten, hlevel, hfold, hnesting⟩ := h
  exact ⟨e, .key hlevel hfirst hwritten, hfold, hnesting⟩

end DerivesKey

namespace DerivesEntries

variable {key r : Expr H} {rs : List (Expr H × Expr H)}

theorem nil : DerivesEntries classes [] [] 0 :=
  ⟨[], .noEntries, rfl, rfl⟩

theorem last (hkey : DerivesKey classes key ts n) (h : Derives classes 0 r ts' n') :
    DerivesEntries classes [(key, r)] (ts ++ [':'] :: ts') (max n n') := by
  obtain ⟨k, hwritten, hfold, rfl⟩ := hkey
  obtain ⟨e, hwritten', _, hfold', rfl⟩ := h
  refine ⟨[(k, e)], .lastEntry hwritten hwritten', ?_, Nat.max_zero _⟩
  rw [Expr.foldEntries, hfold, Outcome.ok_bind, hfold']
  rfl

theorem cons (hkey : DerivesKey classes key ts n) (h : Derives classes 0 r ts' n')
    (hrest : DerivesEntries classes rs ts'' n'') (hne : rs ≠ []) :
    DerivesEntries classes ((key, r) :: rs) (ts ++ [':'] :: ts' ++ [','] :: ts'')
      (max (max n n') n'') := by
  obtain ⟨k, hwritten, hfold, rfl⟩ := hkey
  obtain ⟨e, hwritten', _, hfold', rfl⟩ := h
  obtain ⟨es, hwritten'', hfold'', rfl⟩ := hrest
  cases es with
  | nil =>
    cases hfold''
    exact absurd rfl hne
  | cons entry es =>
    refine ⟨(k, e) :: entry :: es, .entry hwritten hwritten' hwritten'', ?_, rfl⟩
    rw [Expr.foldEntries, hfold, Outcome.ok_bind, hfold', Outcome.ok_bind, hfold'']
    rfl

end DerivesEntries

namespace DerivesSteps

variable {rs : List (Step H)}

theorem nil : DerivesSteps classes [] [] 0 :=
  ⟨[], .noSteps, rfl, rfl⟩

theorem tokens_nil (h : DerivesSteps classes [] ts n) : ts = [] := by
  obtain ⟨ss, hwritten, hfold, _⟩ := h
  cases hwritten with
  | noSteps => rfl
  | property | method | index =>
    obtain ⟨_, _, h⟩ := Outcome.bind_eq_ok.mp hfold
    obtain ⟨_, _, h⟩ := Outcome.bind_pure_eq_ok.mp h
    cases h

theorem property {name : String} (hname : IsName name.toList) (h : DerivesSteps classes rs ts n) :
    DerivesSteps classes (.property name :: rs) (['.'] :: name.toList :: ts) n := by
  obtain ⟨ss, hwritten, hfold, rfl⟩ := h
  refine ⟨.property name :: ss, .property hname hwritten, ?_, Nat.zero_max _⟩
  rw [Expr.foldSteps, Expr.foldStep, Outcome.ok_bind, hfold]
  rfl

theorem method {name : String} {args : List (Expr H)} (hname : IsName name.toList)
    (hargs : DerivesArguments classes args ts n) (h : DerivesSteps classes rs ts' n') :
    DerivesSteps classes (.method name args :: rs) (['.'] :: name.toList :: (ts ++ ts'))
      (max n n') := by
  obtain ⟨ts, n, rfl, rfl, es, hwritten, hfold, rfl⟩ := hargs
  obtain ⟨ss, hwritten', hfold', rfl⟩ := h
  refine ⟨.method name es :: ss, ?_, ?_, rfl⟩
  . rw [List.append_assoc]
    exact .method hname hwritten hwritten'
  . rw [Expr.foldSteps, Expr.foldStep, hfold, hfold']
    rfl

theorem index {key : Expr H} (hkey : Derives classes 0 key ts n) (h : DerivesSteps classes rs ts' n') :
    DerivesSteps classes (.index key :: rs) (['['] :: ts ++ [']'] :: ts') (max (n + 1) n') := by
  obtain ⟨e, hwritten, _, hfold, rfl⟩ := hkey
  obtain ⟨ss, hwritten', hfold', rfl⟩ := h
  refine ⟨.index e :: ss, .index hwritten hwritten', ?_, rfl⟩
  rw [Expr.foldSteps, Expr.foldStep, hfold, hfold']
  rfl

end DerivesSteps

end Stencil
