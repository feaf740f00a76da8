import Stencil.Proofs.Expr.Inversion
import Stencil.Proofs.Recognition

/-!
This module contains how many levels of the nesting limit an expression takes: one for each construct
around a variable, one for each operator of a chain over variables, and none for operators between
constants, which are folded as they are read.
-/

namespace Stencil

variable {H : Type}

def Name : Type :=
  { text : String // IsName text.toList }

structure Variable (H : Type) where
  name : String
  isName : IsName name.toList
  keyword?_eq : Parser.keyword? (H := H) name = none

structure Constant (H : Type) where
  value : Value H
  token : Token
  lexeme : Lexeme value token

inductive Wrapper (classes : Parser.ClassLookup H) where
  | unary (op : UnaryOp)
  | group
  | array
  | entry (key : String)
  | index (base : Variable H)
  | method (base : Variable H) (name : Name)
  | staticCall (className : Name) (cls : StaticClass H) (registered : classes className.val = some cls)
      (name : Name)

variable {classes : Parser.ClassLookup H}

namespace Wrapper

def around : Wrapper classes → List Token → List Token
  | unary op, ts => op.symbol.toList :: ts
  | group, ts => ['('] :: ts ++ [[')']]
  | array, ts => ['['] :: ts ++ [[']']]
  | entry key, ts => ['\x7b'] :: (quoted '\'' key.toList :: [':'] :: ts) ++ [['\x7d']]
  | index base, ts => base.name.toList :: ['['] :: ts ++ [[']']]
  | method base name, ts => base.name.toList :: ['.'] :: name.val.toList :: ['('] :: ts ++ [[')']]
  | staticCall className _ _ name, ts =>
    ['@'] :: className.val.toList :: ['.'] :: name.val.toList :: ['('] :: ts ++ [[')']]

end Wrapper

/--
The tokens of a variable with wrappers around it, the outermost one first.
-/
def wrapped (ws : List (Wrapper classes)) (x : Variable H) : List Token :=
  ws.foldr Wrapper.around [x.name.toList]

def chained (first : Token) (rest : List (BinaryOp × Token)) : List Token :=
  first :: rest.flatMap fun operation => [operation.1.symbol.toList, operation.2]

/--
An operator and its right operand behind an expression that ends in binary operators: they stand
below the operators that bind more loosely.
-/
def Expr.attach : Expr H → BinaryOp → Expr H → Expr H
  | binary op' l r, op, right =>
    if op'.precedence < op.precedence then binary op' l (attach r op right)
    else binary op (binary op' l r) right
  | e, op, right => binary op e right

def calculation (first : Constant H) (rest : List (BinaryOp × Constant H)) : Expr H :=
  rest.foldl (fun e operation => e.attach operation.1 (.const operation.2.value)) (.const first.value)

inductive IsCalculation : Expr H → Prop where
  | const (v : Value H) : IsCalculation (.const v)
  | binary (op : BinaryOp) {left right : Expr H} :
      IsCalculation left → IsCalculation right → IsCalculation (.binary op left right)

variable {r e : Expr H} {ts : List Token} {n : Nat}

theorem IsCalculation.attach (he : IsCalculation e) (op : BinaryOp) (v : Value H) :
    IsCalculation (e.attach op (.const v)) := by
  induction he with
  | const v' => exact .binary op (.const v') (.const v)
  | binary op' hleft hright _ ih =>
    rw [Expr.attach]
    split
    . exact .binary op' hleft ih
    . exact .binary op (.binary op' hleft hright) (.const v)

theorem IsCalculation.written_attach (he : IsCalculation e)
    (h : Written Lexeme classes (.expr e) ts) (op : BinaryOp) (c : Constant H) :
    Written Lexeme classes (.expr (e.attach op (.const c.value))) (ts ++ [op.symbol.toList, c.token])
      ∧ ∀ p, p < e.level → p < op.precedence → p < (e.attach op (.const c.value)).level := by
  have hop := Parser.precedence_lt op
  have htop (e : Expr H) (ts : List Token) (h : Written Lexeme classes (.expr e) ts)
      (hle : op.precedence ≤ e.level) :
      Written Lexeme classes (.expr (.binary op e (.const c.value)))
        (ts ++ [op.symbol.toList, c.token]) :=
    .binary hle (show op.precedence < 12 by omega) h (.literal c.lexeme)
  induction he generalizing ts with
  | const v => exact ⟨htop _ ts h (show op.precedence ≤ 12 by omega), fun p _ hp => hp⟩
  | binary op' _ _ _ ih =>
    rw [Expr.attach]
    split
    . next hlt =>
      cases h with
      | binary hleft hright hwritten hwritten' =>
        obtain ⟨hattach, hlevel⟩ := ih hwritten'
        refine ⟨?_, fun p hp _ => hp⟩
        rw [List.append_assoc, List.cons_append]
        exact .binary hleft (hlevel _ hright hlt) hwritten hattach
    . next hle => exact ⟨htop _ ts h (by simp only [Expr.level]; omega), fun p _ hp => hp⟩

theorem written_calculation (classes : Parser.ClassLookup H) (first : Constant H)
    (rest : List (BinaryOp × Constant H)) :
    IsCalculation (calculation first rest)
      ∧ Written Lexeme classes (.expr (calculation first rest))
        (chained first.token (rest.map fun o => (o.1, o.2.token))) := by
  -- The operators are attached from the left to the right.
  have hrun (e : Expr H) (ts : List Token) (he : IsCalculation e)
      (h : Written Lexeme classes (.expr e) ts) :
      IsCalculation (rest.foldl (fun e o => e.attach o.1 (.const o.2.value)) e)
        ∧ Written Lexeme classes (.expr (rest.foldl (fun e o => e.attach o.1 (.const o.2.value)) e))
          (ts ++ rest.flatMap fun o => [o.1.symbol.toList, o.2.token]) := by
    induction rest generalizing e ts with
    | nil =>
      rw [List.flatMap_nil, List.append_nil]
      exact ⟨he, h⟩
    | cons operation rest ih =>
      rw [List.foldl_cons, List.flatMap_cons, ← List.append_assoc]
      exact ih _ _ (he.attach _ _) (he.written_attach h _ _).1
  rw [calculation, chained, List.flatMap_map]
  exact hrun _ _ (.const first.value) (.literal first.lexeme)

-- All of these tokens end by themselves.

theorem isChain_open {first : Char} (hstart : Symbol.isIdentStart first = false)
    (hdigit : Unicode.isAsciiDigit first = false) (hsign : first ∉ signs) (h : ts.IsChain Apart) :
    ([first] :: ts).IsChain Apart :=
  List.isChain_cons.mpr ⟨fun next _ => apart_of_head hstart hdigit hsign [] next, h⟩

theorem isChain_close {close : Char} (hclose : ¬ IsWordChar close) (h : ts.IsChain Apart) :
    (ts ++ [[close]]).IsChain Apart := by
  refine List.isChain_append.mpr ⟨h, .singleton _, ?_⟩
  rintro tok _ _ ⟨⟩
  exact apart_of_not_isWordChar tok hclose []

theorem isChain_name {name : Token} {first : Char} {rest : List Char} (hname : IsName name)
    (hfirst : Symbol.isIdentContinue first = false) (h : ((first :: rest) :: ts).IsChain Apart) :
    (name :: (first :: rest) :: ts).IsChain Apart :=
  List.isChain_cons_cons.mpr ⟨hname.apart hfirst, h⟩

theorem IsName.begins_ne {name : Token} (h : IsName name) (ts : List Token) :
    Begins (· ≠ '=') (name :: ts) := by
  obtain ⟨first, rest, rfl, hfirst, _⟩ := h
  refine ⟨first, rest, ts, rfl, ?_⟩
  rintro rfl
  revert hfirst
  decide

theorem Variable.apart (x : Variable H) (sign : Char) (next : Token) (hsign : sign ∈ signs) :
    Apart x.name.toList (sign :: next) := by
  have hall : signs.all (!Symbol.isIdentContinue ·) = true := by
    decide
  exact x.isName.apart (by simpa using List.all_eq_true.mp hall sign hsign)

theorem Variable.begins (x : Variable H) : Begins (· ∉ signs) [x.name.toList] := by
  obtain ⟨first, rest, heq, hfirst, _⟩ := x.isName
  refine ⟨first, rest, [], by rw [heq], ?_⟩
  intro hsign
  simp [(properties_of_mem_signs hsign).1] at hfirst

theorem Constant.begins (c : Constant H) : Begins (· ∉ signs) [c.token] := by
  refine (c.lexeme.begins []).mono fun ch hch hsign => ?_
  have hall : signs.all (!Symbol.isStart ·) = true := by
    decide
  have := List.all_eq_true.mp hall ch hsign
  simp [hch] at this

theorem Wrapper.isChain (w : Wrapper classes) (h : ts.IsChain Apart) (hbegins : Begins (· ≠ '=') ts) :
    (w.around ts).IsChain Apart ∧ Begins (· ≠ '=') (w.around ts) := by
  have hparenthesis : ([['(']] ++ ts ++ [[')']]).IsChain Apart :=
    isChain_close (by decide) (isChain_open (by decide) (by decide) (by decide) h)
  have hbracket : ([['[']] ++ ts ++ [[']']]).IsChain Apart :=
    isChain_close (by decide) (isChain_open (by decide) (by decide) (by decide) h)
  have hcall (name : Name) : (['.'] :: name.val.toList :: [['(']] ++ ts ++ [[')']]).IsChain Apart :=
    isChain_open (by decide) (by decide) (by decide)
      (isChain_name name.property (by decide) hparenthesis)
  cases w with
  | unary op =>
    obtain ⟨first, rest, ts, rfl, hfirst⟩ := hbegins
    refine ⟨List.isChain_cons_cons.mpr ⟨apart_unary op hfirst rest, h⟩, ?_⟩
    cases op <;> exact ⟨_, _, _, rfl, by decide⟩
  | group => exact ⟨hparenthesis, _, _, _, rfl, by decide⟩
  | array => exact ⟨hbracket, _, _, _, rfl, by decide⟩
  | entry key =>
    have hentry : (quoted '\'' key.toList :: [':'] :: ts).IsChain Apart := by
      refine List.isChain_cons_cons.mpr ⟨?_, isChain_open (by decide) (by decide) (by decide) h⟩
      exact apart_of_head (by decide) (by decide) (by decide) _ _
    exact ⟨isChain_close (by decide) (isChain_open (by decide) (by decide) (by decide) hentry),
      _, _, _, rfl, by decide⟩
  | index base => exact ⟨isChain_name base.isName (by decide) hbracket, base.isName.begins_ne _⟩
  | method base name =>
    exact ⟨isChain_name base.isName (by decide) (hcall name), base.isName.begins_ne _⟩
  | staticCall className _ _ name =>
    exact ⟨isChain_open (by decide) (by decide) (by decide)
      (isChain_name className.property (by decide) (hcall name)), _, _, _, rfl, by decide⟩

theorem isChain_wrapped (ws : List (Wrapper classes)) (x : Variable H) :
    (wrapped ws x).IsChain Apart := by
  have h : (wrapped ws x).IsChain Apart ∧ Begins (· ≠ '=') (wrapped ws x) := by
    induction ws with
    | nil => exact ⟨.singleton _, x.isName.begins_ne _⟩
    | cons w ws ih => exact w.isChain ih.1 ih.2
  exact h.1

theorem isChain_chained {first : Token} {rest : List (BinaryOp × Token)}
    (hfirst : ∀ sign next, sign ∈ signs → Apart first (sign :: next))
    (hrest : ∀ operation ∈ rest, Begins (· ∉ signs) [operation.2]
      ∧ ∀ sign next, sign ∈ signs → Apart operation.2 (sign :: next)) :
    (chained first rest).IsChain Apart := by
  induction rest generalizing first with
  | nil => exact .singleton _
  | cons operation rest ih =>
    obtain ⟨op, tok⟩ := operation
    rw [List.forall_mem_cons] at hrest
    obtain ⟨⟨⟨ch, more, _, heq, hch⟩, htok⟩, hrest⟩ := hrest
    cases heq
    have hop : IsOperator op.symbol.toList := .inl ⟨op, rfl⟩
    obtain ⟨sign, next, hsymbol, hsign⟩ := hop.exists_sign
    refine List.isChain_cons_cons.mpr ⟨?_, List.isChain_cons_cons.mpr ⟨hop.apart hch, ih htok hrest⟩⟩
    rw [hsymbol]
    exact hfirst sign next hsign

variable [HostObject H]

-- Wrappers

theorem Variable.derives (x : Variable H) : Derives classes 12 (.var x.name) [x.name.toList] 0 :=
  .var x.isName x.keyword?_eq

theorem Wrapper.derives (w : Wrapper classes) (h : Derives classes 10 r ts n)
    (hr : r.constValue? = none) :
    ∃ r', Derives classes 10 r' (w.around ts) (n + 1) ∧ r'.constValue? = none := by
  have hitems : DerivesItems classes [r] ts n := .last (h.mono (Nat.zero_le _))
  have hlevels : max 0 (max (n + 1) 0) = n + 1 := by omega
  cases w with
  | unary op =>
    refine ⟨.unary op r, h.unary ?_, rfl⟩
    rw [Expr.foldUnary, hr]
  | group =>
    have hgroup : r.foldGroup = .group r := by
      rcases Expr.foldGroup_eq r with ⟨v, hv⟩ | ⟨hgroup, _⟩
      . cases r <;> simp_all [Expr.foldGroup, Expr.constValue?]
      . exact hgroup
    refine ⟨.group r, ?_, hr⟩
    rw [← hgroup]
    exact (h.mono (Nat.zero_le _)).group.mono (by omega)
  | array => exact ⟨.array [r], (Derives.array hitems).mono (by omega), rfl⟩
  | entry key =>
    have hquoted : Derives classes 12 (.const (.str key)) [quoted '\'' key.toList] 0 :=
      .const (Literal.str '\'' key (.inl rfl)).lexeme
    have hkey : DerivesKey classes (.const (.str key)) [quoted '\'' key.toList] 0 :=
      .expr (by decide) (hquoted.mono (by omega))
    refine ⟨.map [(.const (.str key), r)], ?_, rfl⟩
    rw [← Nat.zero_max n]
    exact (Derives.map (.last hkey (h.mono (Nat.zero_le _)))).mono (by omega)
  | index base =>
    refine ⟨.chain (.var base.name) [.index r], ?_, rfl⟩
    rw [← hlevels]
    exact (base.derives.chain (.index (h.mono (Nat.zero_le _)) .nil) (List.cons_ne_nil _ _)).mono
      (by omega)
  | method base name =>
    have hsteps : DerivesSteps classes [.method name.val [r]] _ _ :=
      .method name.property ⟨ts, n, rfl, rfl, hitems⟩ .nil
    refine ⟨.chain (.var base.name) [.method name.val [r]], ?_, rfl⟩
    rw [← hlevels]
    rw [List.append_nil] at hsteps
    exact (base.derives.chain hsteps (List.cons_ne_nil _ _)).mono (by omega)
  | staticCall className cls registered name =>
    have hcall : Derives classes 12 (.staticCall cls name.val [r]) _ (n + 1) :=
      .staticCall className.property registered name.property ⟨ts, n, rfl, rfl, hitems⟩
    exact ⟨.staticCall cls name.val [r], hcall.mono (by omega), rfl⟩

theorem derives_wrapped (ws : List (Wrapper classes)) (x : Variable H) :
    ∃ r, Derives classes 10 r (wrapped ws x) ws.length ∧ r.constValue? = none := by
  induction ws with
  | nil => exact ⟨.var x.name, x.derives.mono (by omega), rfl⟩
  | cons w ws ih =>
    obtain ⟨r, hderives, hr⟩ := ih
    exact w.derives hderives hr

-- Chains over variables

theorem DerivesSpine.chain {least levels p : Nat} (h : DerivesSpine classes least r ts levels levels)
    (hr : r.constValue? = none) (rest : List (BinaryOp × Variable H))
    (hrest : ∀ operation ∈ rest, operation.1.precedence = p ∧ p ≤ least) :
    ∃ r', Derives classes 0 r'
      (ts ++ rest.flatMap fun operation => [operation.1.symbol.toList, operation.2.name.toList])
      (levels + rest.length) := by
  induction rest generalizing r ts levels least with
  | nil =>
    rw [List.flatMap_nil, List.append_nil]
    exact ⟨r, h.derives.mono (Nat.zero_le _)⟩
  | cons operation rest ih =>
    obtain ⟨op, x⟩ := operation
    rw [List.forall_mem_cons] at hrest
    obtain ⟨⟨rfl, hle⟩, hrest⟩ := hrest
    have hx : Derives classes (op.precedence + 1) (.var x.name) [x.name.toList] 0 :=
      x.derives.mono (by have := Parser.precedence_lt op; omega)
    have hfold := Expr.foldBinary_of_constValue? hr op (.var x.name)
    have hlevels : levels + 1
        = if (Expr.binary op r (.var x.name)).isConst then levels else levels + 1 := by
      rw [Expr.isConst, Expr.isConst.eq_def (.var x.name), Bool.and_false, if_neg Bool.false_ne_true]
    have hspine := h.binary hle hx hfold hlevels
    have hnesting : max (max levels (levels + 0)) (levels + 1) = levels + 1 := by omega
    rw [hnesting] at hspine
    obtain ⟨r', h'⟩ := ih hspine rfl fun operation hop => ⟨(hrest operation hop).1, Nat.le_refl _⟩
    refine ⟨r', ?_⟩
    have hcount : levels + 1 + rest.length = levels + (rest.length + 1) := by omega
    rw [hcount, List.append_assoc] at h'
    exact h'

theorem derives_chained (classes : Parser.ClassLookup H) (x : Variable H)
    (rest : List (BinaryOp × Variable H)) {p : Nat}
    (hrest : ∀ operation ∈ rest, operation.1.precedence = p) :
    ∃ r, Derives classes 0 r (chained x.name.toList (rest.map fun o => (o.1, o.2.name.toList)))
      rest.length := by
  have hx : Derives classes 10 (.var x.name) [x.name.toList] 0 := x.derives.mono (by omega)
  obtain ⟨r, h⟩ := hx.spine.chain rfl rest (p := p) fun operation hop => by
    have := hrest operation hop
    have := Parser.precedence_lt operation.1
    omega
  refine ⟨r, ?_⟩
  rw [Nat.zero_add] at h
  rw [chained, List.flatMap_map]
  exact h

-- Chains over constants

theorem IsCalculation.exists_const (he : IsCalculation e) (h : e.fold = .ok r) : ∃ v, r = .const v := by
  induction he generalizing r with
  | const v =>
    cases h
    exact ⟨v, rfl⟩
  | binary op _ _ ih ih' =>
    obtain ⟨left, hleft, h⟩ := Outcome.bind_eq_ok.mp h
    obtain ⟨right, hright, h⟩ := Outcome.bind_eq_ok.mp h
    obtain ⟨l, rfl⟩ := ih hleft
    obtain ⟨r, rfl⟩ := ih' hright
    rcases Expr.foldBinary_eq_ok h with hv | ⟨_, hnone | hnone, _⟩
    . exact hv
    . cases hnone
    . cases hnone

theorem IsCalculation.nesting_eq_zero (he : IsCalculation e) : e.levels = 0 ∧ e.nesting = 0 := by
  induction he with
  | const v => exact ⟨rfl, rfl⟩
  | @binary op left right hleft hright ih ih' =>
    have hlevels : (Expr.binary op left right).levels = 0 := by
      rw [Expr.levels]
      split
      . next hfold =>
        obtain ⟨v, rfl⟩ := (IsCalculation.binary op hleft hright).exists_const hfold
        exact ih.1
      . exact ih.1
    refine ⟨hlevels, ?_⟩
    rw [Expr.nesting, hlevels, ih.1, ih.2, ih'.2]
    rfl

theorem parse_calculation (classes : Parser.ClassLookup H) (limit : Nat) (first : Constant H)
    (rest : List (BinaryOp × Constant H)) {src : String}
    (hlaid : Laid (chained first.token (rest.map fun o => (o.1, o.2.token))) src.toList) :
    (∃ v, (calculation first rest).fold = .ok (.const v)
        ∧ Expr.parse classes limit src = .ok (.const v))
      ∨ ∃ cause pos, (calculation first rest).fold = .error cause
        ∧ Expr.parse classes limit src = .error ⟨pos, .constantFold cause⟩ := by
  obtain ⟨hcalculation, hwritten⟩ := written_calculation classes first rest
  rcases Expr.parse_of_laid hwritten hlaid limit with
    ⟨r, hparse, hfold, _⟩ | ⟨⟨pos, problem⟩, hparse, ⟨cause, hfold, hproblem⟩ | ⟨hlt, _⟩⟩
  . obtain ⟨v, rfl⟩ := hcalculation.exists_const hfold
    exact .inl ⟨v, hfold, hparse⟩
  . cases hproblem
    exact .inr ⟨cause, pos, hfold, hparse⟩
  . rw [hcalculation.nesting_eq_zero.2] at hlt
    cases hlt

namespace Expr

/--
The source takes `n` levels of the nesting limit: it parses just if there are as many.
-/
def Takes (classes : Parser.ClassLookup H) (limit : Nat) (src : String) (n : Nat) : Prop :=
  (n ≤ limit → ∃ r, Expr.parse classes limit src = .ok r)
    ∧ (limit < n → ∃ pos, Expr.parse classes limit src = .error ⟨pos, .tooDeep limit⟩)

theorem takes_of_derives (h : Derives classes 0 r ts n) {src : String} (hlaid : Laid ts src.toList)
    (limit : Nat) : Takes classes limit src n :=
  ⟨fun hle => ⟨r, (h.parse hlaid limit).1 hle⟩, (h.parse hlaid limit).2⟩

/--
The nesting limit is exact. Each wrapper around a variable takes a level, and so does each operator of
one precedence between variables. A chain of operators between constants takes none: the limit does
not matter to the constant or to the error that it folds to.
-/
theorem nesting_limit_exact (classes : Parser.ClassLookup H) (limit : Nat) :
    (∀ (ws : List (Wrapper classes)) (x : Variable H),
        Laid (wrapped ws x) (wrapped ws x).flatten
          ∧ ∀ src : String, Laid (wrapped ws x) src.toList → Takes classes limit src ws.length)
      ∧ (∀ (x : Variable H) (rest : List (BinaryOp × Variable H)) (p : Nat),
        (∀ operation ∈ rest, operation.1.precedence = p) →
          let ts := chained x.name.toList (rest.map fun o => (o.1, o.2.name.toList))
          Laid ts ts.flatten
            ∧ ∀ src : String, Laid ts src.toList → Takes classes limit src rest.length)
      ∧ ∀ (first : Constant H) (rest : List (BinaryOp × Constant H)),
        let ts := chained first.token (rest.map fun o => (o.1, o.2.token))
        Laid ts ts.flatten
          ∧ ∀ src : String, Laid ts src.toList →
            (∃ v, (calculation first rest).fold = .ok (.const v)
                ∧ Expr.parse classes limit src = .ok (.const v))
              ∨ ∃ cause pos, (calculation first rest).fold = .error cause
                ∧ Expr.parse classes limit src = .error ⟨pos, .constantFold cause⟩ := by
  refine ⟨?_, ?_, ?_⟩
  . intro ws x
    obtain ⟨r, hderives, _⟩ := derives_wrapped ws x
    have hderives := hderives.mono (Nat.zero_le _)
    exact ⟨.flatten hderives.proper (isChain_wrapped ws x),
      fun src hlaid => takes_of_derives hderives hlaid limit⟩
  . intro x rest p hrest ts
    obtain ⟨r, hderives⟩ := derives_chained classes x rest hrest
    refine ⟨.flatten hderives.proper (isChain_chained ?_ ?_),
      fun src hlaid => takes_of_derives hderives hlaid limit⟩
    . exact x.apart
    . intro operation hop
      obtain ⟨o, _, rfl⟩ := List.mem_map.mp hop
      exact ⟨o.2.begins, o.2.apart⟩
  . intro first rest ts
    obtain ⟨_, hwritten⟩ := written_calculation classes first rest
    refine ⟨.flatten hwritten.proper (isChain_chained ?_ ?_),
      fun src hlaid => parse_calculation classes limit first rest hlaid⟩
    . exact fun sign next hsign => first.lexeme.apart hsign
    . intro operation hop
      obtain ⟨o, _, rfl⟩ := List.mem_map.mp hop
      exact ⟨o.2.begins, fun sign next hsign => o.2.lexeme.apart hsign⟩

theorem nesting_limit_exact_two :
    let parse (limit : Nat) (src : String) : Except ParseError (Expr Empty) :=
      Expr.parse (fun _ => none) limit src
    (∃ r, parse 2 "-a[a]" = .ok r) ∧ (∃ pos, parse 1 "-a[a]" = .error ⟨pos, .tooDeep 1⟩)
      ∧ (∃ r, parse 2 "a+a-a" = .ok r) ∧ (∃ pos, parse 1 "a+a-a" = .error ⟨pos, .tooDeep 1⟩)
      ∧ ∃ v, parse 0 "1+2*3" = .ok (.const v) := by
  intro parse
  let a : Variable Empty := ⟨"a", ⟨'a', [], rfl, by decide, by simp⟩, rfl⟩
  let digit (d : Char) (h : Unicode.isAsciiDigit d = true)
      (hle : Integer.ofDigits 10 0 [d] ≤ Integer.greatest) : Constant Empty :=
    ⟨_, [d], .int ⟨List.cons_ne_nil _ _, by simpa using h⟩ hle⟩
  let ws : List (Wrapper (H := Empty) fun _ => none) := [.unary .neg, .index a]
  let sum : List (BinaryOp × Variable Empty) := [(.add, a), (.sub, a)]
  let one := digit '1' (by decide) (by decide)
  let rest :=
    [(BinaryOp.add, digit '2' (by decide) (by decide)), (.mul, digit '3' (by decide) (by decide))]
  have hexact (limit : Nat) := nesting_limit_exact (H := Empty) (fun _ => none) limit
  have hwrapped : Laid (wrapped ws a) "-a[a]".toList := by
    have h : (wrapped ws a).flatten = "-a[a]".toList := by
      simp [wrapped, ws, a, Wrapper.around, UnaryOp.symbol]
    exact h ▸ ((hexact 0).1 ws a).1
  have hchained : Laid (chained "a".toList (sum.map fun o => (o.1, o.2.name.toList)))
      "a+a-a".toList := by
    have h : (chained "a".toList (sum.map fun o => (o.1, o.2.name.toList))).flatten
        = "a+a-a".toList := by
      simp [chained, sum, a, BinaryOp.symbol]
    exact h ▸ ((hexact 0).2.1 a sum 8 (by decide)).1
  have hcalculation : Laid (chained one.token (rest.map fun o => (o.1, o.2.token)))
      "1+2*3".toList := by
    have h : (chained one.token (rest.map fun o => (o.1, o.2.token))).flatten = "1+2*3".toList := by
      simp [chained, one, rest, digit, BinaryOp.symbol]
    exact h ▸ ((hexact 0).2.2 one rest).1
  refine ⟨(((hexact 2).1 ws a).2 _ hwrapped).1 (by decide),
    (((hexact 1).1 ws a).2 _ hwrapped).2 (by decide),
    (((hexact 2).2.1 a sum 8 (by decide)).2 _ hchained).1 (by decide),
    (((hexact 1).2.1 a sum 8 (by decide)).2 _ hchained).2 (by decide), ?_⟩
  rcases ((hexact 0).2.2 one rest).2 _ hcalculation with ⟨v, _, hparse⟩ | ⟨_, _, hfold, _⟩
  . exact ⟨v, hparse⟩
  . cases hfold

end Expr

end Stencil
