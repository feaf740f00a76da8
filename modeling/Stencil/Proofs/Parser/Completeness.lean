import Stencil.Proofs.Parser.Brackets

/-!
This module contains how the parsers read the constructs that are not in brackets: literals,
variables, operators, static members and the steps of a chain.
-/

namespace Stencil

open Outcome

variable {H : Type}

namespace Parser

open Cursor

variable [HostObject H] {classes : ClassLookup H} {e : Expr H} {ts ts' more : List Token}
  {c : Cursor} {d limit calls : Nat}

theorem reads_literal {v : Value H} {tok : Token} (h : Lexeme v tok)
    (hmore : ¬ Begins Continues more) :
    Reads (primary classes (calls + 1)) (Expr.const v).fold (Expr.const v).nesting [tok] more := by
  intro c d limit hc
  have hdone (c' : Cursor) (start : Nat) (hc' : c'.Before more d limit) :
      Satisfies (if (Expr.const v).isValuer = true then pure (Expr.const v)
          else failAt start .notAValue) c'
        (fun a c' => (Expr.const v).fold = .ok a ∧ d + (Expr.const v).nesting ≤ limit
          ∧ c'.Before more d limit)
        (Faulty (Expr.const v).fold (d + (Expr.const v).nesting) limit) :=
    satisfies_valuer rfl ⟨rfl, hc'.depth_le, hc'⟩
  have hnext : ¬ Begins (Symbol.isIdentStart · = true) more :=
    fun hbegins => hmore (hbegins.mono fun _ => .inr)
  rw [primary, satisfies_bind, satisfies_position, satisfies_bind, satisfies_classifyNext]
  by_cases hnumber : IsNumber tok
  . rw [classify_number hnumber hc]
    dsimp only
    rw [satisfies_bind]
    exact before_number h hnumber hc.at hnext fun c' => hdone c' c.pos
  cases h with
  | null =>
    rw [classify_name hc isName_null]
    dsimp only
    rw [satisfies_bind]
    exact before_keyword hc.at isName_null rfl fun c' => hdone c' c.pos
  | bool b =>
    rw [classify_name hc (isName_bool b)]
    dsimp only
    rw [satisfies_bind]
    have hkeyword : keyword? (H := H) (if b then "true" else "false") = some (.bool b) := by
      cases b <;> rfl
    exact before_keyword hc.at (isName_bool b) hkeyword fun c' => hdone c' c.pos
  | int digits _ => exact absurd (isNumber_of_isDigits digits) hnumber
  | hex hmark digits _ => exact absurd (.hex hmark digits) hnumber
  | decimal hwhole hfraction hexponent _ _ =>
    exact absurd (.decimal hwhole hfraction hexponent) hnumber
  | str hquote htext =>
    rw [classify_quoted hquote hc]
    dsimp only
    rw [satisfies_bind]
    exact before_stringLiteral hquote htext hc.at fun c' => hdone c' c.pos

theorem reads_var {name : String} (hname : IsName name.toList)
    (hkeyword : keyword? (H := H) name = none) :
    Reads (primary classes (calls + 1)) (Expr.var name).fold (Expr.var name : Expr H).nesting
      [name.toList] more := by
  intro c d limit hc
  rw [primary, satisfies_bind, satisfies_position, satisfies_bind, satisfies_classifyNext,
    classify_name hc hname]
  dsimp only
  rw [satisfies_bind]
  apply before_variable hc.at hname hkeyword
  intro c' hc'
  exact satisfies_valuer rfl ⟨rfl, hc'.depth_le, hc'⟩

theorem reads_unary {op : UnaryOp} (h : Reads (unary classes calls) e.fold e.nesting ts more) :
    Reads (unary classes (calls + 1)) (Expr.unary op e).fold (Expr.unary op e).nesting
      (op.symbol.toList :: ts) more := by
  intro c d limit hc
  -- What is read when the operator was recognised.
  have hoperand (first : Char) (hat : c.skipBlanks.At [first] (ts ++ more) d limit) :
      Satisfies (do
        let pos ← position
        let _ ← advance
        descend
        let operand ← Parser.unary classes calls
        ascend
        folded pos (Expr.foldUnary op operand)) c.skipBlanks
        (fun a c' => (Expr.unary op e).fold = .ok a ∧ d + (Expr.unary op e).nesting ≤ limit
          ∧ c'.Before more d limit)
        (Faulty (Expr.unary op e).fold (d + (Expr.unary op e).nesting) limit) := by
    rw [Expr.nesting, satisfies_bind, satisfies_position, satisfies_bind]
    apply before_advance hat
    intro c₁ hc₁
    apply descend_bind hc₁ (by omega)
    intro c₂ _ hc₂
    apply h.bind hc₂ (by omega)
    . intro cause hcause
      simp [Expr.fold, hcause]
    intro r c₃ hr hn hc₃
    have hfold : (Expr.unary op e).fold = Expr.foldUnary op r := by
      simp [Expr.fold, hr]
    rw [satisfies_bind, satisfies_ascend, satisfies_folded, hfold]
    constructor
    . intro t ht
      exact ⟨ht, by omega, before_ascendBy hc₃⟩
    . intro cause hcause
      exact faulty_constantFold hcause _
  rw [List.cons_append] at hc
  rw [unary, peekUnaryOp, satisfies_bind, satisfies_bind, satisfies_nextSignificant, satisfies_bind,
    satisfies_peekAt]
  cases op with
  | neg =>
    have hat : c.skipBlanks.At ['-'] (ts ++ more) d limit := hc.at
    rw [hat.peek]
    exact hoperand '-' hat
  | not =>
    have hat : c.skipBlanks.At ['!'] (ts ++ more) d limit := hc.at
    -- No `=` follows the sign, so that it is not an inequality.
    have hnext : c.skipBlanks.peekAt 1 ≠ some '=' := by
      obtain ⟨text, hrest, hmaximal, _⟩ := hat.rest_eq
      rw [Cursor.peekAt, hrest]
      intro hnext
      obtain ⟨rest, rfl⟩ := List.head?_eq_some_iff.mp (List.head?_eq_getElem?.trans hnext)
      have := hmaximal ['='] ⟨rest, rfl⟩ (.inr (.inr (.inl ⟨.ne, rfl⟩)))
      cases this
    rw [hat.peek, if_neg (by decide), if_pos (by simpa using hnext)]
    exact hoperand '!' hat

theorem reads_ternary {cond yes no : Expr H} {ts'' : List Token}
    (hcond : Reads (binary classes calls 0) cond.fold cond.nesting ts
      (['?'] :: (ts' ++ [':'] :: (ts'' ++ more))))
    (hyes : Reads (expression classes calls) yes.fold yes.nesting ts' ([':'] :: (ts'' ++ more)))
    (hno : Reads (expression classes calls) no.fold no.nesting ts'' more) :
    Reads (expression classes (calls + 1)) (Expr.ternary cond yes no).fold
      (Expr.ternary cond yes no).nesting (ts ++ ['?'] :: ts' ++ [':'] :: ts'') more := by
  intro c d limit hc
  simp only [List.cons_append, List.append_assoc] at hc
  rw [Expr.nesting, expression]
  apply hcond.bind hc (by omega)
  . intro cause hcause
    simp [Expr.fold, hcause]
  intro cond' c₁ hcond' hn₁ hc₁
  rw [satisfies_bind, satisfies_nextSignificant, hc₁.at.peek, if_neg (by decide), satisfies_bind,
    satisfies_position, satisfies_bind]
  apply before_advance hc₁.at
  intro c₂ hc₂
  apply descend_bind hc₂ (by omega)
  intro c₃ _ hc₃
  apply hyes.bind hc₃ (by omega)
  . intro cause hcause
    simp [Expr.fold, hcond', hcause]
  intro yes' c₄ hyes' hn₄ hc₄
  rw [satisfies_bind]
  apply before_expect hc₄
  intro c₅ hc₅
  apply hno.bind hc₅ (by omega)
  . intro cause hcause
    simp [Expr.fold, hcond', hyes', hcause]
  intro no' c₆ hno' hn₆ hc₆
  have hfold : (Expr.ternary cond yes no).fold = Expr.foldTernary cond' yes' no' := by
    simp [Expr.fold, hcond', hyes', hno']
  rw [satisfies_bind, satisfies_ascend, satisfies_folded, hfold]
  constructor
  . intro t ht
    exact ⟨ht, by omega, before_ascendBy hc₆⟩
  . intro cause hcause
    exact faulty_constantFold hcause _

theorem reads_chain {ss : List (Step H)} (hne : ss ≠ [])
    (hbase : Reads (primary classes calls) e.fold e.nesting ts (ts' ++ more))
    (hsteps : Reads (steps classes calls) (Expr.foldSteps ss) (Expr.nestingSteps ss) ts' more) :
    Reads (postfixed classes (calls + 1)) (Expr.chain e ss).fold (Expr.chain e ss).nesting
      (ts ++ ts') more := by
  intro c d limit hc
  rw [List.append_assoc] at hc
  rw [Expr.nesting, postfixed]
  apply hbase.bind hc (by omega)
  . intro cause hcause
    simp [Expr.fold, hcause]
  intro base c₁ hbase' hn₁ hc₁
  apply hsteps.bind hc₁ (by omega)
  . intro cause hcause
    simp [Expr.fold, hbase', hcause]
  intro ss' c₂ hss hn₂ hc₂
  -- Folding leaves as many steps as there were, so that the chain is kept.
  have hne' : ss' ≠ [] := by
    rintro rfl
    cases ss with
    | nil => exact hne rfl
    | cons step ss =>
      obtain ⟨step', _, hss⟩ := bind_eq_ok.mp hss
      obtain ⟨ss'', _, hss⟩ := bind_eq_ok.mp hss
      cases hss
  split
  . exact absurd rfl hne'
  . exact ⟨by simp [Expr.fold, hbase', hss], by omega, hc₂⟩

theorem before_member {className member : String} {cls : StaticClass H} {toks : List Token}
    {post : Expr H → Cursor → Prop} {bad : ParseError → Prop}
    (hclass : IsName className.toList) (hcls : classes className = some cls)
    (hmember : IsName member.toList)
    (hc : c.Before (['@'] :: className.toList :: ['.'] :: member.toList :: toks) d limit)
    (hpost : ∀ c', c'.Before toks d limit →
      Satisfies (do
        if (← nextSignificant) == some '(' then
          return Expr.staticCall cls member (← arguments classes calls)
        else
          return Expr.staticField cls member) c'
        (fun r c' => r.isValuer = true ∧ post r c') bad) :
    Satisfies (primary classes (calls + 1 + 1)) c post bad := by
  rw [primary, satisfies_bind, satisfies_position, satisfies_bind, satisfies_classifyNext,
    hc.at.peek, Option.map_some, show Symbol.ofChar '@' = .classMarker by decide]
  dsimp only
  rw [satisfies_bind, staticAccess, satisfies_bind]
  apply before_advance hc.at
  intro c₁ hc₁
  rw [satisfies_bind, satisfies_nextSignificant, satisfies_bind, satisfies_position, satisfies_bind]
  apply before_name hc₁.skipBlanks hclass
  intro c₂ hc₂
  rw [hcls]
  dsimp only
  rw [satisfies_bind, satisfies_nextSignificant, hc₂.at.peek, if_neg (by decide), satisfies_bind]
  apply before_advance hc₂.at
  intro c₃ hc₃
  rw [satisfies_bind]
  apply before_name hc₃ hmember
  intro c₄ hc₄
  apply (hpost c₄ hc₄).mono _ (fun _ herr => herr)
  intro r c₅ hr
  exact satisfies_valuer hr.1 hr.2

theorem reads_staticField {className name : String} {cls : StaticClass H}
    (hclass : IsName className.toList) (hcls : classes className = some cls)
    (hname : IsName name.toList) (hmore : ¬ Begins (· = '(') more) :
    Reads (primary classes (calls + 1 + 1)) (Expr.staticField cls name).fold
      (Expr.staticField cls name).nesting
      [['@'], className.toList, ['.'], name.toList] more := by
  intro c d limit hc
  apply before_member hclass hcls hname hc
  intro c' hc'
  rw [satisfies_bind, satisfies_nextSignificant, if_neg]
  . exact ⟨rfl, rfl, hc'.depth_le, hc'.skipBlanks⟩
  . rw [beq_iff_eq]
    intro hpeek
    exact hmore (begins_of_peek hc' hpeek)

theorem reads_staticCall {className method : String} {cls : StaticClass H} {args : List (Expr H)}
    (hclass : IsName className.toList) (hcls : classes className = some cls)
    (hmethod : IsName method.toList) (hargs : UnderstoodItems classes args ts)
    (hcalls : 16 * (ts ++ [')'] :: more).length + 11 ≤ calls) :
    Reads (primary classes (calls + 1 + 1)) (Expr.staticCall cls method args).fold
      (Expr.staticCall cls method args).nesting
      (['@'] :: className.toList :: ['.'] :: method.toList :: ['('] :: ts ++ [[')']]) more := by
  intro c d limit hc
  simp only [List.cons_append, List.append_assoc, List.nil_append] at hc
  rw [Expr.nesting]
  apply before_member hclass hcls hmethod hc
  intro c₁ hc₁
  rw [satisfies_bind, satisfies_nextSignificant, hc₁.at.peek, if_pos (by decide)]
  apply arguments_bind hargs hcalls hc₁.at (Nat.le_refl _)
  . intro cause hcause
    simp [Expr.fold, hcause]
  intro args' c₂ hargs' hn hc₂
  exact ⟨rfl, by simp [Expr.fold, hargs'], hn, hc₂⟩

theorem reads_noSteps (hstops : Stops 10 more) :
    Reads (steps classes (calls + 1)) (Expr.foldSteps []) (Expr.nestingSteps ([] : List (Step H)))
      [] more := by
  intro c d limit hc
  rw [List.nil_append] at hc
  rw [steps, satisfies_bind, satisfies_nextSignificant]
  split
  . next hpeek => exact absurd (begins_of_peek hc hpeek) (hstops.not_begins (by decide))
  . next hpeek => exact absurd (begins_of_peek hc hpeek) (hstops.not_begins (by decide))
  . exact ⟨rfl, hc.depth_le, hc.skipBlanks⟩

theorem reads_moreSteps {step step' : Step H} {ss : List (Step H)}
    (h : Reads (steps classes calls) (Expr.foldSteps ss) (Expr.nestingSteps ss) ts more)
    (hc : c.Before (ts ++ more) d limit) (hstep : Expr.foldStep step = .ok step')
    (hn : d + Expr.nestingStep step ≤ limit) :
    Satisfies (do return step' :: (← steps classes calls) : Parser (List (Step H))) c
      (fun a c' => Expr.foldSteps (step :: ss) = .ok a
        ∧ d + Expr.nestingSteps (step :: ss) ≤ limit ∧ c'.Before more d limit)
      (Faulty (Expr.foldSteps (step :: ss)) (d + Expr.nestingSteps (step :: ss)) limit) := by
  rw [Expr.nestingSteps]
  apply h.bind hc (by omega)
  . intro cause hcause
    simp [Expr.foldSteps, hstep, hcause]
  intro ss' c' hss hn' hc'
  exact ⟨by simp [Expr.foldSteps, hstep, hss], by omega, hc'⟩

theorem reads_property {name : String} {ss : List (Step H)} (hname : IsName name.toList)
    (hmore : ¬ Begins (· = '(') (ts ++ more))
    (h : Reads (steps classes calls) (Expr.foldSteps ss) (Expr.nestingSteps ss) ts more) :
    Reads (steps classes (calls + 1)) (Expr.foldSteps (.property name :: ss))
      (Expr.nestingSteps (.property name :: ss)) (['.'] :: name.toList :: ts) more := by
  intro c d limit hc
  simp only [List.cons_append] at hc
  rw [steps, satisfies_bind, satisfies_nextSignificant, hc.at.peek]
  simp only
  rw [satisfies_bind]
  apply before_advance hc.at
  intro c₁ hc₁
  rw [satisfies_bind]
  apply before_name hc₁ hname
  intro c₂ hc₂
  rw [satisfies_bind, satisfies_nextSignificant, if_neg]
  . exact reads_moreSteps h hc₂.skipBlanks rfl hc₂.depth_le
  . rw [beq_iff_eq]
    intro hpeek
    exact hmore (begins_of_peek hc₂ hpeek)

theorem reads_method {name : String} {args : List (Expr H)} {ss : List (Step H)}
    (hname : IsName name.toList) (hargs : UnderstoodItems classes args ts)
    (hcalls : 16 * (ts ++ [')'] :: (ts' ++ more)).length + 11 ≤ calls)
    (h : Reads (steps classes calls) (Expr.foldSteps ss) (Expr.nestingSteps ss) ts' more) :
    Reads (steps classes (calls + 1)) (Expr.foldSteps (.method name args :: ss))
      (Expr.nestingSteps (.method name args :: ss))
      (['.'] :: name.toList :: ['('] :: ts ++ [')'] :: ts') more := by
  intro c d limit hc
  simp only [List.cons_append, List.append_assoc] at hc
  rw [steps, satisfies_bind, satisfies_nextSignificant, hc.at.peek]
  simp only
  rw [satisfies_bind]
  apply before_advance hc.at
  intro c₁ hc₁
  rw [satisfies_bind]
  apply before_name hc₁ hname
  intro c₂ hc₂
  rw [satisfies_bind, satisfies_nextSignificant, hc₂.at.peek, if_pos (by decide)]
  apply arguments_bind hargs hcalls hc₂.at
  . rw [Expr.nestingSteps, Expr.nestingStep]
    omega
  . intro cause hcause
    simp [Expr.foldSteps, Expr.foldStep, hcause]
  intro args' c₃ hargs' hn hc₃
  exact reads_moreSteps h hc₃ (by simp [Expr.foldStep, hargs']) hn

theorem reads_index {key : Expr H} {ss : List (Step H)}
    (hkey : Reads (expression classes calls) key.fold key.nesting ts ([']'] :: (ts' ++ more)))
    (h : Reads (steps classes calls) (Expr.foldSteps ss) (Expr.nestingSteps ss) ts' more) :
    Reads (steps classes (calls + 1)) (Expr.foldSteps (.index key :: ss))
      (Expr.nestingSteps (.index key :: ss)) (['['] :: ts ++ [']'] :: ts') more := by
  intro c d limit hc
  simp only [List.cons_append, List.append_assoc] at hc
  have hnesting : key.nesting + 1 ≤ Expr.nestingSteps (.index key :: ss) := by
    rw [Expr.nestingSteps, Expr.nestingStep]
    omega
  rw [steps, satisfies_bind, satisfies_nextSignificant, hc.at.peek]
  simp only
  rw [satisfies_bind, satisfies_position, satisfies_bind]
  apply before_advance hc.at
  intro c₁ hc₁
  apply descend_bind hc₁ (by omega)
  intro c₂ _ hc₂
  apply hkey.bind hc₂ (by omega)
  . intro cause hcause
    simp [Expr.foldSteps, Expr.foldStep, hcause]
  intro key' c₃ hkey' hn hc₃
  rw [satisfies_bind]
  apply before_closing hc₃
  intro c₄ hc₄
  rw [satisfies_bind, satisfies_ascend]
  apply reads_moreSteps h (before_ascendBy hc₄) (by simp [Expr.foldStep, hkey'])
  rw [Expr.nestingStep]
  omega

end Parser

end Stencil
