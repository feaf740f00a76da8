import Stencil.Proofs.Expr.Valuer
import Stencil.Proofs.Parser.Position

/-!
This module contains the induction over the calls of the parser of expressions: every parser comes
from a place to one further on, on the level on which it started, the expressions that it reads
stand for values, and its errors are about the place they name.
-/

namespace Stencil

variable {H : Type}

namespace Parser

open Cursor

def Advances {α : Type} (classes : ClassLookup H) (src : List Char) (limit : Nat) (p : Parser α)
    (good : α → Prop) (c : Cursor) : Prop :=
  ∀ pos depth, c.Reached src limit pos depth →
    Satisfies p c (fun a c' => good a ∧ c'.Reached src limit (pos + 1) depth)
      (·.PointsInto classes limit 0 src)

variable {src : List Char} {limit p d : Nat} {c : Cursor} {classes : ClassLookup H}

theorem Advances.rule {α : Type} {parser : Parser α} {good : α → Prop} {post : α → Cursor → Prop}
    (h : Advances classes src limit parser good c) (hc : c.Reached src limit p d)
    (hpost : ∀ a c', good a → c'.Reached src limit (p + 1) d → post a c') :
    Satisfies parser c post (·.PointsInto classes limit 0 src) :=
  (h p d hc).mono (fun a c' ha => hpost a c' ha.1 ha.2) (fun _ he => he)

theorem advances_exhausted {α : Type} {good : α → Prop} :
    Advances classes src limit exhausted good c := by
  intro pos depth hc
  rw [satisfies_exhausted]
  exact hc.on.fail_tooDeep

theorem binaryOp?_eq_some {first second : Option Char} {op : BinaryOp} {width : Nat}
    (h : binaryOp? first second = some (op, width)) :
    ∃ ch, first = some ch ∧ op.symbol.toList.head? = some ch := by
  unfold binaryOp? at h
  split at h <;> cases h <;> exact ⟨_, rfl, rfl⟩

theorem reached_folded {e : Eval (Expr H)} {start : Nat} {post : Expr H → Cursor → Prop}
    (hpost : ∀ t, e = .ok t → post t c)
    (hstart : ∀ cause, ParseError.PointsInto classes limit 0 src ⟨start, .constantFold cause⟩) :
    Satisfies (folded start e) c post (·.PointsInto classes limit 0 src) := by
  rw [satisfies_folded]
  exact ⟨hpost, fun cause _ => hstart cause⟩

theorem describes_of_peek {symbol : Symbol} (h : c.peek.map Symbol.ofChar = some symbol) :
    ∃ ch, c.peek = some ch ∧ symbol.Describes ch := by
  obtain ⟨ch, hpeek, rfl⟩ := Option.map_eq_some_iff.mp h
  exact ⟨ch, hpeek, Symbol.describes_ofChar ch⟩

variable [HostObject H]

/--
What the parsers do within a number of calls. The opening character of a construct that they name
in an error stands at the cursor, or it was read before and `PointsInto` is known.
-/
structure Tracks (classes : ClassLookup H) (src : List Char) (limit calls : Nat) : Prop where
  expression : ∀ c, Advances classes src limit (expression classes calls) (·.isValuer = true) c
  binary : ∀ least c,
    Advances classes src limit (binary classes calls least) (·.isValuer = true) c
  operators : ∀ least left levels c p d, left.isValuer = true →
    c.Reached src limit p (d + levels) →
      Satisfies (operators classes calls least left levels) c
        (fun r c' => r.1.isValuer = true ∧ c'.Reached src limit p (d + r.2))
        (·.PointsInto classes limit 0 src)
  unary : ∀ c, Advances classes src limit (unary classes calls) (·.isValuer = true) c
  postfixed : ∀ c : Cursor, Advances classes src limit (postfixed classes calls) (·.isValuer = true)
    c.skipBlanks
  primary : ∀ c : Cursor, Advances classes src limit (primary classes calls) (·.isValuer = true)
    c.skipBlanks
  group : ∀ c, c.peek = some '(' →
    Advances classes src limit (group classes calls) (·.isValuer = true) c
  array : ∀ c, c.peek = some '[' →
    Advances classes src limit (array classes calls) (·.isValuer = true) c
  arguments : ∀ c, c.peek = some '(' →
    Advances classes src limit (arguments classes calls) (fun _ => True) c
  sequence : ∀ close start construct c,
    ParseError.PointsInto classes limit 0 src ⟨start, .unterminated construct⟩ →
      Advances classes src limit (sequence classes calls close start construct) (fun _ => True) c
  items : ∀ close start construct c,
    ParseError.PointsInto classes limit 0 src ⟨start, .unterminated construct⟩ →
      Advances classes src limit (items classes calls close start construct) (fun _ => True) c
  map : ∀ c, c.peek = some '\x7b' →
    Advances classes src limit (map classes calls) (·.isValuer = true) c
  entries : ∀ start c,
    ParseError.PointsInto classes limit 0 src ⟨start, .unterminated .map⟩ →
      Advances classes src limit (entries classes calls start) (fun _ => True) c
  mapKey : ∀ c, Advances classes src limit (mapKey classes calls) (·.isValuer = true) c
  staticAccess : ∀ c, Advances classes src limit (staticAccess classes calls) (fun _ => True) c
  steps : ∀ c p d, c.Reached src limit p d →
    Satisfies (steps classes calls) c (fun _ c' => c'.Reached src limit p d)
      (·.PointsInto classes limit 0 src)

section

variable {calls : Nat} (ih : Tracks classes src limit calls)

include ih

theorem advances_expression : Advances classes src limit (expression classes (calls + 1))
    (·.isValuer = true) c := by
  intro p d hc
  rw [expression, satisfies_bind]
  apply (ih.binary 0 c).rule hc
  intro cond c₁ hcond hc₁
  rw [satisfies_bind, satisfies_nextSignificant, satisfies_ite]
  split
  . exact ⟨hcond, hc₁.skipBlanks⟩
  . next hmark =>
    have hmark : c₁.skipBlanks.peek = some '?' := by simpa using hmark
    have hfold (cause : EvalError) : ParseError.PointsInto classes limit 0 src
        ⟨c₁.skipBlanks.pos, .constantFold cause⟩ :=
      hc₁.skipBlanks.on.fail ⟨'?', hmark, .inl rfl⟩
    rw [satisfies_bind, satisfies_position, satisfies_bind]
    apply reached_advance hc₁.skipBlanks
    intro _ c₂ _ hc₂
    rw [satisfies_bind]
    apply reached_descend hc₂
    intro c₃ hc₃
    rw [satisfies_bind]
    apply (ih.expression c₃).rule hc₃
    intro yes c₄ _ hc₄
    rw [satisfies_bind]
    apply reached_expect hc₄
    intro c₅ hc₅
    rw [satisfies_bind]
    apply (ih.expression c₅).rule hc₅
    intro no c₆ _ hc₆
    rw [satisfies_bind, satisfies_ascend]
    apply reached_folded _ hfold
    intro e he
    exact ⟨Expr.isValuer_of_foldTernary he, hc₆.ascendBy.mono (by omega)⟩

theorem advances_binary (least : Nat) : Advances classes src limit (binary classes (calls + 1) least)
    (·.isValuer = true) c := by
  intro p d hc
  rw [binary, satisfies_bind]
  apply (ih.unary c).rule hc
  intro left c₁ hleft hc₁
  rw [satisfies_bind]
  apply (ih.operators least left 0 c₁ _ d hleft hc₁).mono
  . rintro ⟨e, levels⟩ c₂ ⟨he, hc₂⟩
    rw [satisfies_bind, satisfies_ascendBy, satisfies_pure]
    exact ⟨he, hc₂.ascendBy⟩
  . exact fun _ he => he

theorem reached_operators {least levels : Nat} {left : Expr H} (hleft : left.isValuer = true)
    (hc : c.Reached src limit p (d + levels)) :
    Satisfies (operators classes (calls + 1) least left levels) c
      (fun r c' => r.1.isValuer = true ∧ c'.Reached src limit p (d + r.2))
      (·.PointsInto classes limit 0 src) := by
  rw [operators, peekBinaryOp, satisfies_bind, satisfies_bind, satisfies_nextSignificant,
    satisfies_bind, satisfies_peekAt, satisfies_pure]
  split
  . exact ⟨hleft, hc.skipBlanks⟩
  . next op width h =>
    rw [satisfies_ite]
    split
    . exact ⟨hleft, hc.skipBlanks⟩
    . have hfold (cause : EvalError) : ParseError.PointsInto classes limit 0 src
          ⟨c.skipBlanks.pos, .constantFold cause⟩ := by
        obtain ⟨ch, hch, hop⟩ := binaryOp?_eq_some h
        exact hc.skipBlanks.on.fail ⟨ch, hch, .inr (.inr (.inr ⟨op, hop⟩))⟩
      rw [satisfies_bind, satisfies_position, satisfies_bind]
      apply reached_advanceBy hc.skipBlanks
      intro c₁ hc₁
      rw [satisfies_bind]
      apply (ih.binary _ c₁).rule hc₁
      intro right c₂ _ hc₂
      rw [satisfies_bind]
      apply reached_folded _ hfold
      intro e he
      have he := Expr.isValuer_of_foldBinary he
      have hc₂ := hc₂.mono (show p ≤ p + width + 1 by omega)
      rw [satisfies_ite]
      split
      . exact ih.operators least e levels c₂ p d he hc₂
      . rw [satisfies_bind]
        apply reached_descend hc₂
        intro c₃ hc₃
        exact ih.operators least e (levels + 1) c₃ p d he hc₃

theorem advances_unary : Advances classes src limit (unary classes (calls + 1))
    (·.isValuer = true) c := by
  intro p d hc
  rw [unary, peekUnaryOp, satisfies_bind, satisfies_bind, satisfies_nextSignificant, satisfies_bind,
    satisfies_peekAt]
  -- The operator that is read, and the character that it is.
  have hprefix (op : UnaryOp) (ch : Char) (hch : c.skipBlanks.peek = some ch)
      (hfirst : ch = '-' ∨ ch = '!') :
      Satisfies (do
        let pos ← position
        let _ ← advance
        descend
        let operand ← Parser.unary classes calls
        ascend
        folded pos (Expr.foldUnary op operand)) c.skipBlanks
        (fun e c' => e.isValuer = true ∧ c'.Reached src limit (p + 1) d)
        (·.PointsInto classes limit 0 src) := by
    have hfold (cause : EvalError) : ParseError.PointsInto classes limit 0 src
        ⟨c.skipBlanks.pos, .constantFold cause⟩ :=
      hc.skipBlanks.on.fail ⟨ch, hch, by tauto⟩
    rw [satisfies_bind, satisfies_position, satisfies_bind]
    apply reached_advance hc.skipBlanks
    intro _ c₁ _ hc₁
    rw [satisfies_bind]
    apply reached_descend hc₁
    intro c₂ hc₂
    rw [satisfies_bind]
    apply (ih.unary c₂).rule hc₂
    intro operand c₃ _ hc₃
    rw [satisfies_bind, satisfies_ascend]
    apply reached_folded _ hfold
    intro e he
    exact ⟨Expr.isValuer_of_foldUnary he, hc₃.ascendBy.mono (by omega)⟩
  rw [satisfies_ite]
  split
  . next h => exact hprefix .neg '-' (by simpa using h) (.inl rfl)
  . rw [satisfies_ite]
    split
    . next h =>
      simp only [Bool.and_eq_true, beq_iff_eq] at h
      exact hprefix .not '!' h.1 (.inr rfl)
    . exact ih.postfixed c p d hc.skipBlanks

theorem advances_postfixed : Advances classes src limit (postfixed classes (calls + 1))
    (·.isValuer = true) c.skipBlanks := by
  intro p d hc
  rw [postfixed, satisfies_bind]
  apply (ih.primary c).rule hc
  intro base c₁ hbase hc₁
  rw [satisfies_bind]
  apply (ih.steps c₁ _ d hc₁).mono
  . intro steps c₂ hc₂
    split
    . exact ⟨hbase, hc₂⟩
    . exact ⟨rfl, hc₂⟩
  . exact fun _ he => he

theorem advances_primary : Advances classes src limit (primary classes (calls + 1))
    (·.isValuer = true) c.skipBlanks := by
  intro p d hc
  rw [primary, satisfies_bind, satisfies_position, satisfies_bind, satisfies_classifyNext,
    skipBlanks_skipBlanks]
  have hvaluer (e : Expr H) (c' : Cursor) (he : e.isValuer = true)
      (hc' : c'.Reached src limit (p + 1) d) :
      Satisfies (if e.isValuer = true then pure e else failAt c.skipBlanks.pos .notAValue) c'
        (fun e c' => e.isValuer = true ∧ c'.Reached src limit (p + 1) d)
        (·.PointsInto classes limit 0 src) := by
    rw [if_pos he]
    exact ⟨he, hc'⟩
  dsimp only
  split
  . next h =>
    obtain ⟨ch, hpeek, rfl⟩ := describes_of_peek h
    rw [satisfies_bind]
    exact (ih.group _ hpeek).rule hc hvaluer
  . next h =>
    obtain ⟨ch, hpeek, rfl⟩ := describes_of_peek h
    rw [satisfies_bind]
    exact (ih.array _ hpeek).rule hc hvaluer
  . next h =>
    obtain ⟨ch, hpeek, rfl⟩ := describes_of_peek h
    rw [satisfies_bind]
    exact (ih.map _ hpeek).rule hc hvaluer
  . next h =>
    -- Only a static access may be a bare class, and then the marker of the class is at fault.
    obtain ⟨ch, hpeek, rfl⟩ := describes_of_peek h
    rw [satisfies_bind]
    apply (ih.staticAccess _).rule hc
    intro e c' _ hc'
    rw [satisfies_ite]
    split
    . next he => exact ⟨he, hc'⟩
    . exact hc.on.fail hpeek
  . next h =>
    obtain ⟨ch, hpeek, hch⟩ := describes_of_peek h
    rw [satisfies_bind]
    apply reached_stringLiteral hc hpeek hch
    exact fun text c' hc' => hvaluer _ c' rfl hc'
  . next h =>
    obtain ⟨ch, hpeek, hch⟩ := describes_of_peek h
    rw [satisfies_bind]
    apply reached_number hc hpeek hch
    exact fun v c' hc' => hvaluer _ c' rfl hc'
  . next h =>
    obtain ⟨ch, hpeek, hch⟩ := describes_of_peek h
    rw [satisfies_bind]
    exact reached_variableOrKeyword hc hpeek hch hvaluer
  . rw [satisfies_bind, satisfies_unexpected]
    exact hc.on.fail_unexpected

theorem advances_group (hpeek : c.peek = some '(') :
    Advances classes src limit (group classes (calls + 1)) (·.isValuer = true) c := by
  intro p d hc
  have hopen : ParseError.PointsInto classes limit 0 src ⟨c.pos, .unterminated .group⟩ :=
    hc.on.fail ⟨'(', hpeek, rfl⟩
  rw [group, satisfies_bind, satisfies_position, satisfies_bind]
  apply reached_advance hc
  intro _ c₁ _ hc₁
  rw [satisfies_bind]
  apply reached_descend hc₁
  intro c₂ hc₂
  rw [satisfies_bind]
  apply (ih.expression c₂).rule hc₂
  intro inner c₃ hinner hc₃
  rw [satisfies_bind]
  apply reached_closing hc₃ hopen
  intro c₄ hc₄
  rw [satisfies_bind, satisfies_ascend]
  exact ⟨Expr.isValuer_foldGroup hinner, hc₄.ascendBy.mono (by omega)⟩

theorem advances_array (hpeek : c.peek = some '[') :
    Advances classes src limit (array classes (calls + 1)) (·.isValuer = true) c := by
  intro p d hc
  rw [array, satisfies_bind, satisfies_position, satisfies_bind]
  apply reached_advance hc
  intro _ c₁ _ hc₁
  rw [satisfies_bind]
  apply reached_descend hc₁
  intro c₂ hc₂
  rw [satisfies_bind]
  apply (ih.sequence _ _ .array c₂ (hc.on.fail ⟨'[', hpeek, rfl⟩)).rule hc₂
  intro items c₃ _ hc₃
  rw [satisfies_bind, satisfies_ascend]
  exact ⟨rfl, hc₃.ascendBy.mono (by omega)⟩

theorem advances_arguments (hpeek : c.peek = some '(') :
    Advances classes src limit (arguments classes (calls + 1)) (fun _ => True) c := by
  intro p d hc
  rw [arguments, satisfies_bind, satisfies_position, satisfies_bind]
  apply reached_advance hc
  intro _ c₁ _ hc₁
  rw [satisfies_bind]
  apply reached_descend hc₁
  intro c₂ hc₂
  rw [satisfies_bind]
  apply (ih.sequence _ _ .arguments c₂ (hc.on.fail ⟨'(', hpeek, rfl⟩)).rule hc₂
  intro items c₃ _ hc₃
  rw [satisfies_bind, satisfies_ascend]
  exact ⟨trivial, hc₃.ascendBy.mono (by omega)⟩

variable {start : Nat} {close : Char} {construct : Construct}

theorem advances_sequence
    (hopen : ParseError.PointsInto classes limit 0 src ⟨start, .unterminated construct⟩) :
    Advances classes src limit (sequence classes (calls + 1) close start construct)
      (fun _ => True) c := by
  intro p d hc
  rw [sequence, satisfies_bind, satisfies_nextSignificant, satisfies_ite]
  split
  . rw [satisfies_bind]
    apply reached_advance hc.skipBlanks
    exact fun _ c₁ _ hc₁ => ⟨trivial, hc₁⟩
  . exact ih.items close start construct _ hopen p d hc.skipBlanks

theorem advances_items
    (hopen : ParseError.PointsInto classes limit 0 src ⟨start, .unterminated construct⟩) :
    Advances classes src limit (items classes (calls + 1) close start construct)
      (fun _ => True) c := by
  intro p d hc
  rw [items, satisfies_bind]
  apply (ih.expression c).rule hc
  intro item c₁ _ hc₁
  rw [satisfies_bind, satisfies_nextSignificant]
  split
  . exact hopen
  . next ch h =>
    rw [satisfies_ite]
    split
    . rw [satisfies_bind]
      apply reached_advance hc₁.skipBlanks
      intro _ c₂ _ hc₂
      rw [satisfies_bind]
      apply (ih.items close start construct c₂ hopen).rule hc₂
      exact fun _ c₃ _ hc₃ => ⟨trivial, hc₃.mono (by omega)⟩
    . rw [satisfies_ite]
      split
      . rw [satisfies_bind]
        apply reached_advance hc₁.skipBlanks
        exact fun _ c₂ _ hc₂ => ⟨trivial, hc₂.mono (by omega)⟩
      . exact hc₁.skipBlanks.on.fail h

theorem advances_map (hpeek : c.peek = some '\x7b') :
    Advances classes src limit (map classes (calls + 1)) (·.isValuer = true) c := by
  intro p d hc
  have hopen : ParseError.PointsInto classes limit 0 src ⟨c.pos, .unterminated .map⟩ :=
    hc.on.fail ⟨'\x7b', hpeek, rfl⟩
  rw [map, satisfies_bind, satisfies_position, satisfies_bind]
  apply reached_advance hc
  intro _ c₁ _ hc₁
  rw [satisfies_bind]
  apply reached_descend hc₁
  intro c₂ hc₂
  rw [satisfies_bind, satisfies_nextSignificant]
  have hdone (entries : List (Expr H × Expr H)) (c' : Cursor)
      (hc' : c'.Reached src limit (p + 1 + 1) (d + 1)) :
      Satisfies (do ascend; return Expr.map entries : Parser (Expr H)) c'
        (fun e c' => e.isValuer = true ∧ c'.Reached src limit (p + 1) d)
        (·.PointsInto classes limit 0 src) := by
    rw [satisfies_bind, satisfies_ascend]
    exact ⟨rfl, hc'.ascendBy.mono (by omega)⟩
  dsimp only
  split
  . rw [satisfies_bind]
    apply reached_advance hc₂.skipBlanks
    intro _ c₃ _ hc₃
    rw [satisfies_bind, satisfies_pure]
    exact hdone [] c₃ hc₃
  . rw [satisfies_bind]
    apply reached_advance hc₂.skipBlanks
    intro _ c₃ _ hc₃
    rw [satisfies_bind]
    apply reached_closing hc₃ hopen
    intro c₄ hc₄
    rw [satisfies_bind, satisfies_pure]
    exact hdone [] c₄ (hc₄.mono (by omega))
  . rw [satisfies_bind]
    apply (ih.entries _ _ hopen).rule hc₂.skipBlanks
    exact fun entries c₃ _ hc₃ => hdone entries c₃ hc₃

theorem advances_entries
    (hopen : ParseError.PointsInto classes limit 0 src ⟨start, .unterminated .map⟩) :
    Advances classes src limit (entries classes (calls + 1) start) (fun _ => True) c := by
  intro p d hc
  rw [entries, satisfies_bind]
  apply (ih.mapKey c).rule hc
  intro key c₁ _ hc₁
  rw [satisfies_bind, satisfies_nextSignificant]
  dsimp only
  split
  . rw [satisfies_bind, satisfies_discard]
    apply reached_advance hc₁.skipBlanks
    intro _ c₂ _ hc₂
    rw [satisfies_bind, satisfies_nextSignificant]
    split
    . next ch h =>
      rw [satisfies_ite]
      split
      . next hend =>
        rw [satisfies_bind, satisfies_fail]
        apply hc₂.skipBlanks.on.fail
        simp only [Bool.or_eq_true, beq_iff_eq] at hend
        cases hend with
        | inl hend => exact .inl (hend ▸ h)
        | inr hend => exact .inr (hend ▸ h)
      . rw [satisfies_bind]
        apply (ih.expression _).rule hc₂.skipBlanks
        intro value c₃ _ hc₃
        rw [satisfies_bind, satisfies_nextSignificant]
        split
        . exact hopen
        . next ch h =>
          rw [satisfies_ite]
          split
          . rw [satisfies_bind]
            apply reached_advance hc₃.skipBlanks
            intro _ c₄ _ hc₄
            rw [satisfies_bind]
            apply (ih.entries start c₄ hopen).rule hc₄
            exact fun _ c₅ _ hc₅ => ⟨trivial, hc₅.mono (by omega)⟩
          . rw [satisfies_ite]
            split
            . rw [satisfies_bind]
              apply reached_advance hc₃.skipBlanks
              exact fun _ c₄ _ hc₄ => ⟨trivial, hc₄.mono (by omega)⟩
            . exact hc₃.skipBlanks.on.fail h
    . exact hopen
  . next ch hcolon h =>
    rw [satisfies_bind, satisfies_fail]
    exact hc₁.skipBlanks.on.fail ⟨ch, h, hcolon⟩
  . exact hopen

theorem advances_mapKey :
    Advances classes src limit (mapKey classes (calls + 1)) (·.isValuer = true) c := by
  intro p d hc
  rw [mapKey, satisfies_bind, satisfies_classifyNext]
  split
  . next h =>
    obtain ⟨ch, hpeek, hch⟩ := describes_of_peek h
    rw [satisfies_bind]
    apply reached_identifier hc.skipBlanks hpeek hch
    exact fun _ c₁ _ _ hc₁ => ⟨rfl, hc₁⟩
  . exact ih.postfixed c p d hc.skipBlanks

theorem advances_staticAccess :
    Advances classes src limit (staticAccess classes (calls + 1)) (fun _ => True) c := by
  intro p d hc
  rw [staticAccess, satisfies_bind]
  apply reached_advance hc
  intro _ c₁ _ hc₁
  rw [satisfies_bind, satisfies_nextSignificant, satisfies_bind, satisfies_position, satisfies_bind]
  apply reached_name hc₁.skipBlanks
  intro className c₂ hne hspelled hc₂
  rw [skipBlanks_skipBlanks] at hspelled
  split
  . next hnone => exact hc₁.skipBlanks.on.fail ⟨hne, hspelled, hnone⟩
  . next cls _ =>
    rw [satisfies_bind, satisfies_nextSignificant, satisfies_ite]
    split
    . exact ⟨trivial, hc₂.skipBlanks.mono (by omega)⟩
    . rw [satisfies_bind]
      apply reached_advance hc₂.skipBlanks
      intro _ c₃ _ hc₃
      rw [satisfies_bind]
      apply reached_name hc₃
      intro member c₄ _ _ hc₄
      rw [satisfies_bind, satisfies_nextSignificant, satisfies_ite]
      split
      . next hparen =>
        rw [satisfies_bind]
        apply (ih.arguments _ (by simpa using hparen)).rule hc₄.skipBlanks
        exact fun _ c₅ _ hc₅ => ⟨trivial, hc₅.mono (by omega)⟩
      . exact ⟨trivial, hc₄.skipBlanks.mono (by omega)⟩

theorem reached_steps (hc : c.Reached src limit p d) :
    Satisfies (steps classes (calls + 1)) c (fun _ c' => c'.Reached src limit p d)
      (·.PointsInto classes limit 0 src) := by
  have hmore (step : Step H) (c' : Cursor) (hc' : c'.Reached src limit p d) :
      Satisfies (do return step :: (← steps classes calls) : Parser (List (Step H))) c'
        (fun _ c' => c'.Reached src limit p d) (·.PointsInto classes limit 0 src) := by
    rw [satisfies_bind]
    exact ih.steps c' p d hc'
  rw [steps, satisfies_bind, satisfies_nextSignificant]
  split
  . rw [satisfies_bind]
    apply reached_advance hc.skipBlanks
    intro _ c₁ _ hc₁
    rw [satisfies_bind]
    apply reached_name hc₁
    intro member c₂ _ _ hc₂
    rw [satisfies_bind, satisfies_nextSignificant, satisfies_ite]
    split
    . next hparen =>
      rw [satisfies_bind]
      apply (ih.arguments _ (by simpa using hparen)).rule hc₂.skipBlanks
      exact fun args c₃ _ hc₃ => hmore _ c₃ (hc₃.mono (by omega))
    . exact hmore _ _ (hc₂.skipBlanks.mono (by omega))
  . next h =>
    have hopen : ParseError.PointsInto classes limit 0 src
        ⟨c.skipBlanks.pos, .unterminated .index⟩ := hc.skipBlanks.on.fail ⟨'[', h, rfl⟩
    rw [satisfies_bind, satisfies_position, satisfies_bind]
    apply reached_advance hc.skipBlanks
    intro _ c₁ _ hc₁
    rw [satisfies_bind]
    apply reached_descend hc₁
    intro c₂ hc₂
    rw [satisfies_bind]
    apply (ih.expression c₂).rule hc₂
    intro key c₃ _ hc₃
    rw [satisfies_bind]
    apply reached_closing hc₃ hopen
    intro c₄ hc₄
    rw [satisfies_bind, satisfies_ascend]
    exact hmore _ _ (hc₄.ascendBy.mono (by omega))
  . exact hc.skipBlanks

end

theorem tracks (classes : ClassLookup H) (src : List Char) (limit calls : Nat) :
    Tracks classes src limit calls := by
  induction calls with
  | zero =>
    -- Out of calls, a parser complains about the limit, which it may do anywhere.
    constructor
    case operators =>
      intro least left levels c p d _ hc
      rw [operators, satisfies_exhausted]
      exact hc.on.fail_tooDeep
    case steps =>
      intro c p d hc
      rw [steps, satisfies_exhausted]
      exact hc.on.fail_tooDeep
    all_goals
      intros
      simp only [expression, binary, unary, postfixed, primary, group, array, arguments, sequence,
        items, map, entries, mapKey, staticAccess]
      exact advances_exhausted
  | succ calls ih =>
    exact {
      expression := fun _ => advances_expression ih
      binary := fun least _ => advances_binary ih least
      operators := fun _ _ _ _ _ _ hleft hc => reached_operators ih hleft hc
      unary := fun _ => advances_unary ih
      postfixed := fun _ => advances_postfixed ih
      primary := fun _ => advances_primary ih
      group := fun _ hpeek => advances_group ih hpeek
      array := fun _ hpeek => advances_array ih hpeek
      arguments := fun _ hpeek => advances_arguments ih hpeek
      sequence := fun _ _ _ _ hopen => advances_sequence ih hopen
      items := fun _ _ _ _ hopen => advances_items ih hopen
      map := fun _ hpeek => advances_map ih hpeek
      entries := fun _ _ hopen => advances_entries ih hopen
      mapKey := fun _ => advances_mapKey ih
      staticAccess := fun _ => advances_staticAccess ih
      steps := fun _ _ _ hc => reached_steps ih hc
    }

end Parser

end Stencil
