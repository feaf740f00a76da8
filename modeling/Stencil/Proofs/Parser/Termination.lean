import Stencil.Proofs.Parser.Agreement
import Stencil.Proofs.Parser.Progress
import Stencil.Proofs.Parser.Room

/-!
This module contains the induction over the calls of the parser of expressions: with enough calls for
the characters that are left, each walk comes to an end, and to the one of the parser. On the way back
up it leaves the levels that it entered and no others.
-/

namespace Stencil

namespace Walk

open Cursor

variable {α H : Type}

/--
With enough calls for the characters that are left, the walk agrees with the parser, and it ends on
the level on which it started, at least `gain` characters further on. From one character to the next,
a parser only enters those of a lower rank.
-/
def Returns (calls rank gain : Nat) (w : Walk α) (p : Parser α) : Prop :=
  ∀ c, 16 * c.rest.length + rank ≤ calls → Agrees w p c fun _ c' => c.Beyond gain c.depth c'

theorem Returns.rule {calls rank gain : Nat} {w : Walk α} {p : Parser α} {c : Cursor}
    {post : α → Cursor → Prop} (h : Returns calls rank gain w p)
    (hcalls : 16 * c.rest.length + rank ≤ calls)
    (hpost : ∀ a c', c.Beyond gain c.depth c' → post a c') : Agrees w p c post :=
  (h c hcalls).mono hpost

variable [HostObject H]

structure AllReturn (classes : Parser.ClassLookup H) (calls : Nat) : Prop where
  expression : Returns calls 6 1 (expression classes calls) (Parser.expression classes calls)
  binary : ∀ least, Returns calls 5 1 (binary classes calls least)
    (Parser.binary classes calls least)
  operators : ∀ least left levels c, 16 * c.rest.length + 1 ≤ calls →
    Agrees (operators classes calls least left levels)
      (Parser.operators classes calls least left levels) c
      fun r c' => c'.rest.length ≤ c.rest.length ∧ c'.depth + levels = c.depth + r.2
  unary : Returns calls 4 1 (unary classes calls) (Parser.unary classes calls)
  postfixed : Returns calls 3 1 (postfixed classes calls) (Parser.postfixed classes calls)
  primary : Returns calls 2 1 (primary classes calls) (Parser.primary classes calls)
  group : Returns calls 1 1 (group classes calls) (Parser.group classes calls)
  array : Returns calls 1 1 (array classes calls) (Parser.array classes calls)
  arguments : Returns calls 1 1 (arguments classes calls) (Parser.arguments classes calls)
  sequence : ∀ close start construct,
    Returns calls 8 1 (sequence classes calls close start construct)
      (Parser.sequence classes calls close start construct)
  items : ∀ close start construct, Returns calls 7 1 (items classes calls close start construct)
    (Parser.items classes calls close start construct)
  map : Returns calls 1 1 (map classes calls) (Parser.map classes calls)
  entries : ∀ start, Returns calls 5 1 (entries classes calls start)
    (Parser.entries classes calls start)
  mapKey : Returns calls 4 1 (mapKey classes calls) (Parser.mapKey classes calls)
  staticAccess : Returns calls 1 1 (staticAccess classes calls) (Parser.staticAccess classes calls)
  steps : Returns calls 1 0 (steps classes calls) (Parser.steps classes calls)

section

variable {classes : Parser.ClassLookup H} {calls : Nat} (ih : AllReturn classes calls)

include ih

theorem returns_expression :
    Returns (calls + 1) 6 1 (expression classes (calls + 1))
      (Parser.expression classes (calls + 1)) := by
  intro c hcalls
  rw [expression, Parser.expression]
  apply agrees_bind
  apply (ih.binary 0).rule (by omega)
  rintro cond c₁ ⟨hrest₁, hdepth₁⟩
  apply agrees_bind
  apply agrees_nextSignificant
  rintro mark c₂ _ ⟨hrest₂, hdepth₂⟩
  apply agrees_ite
  . exact fun _ => agrees_pure ⟨by omega, by omega⟩
  . intro _
    apply agrees_bind
    apply agrees_position
    apply agrees_bind
    apply agrees_advance
    rintro _ c₃ ⟨hrest₃, hdepth₃⟩
    apply agrees_bind
    apply agrees_descend
    rintro c₄ ⟨hrest₄, hdepth₄⟩
    apply agrees_bind
    apply ih.expression.rule (by omega)
    rintro yes c₅ ⟨hrest₅, hdepth₅⟩
    apply agrees_bind
    apply agrees_expect
    rintro c₆ ⟨hrest₆, hdepth₆⟩
    apply agrees_bind
    apply ih.expression.rule (by omega)
    rintro no c₇ ⟨hrest₇, hdepth₇⟩
    apply agrees_bind
    apply agrees_ascend (by omega)
    rintro c₈ ⟨hrest₈, hdepth₈⟩
    apply agrees_folded
    exact fun _ => ⟨by omega, by omega⟩

theorem returns_binary (least : Nat) :
    Returns (calls + 1) 5 1 (binary classes (calls + 1) least)
      (Parser.binary classes (calls + 1) least) := by
  intro c hcalls
  rw [binary, Parser.binary]
  apply agrees_bind
  apply ih.unary.rule (by omega)
  rintro left c₁ ⟨hrest₁, hdepth₁⟩
  apply agrees_bind
  apply (ih.operators least left 0 c₁ (by omega)).mono
  rintro ⟨e, levels⟩ c₂ ⟨hrest₂, hdepth₂⟩
  dsimp only at hdepth₂
  apply agrees_bind
  apply agrees_ascendBy (by omega)
  rintro c₃ ⟨hrest₃, hdepth₃⟩
  exact agrees_pure ⟨by omega, by omega⟩

theorem agrees_operators (least : Nat) (left : Expr H) (levels : Nat) (c : Cursor)
    (hcalls : 16 * c.rest.length + 1 ≤ calls + 1) :
    Agrees (operators classes (calls + 1) least left levels)
      (Parser.operators classes (calls + 1) least left levels) c
      fun r c' => c'.rest.length ≤ c.rest.length ∧ c'.depth + levels = c.depth + r.2 := by
  rw [operators, Parser.operators]
  apply agrees_bind
  apply agrees_peekBinaryOp
  rintro first second c₁ ⟨hrest₁, hdepth₁⟩
  cases hop : Parser.binaryOp? first second with
  | none => exact agrees_pure ⟨by omega, by omega⟩
  | some found =>
    obtain ⟨op, width⟩ := found
    have hwidth := Parser.width_pos_of_binaryOp? hop
    apply agrees_ite
    . exact fun _ => agrees_pure ⟨by omega, by omega⟩
    . intro _
      apply agrees_bind
      apply agrees_position
      apply agrees_bind
      apply agrees_advanceBy
      rintro c₂ ⟨hrest₂, hdepth₂⟩
      apply agrees_bind
      apply (ih.binary _).rule (by omega)
      rintro right c₃ ⟨hrest₃, hdepth₃⟩
      apply agrees_bind
      apply agrees_folded
      intro e
      apply agrees_ite
      . intro _
        apply (ih.operators least e levels c₃ (by omega)).mono
        rintro r c₄ ⟨hrest₄, hdepth₄⟩
        exact ⟨by omega, by omega⟩
      . intro _
        apply agrees_bind
        apply agrees_descend
        rintro c₄ ⟨hrest₄, hdepth₄⟩
        apply (ih.operators least e (levels + 1) c₄ (by omega)).mono
        rintro r c₅ ⟨hrest₅, hdepth₅⟩
        exact ⟨by omega, by omega⟩

theorem returns_unary :
    Returns (calls + 1) 4 1 (unary classes (calls + 1)) (Parser.unary classes (calls + 1)) := by
  intro c hcalls
  rw [unary, Parser.unary]
  apply agrees_bind
  apply agrees_peekUnaryOp
  rintro found c₁ ⟨hrest₁, hdepth₁⟩
  cases found with
  | none =>
    apply ih.postfixed.rule (by omega)
    rintro e c₂ ⟨hrest₂, hdepth₂⟩
    exact ⟨by omega, by omega⟩
  | some op =>
    apply agrees_bind
    apply agrees_position
    apply agrees_bind
    apply agrees_advance
    rintro _ c₂ ⟨hrest₂, hdepth₂⟩
    apply agrees_bind
    apply agrees_descend
    rintro c₃ ⟨hrest₃, hdepth₃⟩
    apply agrees_bind
    apply ih.unary.rule (by omega)
    rintro operand c₄ ⟨hrest₄, hdepth₄⟩
    apply agrees_bind
    apply agrees_ascend (by omega)
    rintro c₅ ⟨hrest₅, hdepth₅⟩
    apply agrees_folded
    exact fun _ => ⟨by omega, by omega⟩

theorem returns_postfixed :
    Returns (calls + 1) 3 1 (postfixed classes (calls + 1))
      (Parser.postfixed classes (calls + 1)) := by
  intro c hcalls
  rw [postfixed, Parser.postfixed]
  apply agrees_bind
  apply ih.primary.rule (by omega)
  rintro base c₁ ⟨hrest₁, hdepth₁⟩
  apply agrees_bind
  apply ih.steps.rule (by omega)
  rintro steps c₂ ⟨hrest₂, hdepth₂⟩
  cases steps with
  | nil => exact agrees_pure ⟨by omega, by omega⟩
  | cons step steps => exact agrees_pure ⟨by omega, by omega⟩

theorem returns_primary :
    Returns (calls + 1) 2 1 (primary classes (calls + 1)) (Parser.primary classes (calls + 1)) := by
  intro c hcalls
  rw [primary, Parser.primary]
  apply agrees_bind
  apply agrees_position
  apply agrees_bind
  apply agrees_classifyNext
  rintro next c₁ hnext ⟨hrest₁, hdepth₁⟩
  -- What was read stands for a value, or the parser complains.
  have hvaluer (e : Expr H) (c₂ : Cursor) (hc₂ : c₁.Beyond 1 c₁.depth c₂) :
      Agrees (if e.isValuer then pure e else step (Parser.failAt c.pos .notAValue))
        (if e.isValuer then pure e else Parser.failAt c.pos .notAValue) c₂
        fun _ c' => c.Beyond 1 c.depth c' := by
    obtain ⟨hrest₂, hdepth₂⟩ := hc₂
    apply agrees_ite
    . exact fun _ => agrees_pure ⟨by omega, by omega⟩
    . exact fun _ => agrees_failAt
  cases next with
  | none => exact agrees_bind agrees_unexpected
  | some symbol =>
    cases symbol with
    | groupOpen => exact agrees_bind (ih.group.rule (by omega) hvaluer)
    | arrayOpen => exact agrees_bind (ih.array.rule (by omega) hvaluer)
    | mapOpen => exact agrees_bind (ih.map.rule (by omega) hvaluer)
    | classMarker => exact agrees_bind (ih.staticAccess.rule (by omega) hvaluer)
    | quote => exact agrees_bind (agrees_stringLiteral hvaluer)
    | digit => exact agrees_bind (agrees_number hvaluer)
    | identStart =>
      obtain ⟨ch, hpeek, hch⟩ := Parser.describes_of_peek hnext
      exact agrees_bind (agrees_variableOrKeyword hpeek hch hvaluer)
    | _ => exact agrees_bind agrees_unexpected

theorem returns_group :
    Returns (calls + 1) 1 1 (group classes (calls + 1)) (Parser.group classes (calls + 1)) := by
  intro c hcalls
  rw [group, Parser.group]
  apply agrees_bind
  apply agrees_position
  apply agrees_bind
  apply agrees_advance
  rintro _ c₁ ⟨hrest₁, hdepth₁⟩
  apply agrees_bind
  apply agrees_descend
  rintro c₂ ⟨hrest₂, hdepth₂⟩
  apply agrees_bind
  apply ih.expression.rule (by omega)
  rintro inner c₃ ⟨hrest₃, hdepth₃⟩
  apply agrees_bind
  apply agrees_closing
  rintro c₄ ⟨hrest₄, hdepth₄⟩
  apply agrees_bind
  apply agrees_ascend (by omega)
  rintro c₅ ⟨hrest₅, hdepth₅⟩
  exact agrees_pure ⟨by omega, by omega⟩

theorem agrees_enclosed {close : Char} {start : Nat} {construct : Construct} {c : Cursor}
    {result : List (Expr H) → α} (hcalls : 16 * c.rest.length ≤ calls) :
    Agrees (do
        let _ ← step Parser.advance
        step Parser.descend
        let items ← sequence classes calls close start construct
        step Parser.ascend
        return result items)
      (do
        let _ ← Parser.advance
        Parser.descend
        let items ← Parser.sequence classes calls close start construct
        Parser.ascend
        return result items) c fun _ c' => c.Beyond 1 c.depth c' := by
  apply agrees_bind
  apply agrees_advance
  rintro _ c₁ ⟨hrest₁, hdepth₁⟩
  apply agrees_bind
  apply agrees_descend
  rintro c₂ ⟨hrest₂, hdepth₂⟩
  apply agrees_bind
  apply (ih.sequence _ _ _).rule (by omega)
  rintro items c₃ ⟨hrest₃, hdepth₃⟩
  apply agrees_bind
  apply agrees_ascend (by omega)
  rintro c₄ ⟨hrest₄, hdepth₄⟩
  exact agrees_pure ⟨by omega, by omega⟩

theorem returns_array :
    Returns (calls + 1) 1 1 (array classes (calls + 1)) (Parser.array classes (calls + 1)) := by
  intro c hcalls
  rw [array, Parser.array]
  apply agrees_bind
  apply agrees_position
  exact agrees_enclosed ih (by omega)

theorem returns_arguments :
    Returns (calls + 1) 1 1 (arguments classes (calls + 1))
      (Parser.arguments classes (calls + 1)) := by
  intro c hcalls
  rw [arguments, Parser.arguments]
  apply agrees_bind
  apply agrees_position
  exact agrees_enclosed ih (by omega)

theorem returns_sequence (close : Char) (start : Nat) (construct : Construct) :
    Returns (calls + 1) 8 1 (sequence classes (calls + 1) close start construct)
      (Parser.sequence classes (calls + 1) close start construct) := by
  intro c hcalls
  rw [sequence, Parser.sequence]
  apply agrees_bind
  apply agrees_nextSignificant
  rintro next c₁ _ ⟨hrest₁, hdepth₁⟩
  apply agrees_ite
  . intro _
    apply agrees_bind
    apply agrees_advance
    rintro _ c₂ ⟨hrest₂, hdepth₂⟩
    exact agrees_pure ⟨by omega, by omega⟩
  . intro _
    apply (ih.items _ _ _).rule (by omega)
    rintro _ c₂ ⟨hrest₂, hdepth₂⟩
    exact ⟨by omega, by omega⟩

theorem returns_items (close : Char) (start : Nat) (construct : Construct) :
    Returns (calls + 1) 7 1 (items classes (calls + 1) close start construct)
      (Parser.items classes (calls + 1) close start construct) := by
  intro c hcalls
  rw [items, Parser.items]
  apply agrees_bind
  apply ih.expression.rule (by omega)
  rintro item c₁ ⟨hrest₁, hdepth₁⟩
  apply agrees_bind
  apply agrees_nextSignificant
  rintro next c₂ _ ⟨hrest₂, hdepth₂⟩
  cases next with
  | none => exact agrees_failAt
  | some ch =>
    apply agrees_ite
    . intro _
      apply agrees_bind
      apply agrees_advance
      rintro _ c₃ ⟨hrest₃, hdepth₃⟩
      apply agrees_bind
      apply (ih.items _ _ _).rule (by omega)
      rintro more c₄ ⟨hrest₄, hdepth₄⟩
      exact agrees_pure ⟨by omega, by omega⟩
    . intro _
      apply agrees_ite
      . intro _
        apply agrees_bind
        apply agrees_advance
        rintro _ c₃ ⟨hrest₃, hdepth₃⟩
        exact agrees_pure ⟨by omega, by omega⟩
      . exact fun _ => agrees_fail

theorem returns_map :
    Returns (calls + 1) 1 1 (map classes (calls + 1)) (Parser.map classes (calls + 1)) := by
  intro c hcalls
  rw [map, Parser.map]
  apply agrees_bind
  apply agrees_position
  apply agrees_bind
  apply agrees_advance
  rintro _ c₁ ⟨hrest₁, hdepth₁⟩
  apply agrees_bind
  apply agrees_descend
  rintro c₂ ⟨hrest₂, hdepth₂⟩
  apply agrees_bind
  apply agrees_nextSignificant
  rintro next c₃ _ ⟨hrest₃, hdepth₃⟩
  -- The way back up.
  have hlast (entries : List (Expr H × Expr H)) (c₄ : Cursor)
      (hrest₄ : c₄.rest.length ≤ c₃.rest.length) (hdepth₄ : c₄.depth = c₃.depth) :
      Agrees (do step Parser.ascend; return Expr.map entries)
        (do Parser.ascend; return Expr.map entries) c₄ fun _ c' => c.Beyond 1 c.depth c' := by
    apply agrees_bind
    apply agrees_ascend (by omega)
    rintro c₅ ⟨hrest₅, hdepth₅⟩
    exact agrees_pure ⟨by omega, by omega⟩
  by_cases hclose : next = some '\x7d'
  . subst hclose
    apply agrees_bind
    apply agrees_advance
    rintro _ c₄ ⟨hrest₄, hdepth₄⟩
    exact agrees_bind (agrees_pure (hlast [] c₄ (by omega) (by omega)))
  by_cases hcolon : next = some ':'
  . subst hcolon
    apply agrees_bind
    apply agrees_advance
    rintro _ c₄ ⟨hrest₄, hdepth₄⟩
    apply agrees_bind
    apply agrees_closing
    rintro c₅ ⟨hrest₅, hdepth₅⟩
    exact agrees_bind (agrees_pure (hlast [] c₅ (by omega) (by omega)))
  . simp only
    apply agrees_bind
    apply (ih.entries _).rule (by omega)
    rintro entries c₄ ⟨hrest₄, hdepth₄⟩
    exact hlast entries c₄ (by omega) (by omega)

theorem returns_entries (start : Nat) :
    Returns (calls + 1) 5 1 (entries classes (calls + 1) start)
      (Parser.entries classes (calls + 1) start) := by
  intro c hcalls
  rw [entries, Parser.entries]
  apply agrees_bind
  apply ih.mapKey.rule (by omega)
  rintro key c₁ ⟨hrest₁, hdepth₁⟩
  apply agrees_bind
  apply agrees_nextSignificant
  rintro next c₂ _ ⟨hrest₂, hdepth₂⟩
  cases next with
  | none => exact agrees_bind agrees_failAt
  | some ch =>
    by_cases hcolon : ch ≠ ':'
    . simp only
      exact agrees_bind agrees_fail
    cases Decidable.not_not.mp hcolon
    apply agrees_bind
    apply agrees_discard
    apply agrees_advance
    rintro _ c₃ ⟨hrest₃, hdepth₃⟩
    apply agrees_bind
    apply agrees_nextSignificant
    rintro next c₄ _ ⟨hrest₄, hdepth₄⟩
    cases next with
    | none => exact agrees_bind agrees_failAt
    | some ch =>
      apply agrees_ite
      . exact fun _ => agrees_bind agrees_fail
      . intro _
        apply agrees_bind
        apply ih.expression.rule (by omega)
        rintro value c₅ ⟨hrest₅, hdepth₅⟩
        apply agrees_bind
        apply agrees_nextSignificant
        rintro next c₆ _ ⟨hrest₆, hdepth₆⟩
        cases next with
        | none => exact agrees_failAt
        | some ch =>
          apply agrees_ite
          . intro _
            apply agrees_bind
            apply agrees_advance
            rintro _ c₇ ⟨hrest₇, hdepth₇⟩
            apply agrees_bind
            apply (ih.entries _).rule (by omega)
            rintro more c₈ ⟨hrest₈, hdepth₈⟩
            exact agrees_pure ⟨by omega, by omega⟩
          . intro _
            apply agrees_ite
            . intro _
              apply agrees_bind
              apply agrees_advance
              rintro _ c₇ ⟨hrest₇, hdepth₇⟩
              exact agrees_pure ⟨by omega, by omega⟩
            . exact fun _ => agrees_fail

theorem returns_mapKey :
    Returns (calls + 1) 4 1 (mapKey classes (calls + 1)) (Parser.mapKey classes (calls + 1)) := by
  intro c hcalls
  rw [mapKey, Parser.mapKey]
  apply agrees_bind
  apply agrees_classifyNext
  rintro next c₁ hnext ⟨hrest₁, hdepth₁⟩
  by_cases hident : next = some .identStart
  . subst hident
    obtain ⟨ch, hpeek, hch⟩ := Parser.describes_of_peek hnext
    have hpos := length_identifier_pos hpeek hch
    apply agrees_bind
    apply agrees_identifier
    rintro name c₂ ⟨hrest₂, hdepth₂⟩
    exact agrees_pure ⟨by omega, by omega⟩
  . simp only
    apply ih.postfixed.rule (by omega)
    rintro e c₂ ⟨hrest₂, hdepth₂⟩
    exact ⟨by omega, by omega⟩

theorem returns_staticAccess :
    Returns (calls + 1) 1 1 (staticAccess classes (calls + 1))
      (Parser.staticAccess classes (calls + 1)) := by
  intro c hcalls
  rw [staticAccess, Parser.staticAccess]
  apply agrees_bind
  apply agrees_advance
  rintro _ c₁ ⟨hrest₁, hdepth₁⟩
  apply agrees_bind
  apply agrees_nextSignificant
  rintro _ c₂ _ ⟨hrest₂, hdepth₂⟩
  apply agrees_bind
  apply agrees_position
  apply agrees_bind
  apply agrees_name
  rintro className c₃ ⟨hrest₃, hdepth₃⟩
  cases classes className with
  | none => exact agrees_failAt
  | some cls =>
    apply agrees_bind
    apply agrees_nextSignificant
    rintro next c₄ _ ⟨hrest₄, hdepth₄⟩
    apply agrees_ite
    . exact fun _ => agrees_pure ⟨by omega, by omega⟩
    . intro _
      apply agrees_bind
      apply agrees_advance
      rintro _ c₅ ⟨hrest₅, hdepth₅⟩
      apply agrees_bind
      apply agrees_name
      rintro member c₆ ⟨hrest₆, hdepth₆⟩
      apply agrees_bind
      apply agrees_nextSignificant
      rintro next c₇ _ ⟨hrest₇, hdepth₇⟩
      apply agrees_ite
      . intro _
        apply agrees_bind
        apply ih.arguments.rule (by omega)
        rintro args c₈ ⟨hrest₈, hdepth₈⟩
        exact agrees_pure ⟨by omega, by omega⟩
      . exact fun _ => agrees_pure ⟨by omega, by omega⟩

theorem returns_steps :
    Returns (calls + 1) 1 0 (steps classes (calls + 1)) (Parser.steps classes (calls + 1)) := by
  intro c hcalls
  rw [steps, Parser.steps]
  -- A step was read, and more of them may follow.
  have hmore (s : Step H) (c' : Cursor) (hrest' : c'.rest.length < c.rest.length)
      (hdepth' : c'.depth = c.depth) :
      Agrees (do return s :: (← steps classes calls))
        (do return s :: (← Parser.steps classes calls)) c' fun _ c'' => c.Beyond 0 c.depth c'' := by
    apply agrees_bind
    apply ih.steps.rule (by omega)
    rintro more c'' ⟨hrest'', hdepth''⟩
    exact agrees_pure ⟨by omega, by omega⟩
  apply agrees_bind
  apply agrees_nextSignificant
  rintro next c₁ _ ⟨hrest₁, hdepth₁⟩
  by_cases hpoint : next = some '.'
  . subst hpoint
    apply agrees_bind
    apply agrees_advance
    rintro _ c₂ ⟨hrest₂, hdepth₂⟩
    apply agrees_bind
    apply agrees_name
    rintro member c₃ ⟨hrest₃, hdepth₃⟩
    apply agrees_bind
    apply agrees_nextSignificant
    rintro next c₄ _ ⟨hrest₄, hdepth₄⟩
    apply agrees_ite
    . intro _
      apply agrees_bind
      apply ih.arguments.rule (by omega)
      rintro args c₅ ⟨hrest₅, hdepth₅⟩
      exact hmore _ c₅ (by omega) (by omega)
    . exact fun _ => hmore _ c₄ (by omega) (by omega)
  by_cases hbracket : next = some '['
  . subst hbracket
    apply agrees_bind
    apply agrees_position
    apply agrees_bind
    apply agrees_advance
    rintro _ c₂ ⟨hrest₂, hdepth₂⟩
    apply agrees_bind
    apply agrees_descend
    rintro c₃ ⟨hrest₃, hdepth₃⟩
    apply agrees_bind
    apply ih.expression.rule (by omega)
    rintro key c₄ ⟨hrest₄, hdepth₄⟩
    apply agrees_bind
    apply agrees_closing
    rintro c₅ ⟨hrest₅, hdepth₅⟩
    apply agrees_bind
    apply agrees_ascend (by omega)
    rintro c₆ ⟨hrest₆, hdepth₆⟩
    exact hmore _ c₆ (by omega) (by omega)
  . simp only
    exact agrees_pure ⟨by omega, by omega⟩

end

theorem allReturn (classes : Parser.ClassLookup H) (calls : Nat) : AllReturn classes calls := by
  induction calls with
  | zero =>
    -- Every rank takes a call.
    constructor
    case operators =>
      intro least left levels c hcalls
      omega
    all_goals
      intros
      intro c hcalls
      omega
  | succ calls ih =>
    exact {
      expression := returns_expression ih
      binary := returns_binary ih
      operators := agrees_operators ih
      unary := returns_unary ih
      postfixed := returns_postfixed ih
      primary := returns_primary ih
      group := returns_group ih
      array := returns_array ih
      arguments := returns_arguments ih
      sequence := returns_sequence ih
      items := returns_items ih
      map := returns_map ih
      entries := returns_entries ih
      mapKey := returns_mapKey ih
      staticAccess := returns_staticAccess ih
      steps := returns_steps ih
    }

end Walk

end Stencil
