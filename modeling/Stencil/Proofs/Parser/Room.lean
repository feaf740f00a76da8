import Stencil.Proofs.Parser.Position

/-!
This module contains why the nesting limit stops no source that is not longer than it, and why the
parsers are never out of calls. Every level that is open stands for a character that was read, and
from one character to the next only boundedly many parsers are entered: as long as the characters
read outnumber the levels, and the calls outnumber the characters left, a parser has room.
-/

namespace Stencil

def ParseError.Shallow (limit : Nat) (e : ParseError) : Prop :=
  ∀ depth, e.problem = .tooDeep depth → limit < e.pos

namespace Cursor

structure Room (limit left gap : Nat) (c : Cursor) : Prop where
  maxDepth_eq : c.maxDepth = limit
  rest_le : c.rest.length ≤ left
  depth_le : c.depth + gap ≤ c.pos

variable {limit left gap : Nat} {c : Cursor}

theorem room_start (src : List Char) (limit : Nat) : (start src limit).Room limit src.length 0 :=
  ⟨rfl, Nat.le_refl _, Nat.le_refl _⟩

theorem Room.mono {left' gap' : Nat} (hc : c.Room limit left gap) (hleft : left ≤ left')
    (hgap : gap' ≤ gap) : c.Room limit left' gap' := by
  have hrest := hc.rest_le
  have hdepth := hc.depth_le
  exact ⟨hc.maxDepth_eq, by omega, by omega⟩

theorem Room.after {text rest : List Char} (hc : c.Room limit left gap)
    (h : c.rest = text ++ rest) :
    (c.after text rest).Room limit (left - text.length) (gap + text.length) := by
  have hrest := hc.rest_le
  have hdepth := hc.depth_le
  rw [h, List.length_append] at hrest
  refine ⟨hc.maxDepth_eq, ?_, ?_⟩
  . simp only [Cursor.after]
    omega
  . simp only [Cursor.after]
    omega

theorem Room.skipBlanks (hc : c.Room limit left gap) : c.skipBlanks.Room limit left gap :=
  (hc.after List.takeWhile_append_dropWhile.symm).mono (by omega) (by omega)

theorem Room.ascendBy {levels : Nat} (hc : c.Room limit left gap) :
    { c with depth := c.depth - levels }.Room limit left gap := by
  have hdepth := hc.depth_le
  refine ⟨hc.maxDepth_eq, hc.rest_le, ?_⟩
  dsimp only
  omega

end Cursor

namespace Parser

open Cursor

variable {α H : Type} {limit left gap : Nat} {c : Cursor}

theorem shallow_fail {problem : ParseProblem} {pos : Nat}
    (h : ∀ depth, problem ≠ .tooDeep depth) : ParseError.Shallow limit ⟨pos, problem⟩ :=
  fun depth hdeep => absurd hdeep (h depth)

theorem shallow_unexpected : c.unexpected.Shallow limit := by
  unfold Cursor.unexpected
  split
  . exact shallow_fail (by simp)
  . exact shallow_fail (by simp)

theorem width_pos_of_binaryOp? {first second : Option Char} {op : BinaryOp} {width : Nat}
    (h : binaryOp? first second = some (op, width)) : 0 < width := by
  unfold binaryOp? at h
  split at h <;> cases h <;> decide

theorem room_advance {post : Char → Cursor → Prop} (hc : c.Room limit left gap)
    (hpost : ∀ ch c', 0 < left → c'.Room limit (left - 1) (gap + 1) → post ch c') :
    Satisfies advance c post (·.Shallow limit) := by
  rw [satisfies_advance]
  split
  . exact shallow_fail (by simp)
  . next ch rest h =>
    have htext : c.rest = [ch] ++ rest := h
    have hpos : 0 < left := by
      have hrest := hc.rest_le
      rw [h, List.length_cons] at hrest
      omega
    exact hpost ch _ hpos (hc.after htext)

theorem room_advanceBy {n : Nat} {post : Unit → Cursor → Prop} (hc : c.Room limit left gap)
    (hpost : ∀ c', n ≤ left → c'.Room limit (left - n) (gap + n) → post () c') :
    Satisfies (advanceBy n) c post (·.Shallow limit) := by
  induction n generalizing c left gap with
  | zero => exact hpost c (Nat.zero_le _) hc
  | succ n ih =>
    rw [advanceBy, satisfies_bind]
    apply room_advance hc
    intro _ c' hpos hc'
    apply ih hc'
    intro c'' hle hc''
    exact hpost c'' (by omega) (hc''.mono (by omega) (by omega))

theorem room_descend {post : Unit → Cursor → Prop} (hc : c.Room limit left (gap + 1))
    (hpost : ∀ c', c'.Room limit left gap → post () c') :
    Satisfies descend c post (·.Shallow limit) := by
  have hdepth := hc.depth_le
  have hmax := hc.maxDepth_eq
  rw [satisfies_descend]
  split
  . intro _ _
    simp only [Cursor.fail]
    omega
  . apply hpost
    refine ⟨hmax, hc.rest_le, ?_⟩
    dsimp only
    omega

theorem room_expect {expected : Char} {post : Unit → Cursor → Prop} (hc : c.Room limit left gap)
    (hpost : ∀ c', c'.Room limit (left - 1) (gap + 1) → post () c') :
    Satisfies (expect expected) c post (·.Shallow limit) := by
  rw [expect, satisfies_bind, satisfies_nextSignificant]
  split
  . rw [satisfies_ite]
    split
    . rw [satisfies_discard]
      apply room_advance hc.skipBlanks
      exact fun _ c' _ hc' => hpost c' hc'
    . exact shallow_fail (by simp)
  . exact shallow_fail (by simp)

theorem room_closing {close : Char} {start : Nat} {construct : Construct}
    {post : Unit → Cursor → Prop} (hc : c.Room limit left gap)
    (hpost : ∀ c', c'.Room limit (left - 1) (gap + 1) → post () c') :
    Satisfies (closing close start construct) c post (·.Shallow limit) := by
  rw [closing, satisfies_bind, satisfies_nextSignificant]
  split
  . rw [satisfies_ite]
    split
    . rw [satisfies_discard]
      apply room_advance hc.skipBlanks
      exact fun _ c' _ hc' => hpost c' hc'
    . exact shallow_fail (by simp)
  . exact shallow_fail (by simp)

theorem room_takeWhile {q : Char → Bool} {post : List Char → Cursor → Prop}
    (hc : c.Room limit left gap) (hpost : ∀ text c', c'.Room limit left gap → post text c') :
    Satisfies (takeWhile q) c post (·.Shallow limit) := by
  rw [satisfies_takeWhile]
  apply hpost
  exact (hc.after List.takeWhile_append_dropWhile.symm).mono (by omega) (by omega)

theorem room_identifier {post : String → Cursor → Prop} (hc : c.Room limit left gap)
    (hpost : ∀ name c', c'.Room limit left gap → post name c') :
    Satisfies identifier c post (·.Shallow limit) := by
  rw [identifier, satisfies_bind]
  apply room_takeWhile hc
  exact fun text c' hc' => hpost _ c' hc'

theorem room_name {post : String → Cursor → Prop} (hc : c.Room limit left gap)
    (hpost : ∀ name c', c'.Room limit left gap → post name c') :
    Satisfies name c post (·.Shallow limit) := by
  rw [name, satisfies_bind, satisfies_nextSignificant]
  split
  . rw [satisfies_ite]
    split
    . exact room_identifier hc.skipBlanks hpost
    . exact shallow_unexpected
  . exact shallow_unexpected

theorem room_folded {pos : Nat} {e : Eval (Expr H)} {post : Expr H → Cursor → Prop}
    (hpost : ∀ t, post t c) : Satisfies (folded pos e) c post (·.Shallow limit) := by
  rw [satisfies_folded]
  exact ⟨fun t _ => hpost t, fun _ _ => shallow_fail (by simp)⟩

theorem room_variableOrKeyword {post : Expr H → Cursor → Prop} (hc : c.Room limit left gap)
    (hpost : ∀ e c', c'.Room limit left gap → post e c') :
    Satisfies variableOrKeyword c post (·.Shallow limit) := by
  rw [variableOrKeyword, satisfies_bind]
  apply room_identifier hc
  intro name c' hc'
  split
  . exact hpost _ _ hc'
  . exact hpost _ _ hc'

theorem room_stringLiteral {post : Expr H → Cursor → Prop} (hc : c.Room limit left gap)
    (hpost : ∀ e c', c'.Room limit left gap → post e c') :
    Satisfies stringLiteral c post (·.Shallow limit) := by
  rw [stringLiteral, satisfies_bind, satisfies_position, satisfies_bind]
  apply room_advance hc
  intro quote c' _ hc'
  rw [satisfies_bind, satisfies_get]
  split
  . exact shallow_fail (by simp)
  . next text read h =>
    rw [satisfies_bind, satisfies_set, satisfies_pure]
    have hrest : c'.rest = read ++ c'.rest.drop read.length :=
      (List.prefix_iff_eq_append.mp (isPrefix_of_untilQuote h)).symm
    exact hpost _ _ ((hc'.after hrest).mono (by omega) (by omega))

theorem room_fraction {post : List Char → Cursor → Prop} (hc : c.Room limit left gap)
    (hpost : ∀ text c', c'.Room limit left gap → post text c') :
    Satisfies fraction c post (·.Shallow limit) := by
  rw [fraction, satisfies_bind, satisfies_peek, satisfies_bind, satisfies_peekAt]
  split
  . rw [satisfies_ite]
    split
    . rw [satisfies_bind]
      apply room_advance hc
      intro point c' _ hc'
      rw [satisfies_bind]
      apply room_takeWhile hc'
      exact fun text c'' hc'' => hpost _ _ (hc''.mono (by omega) (by omega))
    . exact hpost _ _ hc
  . exact hpost _ _ hc

theorem room_exponent {post : List Char → Cursor → Prop} (hc : c.Room limit left gap)
    (hpost : ∀ text c', c'.Room limit left gap → post text c') :
    Satisfies exponent c post (·.Shallow limit) := by
  rw [exponent, satisfies_bind, satisfies_peek, satisfies_ite]
  split
  . rw [satisfies_bind, satisfies_peekAt, satisfies_bind, satisfies_peekAt]
    split
    . rw [satisfies_ite]
      split
      . rw [satisfies_bind, satisfies_get, satisfies_bind]
        apply room_advanceBy hc
        intro c' _ hc'
        rw [satisfies_bind]
        apply room_takeWhile hc'
        exact fun text c'' hc'' => hpost _ _ (hc''.mono (by omega) (by omega))
      . exact hpost _ _ hc
    . exact hpost _ _ hc
  . exact hpost _ _ hc

theorem room_number {post : Expr H → Cursor → Prop} (hc : c.Room limit left gap)
    (hpost : ∀ e c', c'.Room limit left gap → post e c') :
    Satisfies number c post (·.Shallow limit) := by
  rw [number, satisfies_bind, satisfies_position, satisfies_bind, satisfies_peek, satisfies_bind,
    satisfies_peekAt, satisfies_ite]
  split
  . rw [satisfies_bind]
    apply room_advanceBy hc
    intro c' _ hc'
    rw [satisfies_bind]
    apply room_takeWhile hc'
    intro digits c'' hc''
    apply satisfies_integerLiteral
    . exact fun n => hpost _ _ (hc''.mono (by omega) (by omega))
    . exact fun _ => shallow_fail (by simp)
  . rw [satisfies_bind]
    apply room_takeWhile hc
    intro whole c₁ hc₁
    rw [satisfies_bind]
    apply room_fraction hc₁
    intro fraction c₂ hc₂
    rw [satisfies_bind]
    apply room_exponent hc₂
    intro exponent c₃ hc₃
    dsimp only
    rw [satisfies_ite]
    split
    . apply satisfies_integerLiteral
      . exact fun n => hpost _ _ hc₃
      . exact fun _ => shallow_fail (by simp)
    . split
      . exact hpost _ _ hc₃
      . exact shallow_fail (by simp)

def Manages (limit calls rank : Nat) (p : Parser α) : Prop :=
  ∀ c left gap, c.Room limit left gap → 16 * left + rank ≤ calls →
    Satisfies p c (fun _ c' => c'.Room limit left gap) (·.Shallow limit)

theorem Manages.rule {calls rank : Nat} {p : Parser α} {post : α → Cursor → Prop}
    (h : Manages limit calls rank p) (hc : c.Room limit left gap) (hcalls : 16 * left + rank ≤ calls)
    (hpost : ∀ a c', c'.Room limit left gap → post a c') :
    Satisfies p c post (·.Shallow limit) :=
  (h c left gap hc hcalls).mono hpost fun _ he => he

variable [HostObject H]

/--
The ranks of the parsers: from one character to the next, a parser only enters those of a lower rank.
-/
structure AllManage (classes : ClassLookup H) (limit calls : Nat) : Prop where
  expression : Manages limit calls 6 (expression classes calls)
  binary : ∀ least, Manages limit calls 5 (binary classes calls least)
  operators : ∀ least left levels, Manages limit calls 1 (operators classes calls least left levels)
  unary : Manages limit calls 4 (unary classes calls)
  postfixed : Manages limit calls 3 (postfixed classes calls)
  primary : Manages limit calls 2 (primary classes calls)
  group : Manages limit calls 1 (group classes calls)
  array : Manages limit calls 1 (array classes calls)
  arguments : Manages limit calls 1 (arguments classes calls)
  sequence : ∀ close start construct,
    Manages limit calls 8 (sequence classes calls close start construct)
  items : ∀ close start construct, Manages limit calls 7 (items classes calls close start construct)
  map : Manages limit calls 1 (map classes calls)
  entries : ∀ start, Manages limit calls 5 (entries classes calls start)
  mapKey : Manages limit calls 4 (mapKey classes calls)
  staticAccess : Manages limit calls 1 (staticAccess classes calls)
  steps : Manages limit calls 1 (steps classes calls)

section

variable {classes : ClassLookup H} {calls : Nat} (ih : AllManage classes limit calls)

include ih

theorem manages_expression : Manages limit (calls + 1) 6 (expression classes (calls + 1)) := by
  intro c left gap hc hcalls
  rw [expression, satisfies_bind]
  apply (ih.binary 0).rule hc (by omega)
  intro cond c₁ hc₁
  rw [satisfies_bind, satisfies_nextSignificant, satisfies_ite]
  split
  . exact hc₁.skipBlanks
  . rw [satisfies_bind, satisfies_position, satisfies_bind]
    apply room_advance hc₁.skipBlanks
    intro _ c₂ hpos hc₂
    rw [satisfies_bind]
    apply room_descend hc₂
    intro c₃ hc₃
    rw [satisfies_bind]
    apply ih.expression.rule hc₃ (by omega)
    intro yes c₄ hc₄
    rw [satisfies_bind]
    apply room_expect hc₄
    intro c₅ hc₅
    rw [satisfies_bind]
    apply ih.expression.rule hc₅ (by omega)
    intro no c₆ hc₆
    rw [satisfies_bind, satisfies_ascend]
    apply room_folded
    exact fun _ => hc₆.ascendBy.mono (by omega) (by omega)

theorem manages_binary (least : Nat) :
    Manages limit (calls + 1) 5 (binary classes (calls + 1) least) := by
  intro c left gap hc hcalls
  rw [binary, satisfies_bind]
  apply ih.unary.rule hc (by omega)
  intro e c₁ hc₁
  rw [satisfies_bind]
  apply (ih.operators _ _ _).rule hc₁ (by omega)
  intro result c₂ hc₂
  rw [satisfies_bind, satisfies_ascendBy]
  exact hc₂.ascendBy

theorem manages_operators (least : Nat) (e : Expr H) (levels : Nat) :
    Manages limit (calls + 1) 1 (operators classes (calls + 1) least e levels) := by
  intro c left gap hc hcalls
  rw [operators, peekBinaryOp, satisfies_bind, satisfies_bind, satisfies_nextSignificant,
    satisfies_bind, satisfies_peekAt, satisfies_pure]
  split
  . exact hc.skipBlanks
  . next op width h =>
    rw [satisfies_ite]
    split
    . exact hc.skipBlanks
    . have hwidth := width_pos_of_binaryOp? h
      rw [satisfies_bind, satisfies_position, satisfies_bind]
      apply room_advanceBy hc.skipBlanks
      intro c₁ hle hc₁
      have hc₁ : c₁.Room limit (left - 1) (gap + 1) := hc₁.mono (by omega) (by omega)
      rw [satisfies_bind]
      apply (ih.binary _).rule hc₁ (by omega)
      intro right c₂ hc₂
      rw [satisfies_bind]
      apply room_folded
      intro e
      rw [satisfies_ite]
      split
      . apply (ih.operators _ _ _).rule hc₂ (by omega)
        exact fun _ c₃ hc₃ => hc₃.mono (by omega) (by omega)
      . rw [satisfies_bind]
        apply room_descend hc₂
        intro c₃ hc₃
        apply (ih.operators _ _ _).rule hc₃ (by omega)
        exact fun _ c₄ hc₄ => hc₄.mono (by omega) (by omega)

theorem manages_unary : Manages limit (calls + 1) 4 (unary classes (calls + 1)) := by
  intro c left gap hc hcalls
  rw [unary, peekUnaryOp, satisfies_bind, satisfies_bind, satisfies_nextSignificant, satisfies_bind,
    satisfies_peekAt]
  have hprefix (op : UnaryOp) :
      Satisfies (do
        let pos ← position
        let _ ← advance
        descend
        let operand ← Parser.unary classes calls
        ascend
        folded pos (Expr.foldUnary op operand)) c.skipBlanks
        (fun _ c' => c'.Room limit left gap) (·.Shallow limit) := by
    rw [satisfies_bind, satisfies_position, satisfies_bind]
    apply room_advance hc.skipBlanks
    intro _ c₁ hpos hc₁
    rw [satisfies_bind]
    apply room_descend hc₁
    intro c₂ hc₂
    rw [satisfies_bind]
    apply ih.unary.rule hc₂ (by omega)
    intro operand c₃ hc₃
    rw [satisfies_bind, satisfies_ascend]
    apply room_folded
    exact fun _ => hc₃.ascendBy.mono (by omega) (by omega)
  rw [satisfies_ite]
  split
  . exact hprefix .neg
  . rw [satisfies_ite]
    split
    . exact hprefix .not
    . exact ih.postfixed _ _ _ hc.skipBlanks (by omega)

theorem manages_postfixed : Manages limit (calls + 1) 3 (postfixed classes (calls + 1)) := by
  intro c left gap hc hcalls
  rw [postfixed, satisfies_bind]
  apply ih.primary.rule hc (by omega)
  intro base c₁ hc₁
  rw [satisfies_bind]
  apply ih.steps.rule hc₁ (by omega)
  intro steps c₂ hc₂
  split
  . exact hc₂
  . exact hc₂

theorem manages_primary : Manages limit (calls + 1) 2 (primary classes (calls + 1)) := by
  intro c left gap hc hcalls
  rw [primary, satisfies_bind, satisfies_position, satisfies_bind, satisfies_classifyNext]
  have hvaluer (e : Expr H) (c' : Cursor) (hc' : c'.Room limit left gap) :
      Satisfies (if e.isValuer = true then pure e else failAt c.pos .notAValue) c'
        (fun _ c' => c'.Room limit left gap) (·.Shallow limit) := by
    rw [satisfies_ite]
    split
    . exact hc'
    . exact shallow_fail (by simp)
  have hc := hc.skipBlanks
  dsimp only
  split
  . rw [satisfies_bind]
    exact ih.group.rule hc (by omega) hvaluer
  . rw [satisfies_bind]
    exact ih.array.rule hc (by omega) hvaluer
  . rw [satisfies_bind]
    exact ih.map.rule hc (by omega) hvaluer
  . rw [satisfies_bind]
    exact ih.staticAccess.rule hc (by omega) hvaluer
  . rw [satisfies_bind]
    exact room_stringLiteral hc hvaluer
  . rw [satisfies_bind]
    exact room_number hc hvaluer
  . rw [satisfies_bind]
    exact room_variableOrKeyword hc hvaluer
  . rw [satisfies_bind, satisfies_unexpected]
    exact shallow_unexpected

theorem manages_group : Manages limit (calls + 1) 1 (group classes (calls + 1)) := by
  intro c left gap hc hcalls
  rw [group, satisfies_bind, satisfies_position, satisfies_bind]
  apply room_advance hc
  intro _ c₁ hpos hc₁
  rw [satisfies_bind]
  apply room_descend hc₁
  intro c₂ hc₂
  rw [satisfies_bind]
  apply ih.expression.rule hc₂ (by omega)
  intro inner c₃ hc₃
  rw [satisfies_bind]
  apply room_closing hc₃
  intro c₄ hc₄
  rw [satisfies_bind, satisfies_ascend]
  exact hc₄.ascendBy.mono (by omega) (by omega)

theorem room_enclosed {close : Char} {start : Nat} {construct : Construct}
    {rest : List (Expr H) → Parser α} {post : α → Cursor → Prop} (hc : c.Room limit left gap)
    (hcalls : 16 * left ≤ calls)
    (hpost : ∀ items c', c'.Room limit left gap →
      Satisfies (rest items) c' post (·.Shallow limit)) :
    Satisfies (do
      let _ ← advance
      descend
      let items ← sequence classes calls close start construct
      ascend
      rest items) c post (·.Shallow limit) := by
  rw [satisfies_bind]
  apply room_advance hc
  intro _ c₁ hpos hc₁
  rw [satisfies_bind]
  apply room_descend hc₁
  intro c₂ hc₂
  rw [satisfies_bind]
  apply (ih.sequence _ _ _).rule hc₂ (by omega)
  intro items c₃ hc₃
  rw [satisfies_bind, satisfies_ascend]
  exact hpost items _ (hc₃.ascendBy.mono (by omega) (by omega))

theorem manages_array : Manages limit (calls + 1) 1 (array classes (calls + 1)) := by
  intro c left gap hc hcalls
  rw [array, satisfies_bind, satisfies_position]
  exact room_enclosed ih hc (by omega) fun _ _ hc' => hc'

theorem manages_arguments : Manages limit (calls + 1) 1 (arguments classes (calls + 1)) := by
  intro c left gap hc hcalls
  rw [arguments, satisfies_bind, satisfies_position]
  exact room_enclosed ih hc (by omega) fun _ _ hc' => hc'

theorem manages_sequence (close : Char) (start : Nat) (construct : Construct) :
    Manages limit (calls + 1) 8 (sequence classes (calls + 1) close start construct) := by
  intro c left gap hc hcalls
  rw [sequence, satisfies_bind, satisfies_nextSignificant, satisfies_ite]
  split
  . rw [satisfies_bind]
    apply room_advance hc.skipBlanks
    exact fun _ c₁ _ hc₁ => hc₁.mono (by omega) (by omega)
  . exact ih.items _ _ _ _ _ _ hc.skipBlanks (by omega)

theorem manages_items (close : Char) (start : Nat) (construct : Construct) :
    Manages limit (calls + 1) 7 (items classes (calls + 1) close start construct) := by
  intro c left gap hc hcalls
  rw [items, satisfies_bind]
  apply ih.expression.rule hc (by omega)
  intro item c₁ hc₁
  rw [satisfies_bind, satisfies_nextSignificant]
  split
  . exact shallow_fail (by simp)
  . rw [satisfies_ite]
    split
    . rw [satisfies_bind]
      apply room_advance hc₁.skipBlanks
      intro _ c₂ hpos hc₂
      rw [satisfies_bind]
      apply (ih.items _ _ _).rule hc₂ (by omega)
      exact fun _ c₃ hc₃ => hc₃.mono (by omega) (by omega)
    . rw [satisfies_ite]
      split
      . rw [satisfies_bind]
        apply room_advance hc₁.skipBlanks
        exact fun _ c₂ _ hc₂ => hc₂.mono (by omega) (by omega)
      . exact shallow_fail (by simp)

theorem manages_map : Manages limit (calls + 1) 1 (map classes (calls + 1)) := by
  intro c left gap hc hcalls
  rw [map, satisfies_bind, satisfies_position, satisfies_bind]
  apply room_advance hc
  intro _ c₁ hpos hc₁
  rw [satisfies_bind]
  apply room_descend hc₁
  intro c₂ hc₂
  have hlast (entries : List (Expr H × Expr H)) (c' : Cursor)
      (hc' : c'.Room limit (left - 1) gap) :
      Satisfies (do ascend; return .map entries : Parser (Expr H)) c'
        (fun _ c' => c'.Room limit left gap) (·.Shallow limit) := by
    rw [satisfies_bind, satisfies_ascend]
    exact hc'.ascendBy.mono (by omega) (by omega)
  rw [satisfies_bind, satisfies_nextSignificant]
  dsimp only
  split
  . rw [satisfies_bind]
    apply room_advance hc₂.skipBlanks
    exact fun _ c₃ _ hc₃ => hlast _ _ (hc₃.mono (by omega) (by omega))
  . rw [satisfies_bind]
    apply room_advance hc₂.skipBlanks
    intro _ c₃ _ hc₃
    rw [satisfies_bind]
    apply room_closing hc₃
    exact fun c₄ hc₄ => hlast _ _ (hc₄.mono (by omega) (by omega))
  . rw [satisfies_bind]
    exact (ih.entries _).rule hc₂.skipBlanks (by omega) hlast

theorem manages_entries (start : Nat) :
    Manages limit (calls + 1) 5 (entries classes (calls + 1) start) := by
  intro c left gap hc hcalls
  rw [entries, satisfies_bind]
  apply ih.mapKey.rule hc (by omega)
  intro key c₁ hc₁
  rw [satisfies_bind, satisfies_nextSignificant]
  split
  . rw [satisfies_bind, satisfies_discard]
    apply room_advance hc₁.skipBlanks
    intro _ c₂ hpos hc₂
    rw [satisfies_bind, satisfies_nextSignificant]
    split
    . rw [satisfies_ite]
      split
      . exact shallow_fail (by simp)
      . rw [satisfies_bind]
        apply ih.expression.rule hc₂.skipBlanks (by omega)
        intro value c₃ hc₃
        rw [satisfies_bind, satisfies_nextSignificant]
        split
        . exact shallow_fail (by simp)
        . rw [satisfies_ite]
          split
          . rw [satisfies_bind]
            apply room_advance hc₃.skipBlanks
            intro _ c₄ _ hc₄
            rw [satisfies_bind]
            apply (ih.entries _).rule hc₄ (by omega)
            exact fun _ c₅ hc₅ => hc₅.mono (by omega) (by omega)
          . rw [satisfies_ite]
            split
            . rw [satisfies_bind]
              apply room_advance hc₃.skipBlanks
              exact fun _ c₄ _ hc₄ => hc₄.mono (by omega) (by omega)
            . exact shallow_fail (by simp)
    . exact shallow_fail (by simp)
  . exact shallow_fail (by simp)
  . exact shallow_fail (by simp)

theorem manages_mapKey : Manages limit (calls + 1) 4 (mapKey classes (calls + 1)) := by
  intro c left gap hc hcalls
  rw [mapKey, satisfies_bind, satisfies_classifyNext]
  split
  . rw [satisfies_bind]
    apply room_identifier hc.skipBlanks
    exact fun _ _ hc' => hc'
  . exact ih.postfixed _ _ _ hc.skipBlanks (by omega)

theorem manages_staticAccess :
    Manages limit (calls + 1) 1 (staticAccess classes (calls + 1)) := by
  intro c left gap hc hcalls
  rw [staticAccess, satisfies_bind]
  apply room_advance hc
  intro _ c₁ hpos hc₁
  rw [satisfies_bind, satisfies_nextSignificant, satisfies_bind, satisfies_position, satisfies_bind]
  apply room_name hc₁.skipBlanks
  intro className c₂ hc₂
  have hdone : c₂.skipBlanks.Room limit left gap := hc₂.skipBlanks.mono (by omega) (by omega)
  split
  . exact shallow_fail (by simp)
  . rw [satisfies_bind, satisfies_nextSignificant, satisfies_ite]
    split
    . exact hdone
    . rw [satisfies_bind]
      apply room_advance hc₂.skipBlanks
      intro _ c₃ _ hc₃
      rw [satisfies_bind]
      apply room_name hc₃
      intro member c₄ hc₄
      have hc₄ := hc₄.skipBlanks
      rw [satisfies_bind, satisfies_nextSignificant, satisfies_ite]
      split
      . rw [satisfies_bind]
        apply ih.arguments.rule hc₄ (by omega)
        exact fun _ c₅ hc₅ => hc₅.mono (by omega) (by omega)
      . exact hc₄.mono (by omega) (by omega)

theorem manages_steps : Manages limit (calls + 1) 1 (steps classes (calls + 1)) := by
  intro c left gap hc hcalls
  have hmore (step : Step H) (c' : Cursor) (hpos : 0 < left)
      (hc' : c'.Room limit (left - 1) gap) :
      Satisfies (do return step :: (← steps classes calls) : Parser (List (Step H))) c'
        (fun _ c' => c'.Room limit left gap) (·.Shallow limit) := by
    rw [satisfies_bind]
    apply ih.steps.rule hc' (by omega)
    exact fun _ c'' hc'' => hc''.mono (by omega) (by omega)
  rw [steps, satisfies_bind, satisfies_nextSignificant]
  split
  . rw [satisfies_bind]
    apply room_advance hc.skipBlanks
    intro _ c₁ hpos hc₁
    rw [satisfies_bind]
    apply room_name hc₁
    intro member c₂ hc₂
    have hc₂ : c₂.skipBlanks.Room limit (left - 1) gap := hc₂.skipBlanks.mono (by omega) (by omega)
    rw [satisfies_bind, satisfies_nextSignificant, satisfies_ite]
    split
    . rw [satisfies_bind]
      apply ih.arguments.rule hc₂ (by omega)
      exact fun args c₃ hc₃ => hmore _ c₃ hpos hc₃
    . exact hmore _ _ hpos hc₂
  . rw [satisfies_bind, satisfies_position, satisfies_bind]
    apply room_advance hc.skipBlanks
    intro _ c₁ hpos hc₁
    rw [satisfies_bind]
    apply room_descend hc₁
    intro c₂ hc₂
    rw [satisfies_bind]
    apply ih.expression.rule hc₂ (by omega)
    intro key c₃ hc₃
    rw [satisfies_bind]
    apply room_closing hc₃
    intro c₄ hc₄
    rw [satisfies_bind, satisfies_ascend]
    exact hmore _ _ hpos (hc₄.ascendBy.mono (by omega) (by omega))
  . exact hc.skipBlanks

end

theorem allManage (classes : ClassLookup H) (limit calls : Nat) : AllManage classes limit calls := by
  induction calls with
  | zero =>
    -- Every rank takes a call.
    constructor
    all_goals
      intros
      intro c left gap _ hcalls
      omega
  | succ calls ih =>
    exact {
      expression := manages_expression ih
      binary := manages_binary ih
      operators := manages_operators ih
      unary := manages_unary ih
      postfixed := manages_postfixed ih
      primary := manages_primary ih
      group := manages_group ih
      array := manages_array ih
      arguments := manages_arguments ih
      sequence := manages_sequence ih
      items := manages_items ih
      map := manages_map ih
      entries := manages_entries ih
      mapKey := manages_mapKey ih
      staticAccess := manages_staticAccess ih
      steps := manages_steps ih
    }

end Parser

end Stencil
