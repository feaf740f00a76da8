import Mathlib.Logic.Relation
import Stencil.Proofs.Parser.Layout
import Stencil.Proofs.Parser.Position
import Stencil.Proofs.Parser.Walk

/-!
This module contains the logic that walks are compared to parsers with. From a cursor, a walk agrees
with a parser if it comes to an end, with the result or the error of the parser, and if each of its
steps is a single move of the cursor. There is one rule for each walk that others are built from.
-/

namespace Stencil

namespace Cursor

/--
What one step may do to a cursor: nothing, read one character, enter a level below the limit, or leave
a level that was entered.
-/
inductive Moves (c : Cursor) : Cursor → Prop where
  | stay : Moves c c
  | read {ch : Char} {rest : List Char} (h : c.rest = ch :: rest) : Moves c (c.after [ch] rest)
  | enter (h : c.depth < c.maxDepth) : Moves c { c with depth := c.depth + 1 }
  | leave (h : 0 < c.depth) : Moves c { c with depth := c.depth - 1 }

structure Beyond (c : Cursor) (gain depth : Nat) (c' : Cursor) : Prop where
  rest_le : c'.rest.length + gain ≤ c.rest.length
  depth_eq : c'.depth = depth

variable {c c' : Cursor} {gain depth : Nat}

theorem Beyond.refl (c : Cursor) : c.Beyond 0 c.depth c :=
  ⟨Nat.le_refl _, rfl⟩

theorem Beyond.mono {gain' : Nat} (h : c.Beyond gain depth c') (hle : gain' ≤ gain) :
    c.Beyond gain' depth c' :=
  ⟨Nat.le_trans (Nat.add_le_add_left hle _) h.rest_le, h.depth_eq⟩

theorem Beyond.trans {c'' : Cursor} {gain' depth' : Nat} (h : c.Beyond gain depth c')
    (h' : c'.Beyond gain' depth' c'') : c.Beyond (gain + gain') depth' c'' := by
  have hrest := h.rest_le
  have hrest' := h'.rest_le
  exact ⟨by omega, h'.depth_eq⟩

end Cursor

namespace Trail

def Next (t t' : Trail) : Prop :=
  ∃ c, t.cursor.Moves c ∧ t' = t.move c

def Leads : Trail → Trail → Prop :=
  Relation.ReflTransGen Next

end Trail

namespace Walk

open Cursor

variable {α β H : Type}

/--
From the cursor, the walk comes to an end by single moves, as the parser does, and the result and the
cursor at a good end have the property `post`.
-/
def Agrees (w : Walk α) (p : Parser α) (c : Cursor) (post : α → Cursor → Prop) : Prop :=
  ∀ past, ∃ result t, w ⟨past, c⟩ = some (result, t)
    ∧ p c = result.map (·, t.cursor)
    ∧ Trail.Leads ⟨past, c⟩ t
    ∧ ∀ a, result = .ok a → post a t.cursor

variable {c : Cursor} {post : α → Cursor → Prop}

theorem Agrees.mono {w : Walk α} {p : Parser α} {post' : α → Cursor → Prop} (h : Agrees w p c post)
    (hpost : ∀ a c', post a c' → post' a c') : Agrees w p c post' := by
  intro past
  obtain ⟨result, t, hw, hp, hleads, hresult⟩ := h past
  exact ⟨result, t, hw, hp, hleads, fun a ha => hpost a _ (hresult a ha)⟩

theorem Agrees.congr {w : Walk α} {p p' : Parser α} (h : Agrees w p c post) (hp : p' c = p c) :
    Agrees w p' c post := by
  unfold Agrees
  rw [hp]
  exact h

theorem agrees_pure {a : α} (h : post a c) : Agrees (pure a) (pure a) c post := by
  intro past
  refine ⟨.ok a, ⟨past, c⟩, rfl, rfl, .refl, ?_⟩
  rintro _ ⟨⟩
  exact h

theorem agrees_bind {w : Walk β} {p : Parser β} {f : β → Walk α} {g : β → Parser α}
    (h : Agrees w p c fun b c' => Agrees (f b) (g b) c' post) :
    Agrees (w >>= f) (p >>= g) c post := by
  intro past
  obtain ⟨result, t, hw, hp, hleads, hresult⟩ := h past
  cases result with
  | error e =>
    refine ⟨.error e, t, ?_, ?_, hleads, by rintro _ ⟨⟩⟩
    . simp only [bind, ExceptT.bind, ExceptT.mk, StateT.bind, hw, Option.bind_some,
        ExceptT.bindCont]
      rfl
    . simp only [bind, StateT.bind, Except.bind, hp, Except.map]
  | ok b =>
    obtain ⟨result', t', hw', hp', hleads', hresult'⟩ := hresult b rfl t.past
    refine ⟨result', t', ?_, ?_, hleads.trans hleads', hresult'⟩
    . simp only [bind, ExceptT.bind, ExceptT.mk, StateT.bind, hw, Option.bind_some,
        ExceptT.bindCont]
      exact hw'
    . simp only [bind, StateT.bind, Except.bind, hp, Except.map]
      exact hp'

theorem agrees_ite {P : Prop} [Decidable P] {w w' : Walk α} {p p' : Parser α}
    (h : P → Agrees w p c post) (h' : ¬P → Agrees w' p' c post) :
    Agrees (if P then w else w') (if P then p else p') c post := by
  by_cases hP : P
  . rw [if_pos hP, if_pos hP]
    exact h hP
  . rw [if_neg hP, if_neg hP]
    exact h' hP

theorem agrees_step {p : Parser α} (h : ∀ a c', p c = .ok (a, c') → c.Moves c' ∧ post a c') :
    Agrees (step p) p c post := by
  intro past
  cases hp : p c with
  | error e =>
    refine ⟨.error e, ⟨past, c⟩, ?_, rfl, .refl, by rintro _ ⟨⟩⟩
    simp [step, hp]
  | ok result =>
    obtain ⟨a, c'⟩ := result
    obtain ⟨hmoves, hpost⟩ := h a c' hp
    refine ⟨.ok a, Trail.move ⟨past, c⟩ c', ?_, rfl, .single ⟨c', hmoves, rfl⟩, ?_⟩
    . simp [step, hp]
    . rintro _ ⟨⟩
      exact hpost

theorem agrees_show {p : Parser α} (a : α) (hp : p c = .ok (a, c)) (hpost : post a c) :
    Agrees (step p) p c post := by
  apply agrees_step
  intro a' c' h
  cases hp.symm.trans h
  exact ⟨.stay, hpost⟩

theorem agrees_error {p : Parser α} (e : ParseError) (hp : p c = .error e) :
    Agrees (step p) p c post := by
  apply agrees_step
  intro a c' h
  cases hp.symm.trans h

theorem agrees_discard {w : Walk β} {p : Parser β} {post : Unit → Cursor → Prop}
    (h : Agrees w p c fun _ c' => post () c') : Agrees (discard w) (discard p) c post := by
  have hwalk : discard w = w >>= fun _ => pure () := rfl
  have hparser : discard p = p >>= fun _ => pure () := rfl
  rw [hwalk, hparser]
  exact agrees_bind (h.mono fun _ _ hpost => agrees_pure hpost)

theorem agrees_position {post : Nat → Cursor → Prop} (h : post c.pos c) :
    Agrees (step Parser.position) Parser.position c post :=
  agrees_show c.pos rfl h

theorem agrees_peek {post : Option Char → Cursor → Prop}
    (h : ∀ next, c.peek = next → post next c) : Agrees (step Parser.peek) Parser.peek c post :=
  agrees_show c.peek rfl (h _ rfl)

theorem agrees_peekAt {ahead : Nat} {post : Option Char → Cursor → Prop}
    (h : ∀ next, c.peekAt ahead = next → post next c) :
    Agrees (step (Parser.peekAt ahead)) (Parser.peekAt ahead) c post :=
  agrees_show (c.peekAt ahead) rfl (h _ rfl)

theorem agrees_get {post : Cursor → Cursor → Prop} (h : post c c) :
    Agrees (step get) get c post :=
  agrees_show c rfl h

theorem agrees_fail {problem : ParseProblem} :
    Agrees (step (Parser.fail problem)) (Parser.fail problem) c post :=
  agrees_error (c.fail problem) rfl

theorem agrees_failAt {pos : Nat} {problem : ParseProblem} :
    Agrees (step (Parser.failAt pos problem)) (Parser.failAt pos problem) c post :=
  agrees_error ⟨pos, problem⟩ rfl

theorem agrees_unexpected : Agrees (step Parser.unexpected) Parser.unexpected c post :=
  agrees_error c.unexpected rfl

theorem agrees_folded {pos : Nat} {e : Eval (Expr H)} {post : Expr H → Cursor → Prop}
    (h : ∀ t, post t c) : Agrees (step (Parser.folded pos e)) (Parser.folded pos e) c post := by
  cases e with
  | error cause => exact agrees_failAt
  | ok t => exact agrees_show t rfl (h t)

theorem agrees_integerLiteral {start radix : Nat} {digits literal : List Char}
    {post : Expr H → Cursor → Prop} (h : digits ≠ [] → ∀ t, post t c) :
    Agrees (step (Parser.integerLiteral start radix digits literal))
      (Parser.integerLiteral start radix digits literal) c post := by
  unfold Parser.integerLiteral
  cases digits with
  | nil => exact agrees_failAt
  | cons d digits =>
    split
    . exact agrees_show _ rfl (h (List.cons_ne_nil _ _) _)
    . exact agrees_failAt

theorem agrees_read {ch : Char} {rest : List Char} {post : Char → Cursor → Prop}
    (hrest : c.rest = ch :: rest) (h : post ch (c.after [ch] rest)) :
    Agrees (step Parser.advance) Parser.advance c post := by
  apply agrees_step
  intro ch' c' hadvance
  simp only [Parser.advance, hrest] at hadvance
  cases hadvance
  exact ⟨.read hrest, h⟩

theorem beyond_after {ch : Char} {rest : List Char} (hrest : c.rest = ch :: rest) :
    c.Beyond 1 c.depth (c.after [ch] rest) :=
  ⟨by simp [Cursor.after, hrest], rfl⟩

theorem agrees_advance {post : Char → Cursor → Prop}
    (h : ∀ ch c', c.Beyond 1 c.depth c' → post ch c') :
    Agrees (step Parser.advance) Parser.advance c post := by
  cases hrest : c.rest with
  | nil => exact agrees_error (c.fail .unexpectedEnd) (by simp [Parser.advance, hrest])
  | cons ch rest => exact agrees_read hrest (h ch _ (beyond_after hrest))

theorem agrees_descend {post : Unit → Cursor → Prop}
    (h : ∀ c', c.Beyond 0 (c.depth + 1) c' → post () c') :
    Agrees (step Parser.descend) Parser.descend c post := by
  apply agrees_step
  intro _ c' hdescend
  unfold Parser.descend at hdescend
  split at hdescend
  . cases hdescend
  . next hdepth =>
    cases hdescend
    exact ⟨.enter (Nat.lt_of_not_le hdepth), h _ ⟨Nat.le_refl _, rfl⟩⟩

theorem agrees_ascend {post : Unit → Cursor → Prop} (hdepth : 0 < c.depth)
    (h : ∀ c', c.Beyond 0 (c.depth - 1) c' → post () c') :
    Agrees (step Parser.ascend) Parser.ascend c post := by
  apply agrees_step
  rintro _ c' ⟨⟩
  exact ⟨.leave hdepth, h _ ⟨Nat.le_refl _, rfl⟩⟩

theorem agrees_advanceBy {n : Nat} {post : Unit → Cursor → Prop}
    (h : ∀ c', c.Beyond n c.depth c' → post () c') :
    Agrees (advanceBy n) (Parser.advanceBy n) c post := by
  induction n generalizing c with
  | zero => exact agrees_pure (h c (.refl c))
  | succ n ih =>
    apply agrees_bind
    apply agrees_advance
    intro _ c₁ hc₁
    apply ih
    intro c₂ hc₂
    apply h
    rw [← hc₁.depth_eq]
    exact (hc₁.trans hc₂).mono (by omega)

theorem agrees_ascendBy {n : Nat} {post : Unit → Cursor → Prop} (hdepth : n ≤ c.depth)
    (h : ∀ c', c.Beyond 0 (c.depth - n) c' → post () c') :
    Agrees (ascendBy n) (Parser.ascendBy n) c post := by
  induction n generalizing c with
  | zero => exact agrees_pure (h c (.refl c))
  | succ n ih =>
    have hparser : Parser.ascendBy (n + 1) = Parser.ascend >>= fun _ => Parser.ascendBy n := by
      funext c
      simp [Parser.ascendBy, Parser.ascend, bind, StateT.bind, Except.bind, Nat.sub_sub,
        Nat.add_comm]
    rw [hparser]
    apply agrees_bind
    apply agrees_ascend (by omega)
    intro c₁ hc₁
    have hdepth₁ := hc₁.depth_eq
    apply ih (by omega)
    intro c₂ hc₂
    apply h
    have hlevel : c.depth - (n + 1) = c₁.depth - n := by omega
    rw [hlevel]
    exact hc₁.trans hc₂

theorem advanceBy_length {text rest : List Char} (hrest : c.rest = text ++ rest) :
    Parser.advanceBy text.length c = .ok ((), c.after text rest) := by
  have h : Parser.Satisfies (Parser.advanceBy text.length) c (fun _ c' => c' = c.after text rest)
      fun _ => False := Parser.satisfies_advanceBy hrest rfl
  unfold Parser.Satisfies at h
  split at h
  . next heq => rw [heq, h]
  . cases h

theorem agrees_text {text rest : List Char} {w : Walk α} {p : Parser α} (p' : Parser α)
    (hrest : c.rest = text ++ rest) (hp : p c = p' (c.after text rest))
    (h : ∀ c', c.Beyond text.length c.depth c' → Agrees w p' c' post) :
    Agrees (advanceBy text.length >>= fun _ => w) p c post := by
  have hwalk : Agrees (advanceBy text.length >>= fun _ => w)
      (Parser.advanceBy text.length >>= fun _ => p') c post := by
    apply agrees_bind
    exact agrees_advanceBy h
  apply hwalk.congr
  simp only [bind, StateT.bind, Except.bind, advanceBy_length hrest]
  exact hp

theorem agrees_takeWhile {q : Char → Bool} {post : List Char → Cursor → Prop}
    (h : ∀ c', c.Beyond (c.rest.takeWhile q).length c.depth c' → post (c.rest.takeWhile q) c') :
    Agrees (takeWhile q) (Parser.takeWhile q) c post := by
  have hparser : Parser.takeWhile q = get >>= fun c₁ => fun c₂ =>
      .ok (c₁.rest.takeWhile q, c₂.after (c₁.rest.takeWhile q) (c₁.rest.dropWhile q)) := rfl
  rw [takeWhile, hparser]
  apply agrees_bind
  apply agrees_get
  apply agrees_text (pure (c.rest.takeWhile q)) List.takeWhile_append_dropWhile.symm rfl
  exact fun c' hc' => agrees_pure (h c' hc')

theorem agrees_nextSignificant {post : Option Char → Cursor → Prop}
    (h : ∀ next c', c'.peek = next → c.Beyond 0 c.depth c' → post next c') :
    Agrees nextSignificant Parser.nextSignificant c post := by
  have hparser : Parser.nextSignificant
      = Parser.takeWhile Unicode.isBlank >>= fun _ => Parser.peek := rfl
  rw [hparser, nextSignificant]
  apply agrees_bind
  apply agrees_takeWhile
  intro c' hc'
  exact agrees_peek fun next hnext => h next c' hnext (hc'.mono (Nat.zero_le _))

theorem agrees_classifyNext {post : Option Symbol → Cursor → Prop}
    (h : ∀ next c', c'.peek.map Symbol.ofChar = next → c.Beyond 0 c.depth c' → post next c') :
    Agrees classifyNext Parser.classifyNext c post := by
  rw [classifyNext, Parser.classifyNext]
  apply agrees_bind
  apply agrees_nextSignificant
  exact fun next c' hnext hc' => agrees_pure (h _ c' (hnext ▸ rfl) hc')

theorem agrees_readIf {found expected : Char} {post : Unit → Cursor → Prop}
    (h : ∀ c', c.Beyond 1 c.depth c' → post () c') :
    Agrees
      (if found == expected then discard (step Parser.advance)
        else step (Parser.fail (.unexpectedChar found)))
      (if found == expected then discard Parser.advance else Parser.fail (.unexpectedChar found))
      c post := by
  apply agrees_ite
  . intro _
    apply agrees_discard
    apply agrees_advance
    exact fun _ => h
  . exact fun _ => agrees_fail

theorem agrees_expect {expected : Char} {post : Unit → Cursor → Prop}
    (h : ∀ c', c.Beyond 1 c.depth c' → post () c') :
    Agrees (expect expected) (Parser.expect expected) c post := by
  rw [expect, Parser.expect]
  apply agrees_bind
  apply agrees_nextSignificant
  intro next c₁ _ hc₁
  cases next with
  | none => exact agrees_fail
  | some found =>
    apply agrees_readIf
    intro c₂ hc₂
    exact h c₂ (hc₁.depth_eq ▸ hc₁.trans hc₂)

theorem agrees_closing {close : Char} {start : Nat} {construct : Construct}
    {post : Unit → Cursor → Prop} (h : ∀ c', c.Beyond 1 c.depth c' → post () c') :
    Agrees (closing close start construct) (Parser.closing close start construct) c post := by
  rw [closing, Parser.closing]
  apply agrees_bind
  apply agrees_nextSignificant
  intro next c₁ _ hc₁
  cases next with
  | none => exact agrees_failAt
  | some found =>
    apply agrees_readIf
    intro c₂ hc₂
    exact h c₂ (hc₁.depth_eq ▸ hc₁.trans hc₂)

theorem agrees_identifier {post : String → Cursor → Prop}
    (h : ∀ name c', c.Beyond (c.rest.takeWhile Symbol.isIdentContinue).length c.depth c' →
      post name c') :
    Agrees identifier Parser.identifier c post := by
  rw [identifier, Parser.identifier]
  apply agrees_bind
  apply agrees_takeWhile
  exact fun c' hc' => agrees_pure (h _ c' hc')

theorem length_identifier_pos {ch : Char} (hpeek : c.peek = some ch)
    (hch : Symbol.isIdentStart ch = true) :
    0 < (c.rest.takeWhile Symbol.isIdentContinue).length := by
  obtain ⟨rest, hrest⟩ : ∃ rest, c.rest = ch :: rest := List.head?_eq_some_iff.mp hpeek
  rw [hrest, List.takeWhile_cons_of_pos (Symbol.isIdentContinue_of_isIdentStart hch)]
  exact Nat.succ_pos _

theorem agrees_name {post : String → Cursor → Prop}
    (h : ∀ name c', c.Beyond 0 c.depth c' → post name c') :
    Agrees name Parser.name c post := by
  rw [name, Parser.name]
  apply agrees_bind
  apply agrees_nextSignificant
  intro next c₁ _ hc₁
  cases next with
  | none => exact agrees_unexpected
  | some ch =>
    apply agrees_ite
    . intro _
      apply agrees_identifier
      intro name c₂ hc₂
      exact h name c₂ (hc₁.depth_eq ▸ hc₁.trans (hc₂.mono (Nat.zero_le _)))
    . exact fun _ => agrees_unexpected

theorem agrees_variableOrKeyword {ch : Char} {post : Expr H → Cursor → Prop}
    (hpeek : c.peek = some ch) (hch : Symbol.isIdentStart ch = true)
    (h : ∀ e c', c.Beyond 1 c.depth c' → post e c') :
    Agrees variableOrKeyword Parser.variableOrKeyword c post := by
  rw [variableOrKeyword, Parser.variableOrKeyword]
  apply agrees_bind
  apply agrees_identifier
  intro name c' hc'
  have hc' := hc'.mono (length_identifier_pos hpeek hch)
  cases Parser.keyword? name with
  | none => exact agrees_pure (h _ c' hc')
  | some v => exact agrees_pure (h _ c' hc')

theorem agrees_stringLiteral {post : Expr H → Cursor → Prop}
    (h : ∀ e c', c.Beyond 1 c.depth c' → post e c') :
    Agrees stringLiteral Parser.stringLiteral c post := by
  rw [stringLiteral, Parser.stringLiteral]
  apply agrees_bind
  apply agrees_position
  apply agrees_bind
  apply agrees_advance
  intro quote c₁ hc₁
  apply agrees_bind
  apply agrees_get
  cases hfound : Parser.untilQuote quote c₁.rest with
  | none =>
    apply agrees_text (Parser.failAt c.pos (.unterminated .string))
      (List.append_nil c₁.rest).symm rfl
    exact fun _ _ => agrees_failAt
  | some found =>
    obtain ⟨text, source⟩ := found
    have hsource : c₁.rest = source ++ c₁.rest.drop source.length :=
      (List.prefix_iff_eq_append.mp (Parser.isPrefix_of_untilQuote hfound)).symm
    apply agrees_text (pure (Expr.const (.str (String.ofList text)))) hsource rfl
    intro c₂ hc₂
    exact agrees_pure (h _ c₂ (hc₁.depth_eq ▸ (hc₁.trans hc₂).mono (Nat.le_add_right _ _)))

theorem agrees_fraction {post : List Char → Cursor → Prop}
    (h : ∀ text c', c.Beyond text.length c.depth c' → post text c') :
    Agrees fraction Parser.fraction c post := by
  have hnone : Agrees (pure []) (pure []) c post := agrees_pure (h [] c (.refl c))
  rw [fraction, Parser.fraction]
  apply agrees_bind
  apply agrees_peek
  intro point _
  apply agrees_bind
  apply agrees_peekAt
  intro digit _
  by_cases hpoint : point = some '.'
  . subst hpoint
    cases digit with
    | none => exact hnone
    | some d =>
      apply agrees_ite
      . intro _
        apply agrees_bind
        apply agrees_advance
        intro point c₁ hc₁
        apply agrees_bind
        apply agrees_takeWhile
        intro c₂ hc₂
        have hc₂ := hc₁.trans hc₂
        rw [hc₁.depth_eq, Nat.add_comm] at hc₂
        exact agrees_pure (h _ c₂ hc₂)
      . exact fun _ => hnone
  . have hnot (d : Char) (h : point = some '.') (_ : digit = some d) : False := hpoint h
    simp only
    exact hnone

theorem agrees_exponent {post : List Char → Cursor → Prop}
    (h : ∀ text c', c.Beyond text.length c.depth c' → post text c') :
    Agrees exponent Parser.exponent c post := by
  have hnone : Agrees (pure []) (pure []) c post := agrees_pure (h [] c (.refl c))
  rw [exponent, Parser.exponent]
  apply agrees_bind
  apply agrees_peek
  intro mark _
  apply agrees_ite
  . intro _
    apply agrees_bind
    apply agrees_peekAt
    intro sign _
    apply agrees_bind
    apply agrees_peekAt
    intro digit _
    cases digit with
    | none => exact hnone
    | some d =>
      apply agrees_ite
      . intro _
        apply agrees_bind
        apply agrees_get
        apply agrees_bind
        apply agrees_advanceBy
        intro c₁ hc₁
        apply agrees_bind
        apply agrees_takeWhile
        intro c₂ hc₂
        have hc₂ := hc₁.trans hc₂
        rw [hc₁.depth_eq] at hc₂
        apply agrees_pure
        apply h _ c₂ (hc₂.mono _)
        rw [List.length_append]
        exact Nat.add_le_add_right (List.length_take_le _ _) _
      . exact fun _ => hnone
  . exact fun _ => hnone

theorem agrees_number {post : Expr H → Cursor → Prop}
    (h : ∀ e c', c.Beyond 1 c.depth c' → post e c') : Agrees number Parser.number c post := by
  rw [number, Parser.number]
  apply agrees_bind
  apply agrees_position
  apply agrees_bind
  apply agrees_peek
  intro zero _
  apply agrees_bind
  apply agrees_peekAt
  intro mark _
  apply agrees_ite
  . intro _
    apply agrees_bind
    apply agrees_advanceBy
    intro c₁ hc₁
    apply agrees_bind
    apply agrees_takeWhile
    intro c₂ hc₂
    apply agrees_integerLiteral
    exact fun _ e => h e c₂ (hc₁.depth_eq ▸ (hc₁.trans hc₂).mono (by omega))
  . intro _
    apply agrees_bind
    apply agrees_takeWhile
    intro c₁ hc₁
    apply agrees_bind
    apply agrees_fraction
    intro fraction c₂ hc₂
    apply agrees_bind
    apply agrees_exponent
    intro exponent c₃ hc₃
    have hc₃ := (hc₁.trans hc₂).trans hc₃
    rw [hc₂.depth_eq, hc₁.depth_eq] at hc₃
    dsimp only
    -- A literal with nothing in it is no number.
    apply agrees_ite
    . intro _
      apply agrees_integerLiteral
      intro hwhole e
      have hpos := List.length_pos_iff.mpr hwhole
      exact h e c₃ (hc₃.mono (by omega))
    . intro hparts
      have hpos : 0 < fraction.length + exponent.length := by
        cases fraction with
        | nil => simpa [List.length_pos_iff] using hparts
        | cons point digits => exact Nat.add_pos_left (Nat.succ_pos _) _
      cases Decimal.read (c.rest.takeWhile Unicode.isAsciiDigit ++ fraction ++ exponent) with
      | ok x => exact agrees_pure (h _ c₃ (hc₃.mono (by omega)))
      | error e => exact agrees_failAt

theorem agrees_peekBinaryOp {post : Option (BinaryOp × Nat) → Cursor → Prop}
    (h : ∀ first second c', c.Beyond 0 c.depth c' → post (Parser.binaryOp? first second) c') :
    Agrees peekBinaryOp Parser.peekBinaryOp c post := by
  rw [peekBinaryOp, Parser.peekBinaryOp]
  apply agrees_bind
  apply agrees_nextSignificant
  intro first c' _ hc'
  apply agrees_bind
  apply agrees_peekAt
  exact fun second _ => agrees_pure (h first second c' hc')

theorem agrees_peekUnaryOp {post : Option UnaryOp → Cursor → Prop}
    (h : ∀ op c', c.Beyond 0 c.depth c' → post op c') :
    Agrees peekUnaryOp Parser.peekUnaryOp c post := by
  rw [peekUnaryOp, Parser.peekUnaryOp]
  apply agrees_bind
  apply agrees_nextSignificant
  intro first c' _ hc'
  apply agrees_bind
  apply agrees_peekAt
  intro second _
  apply agrees_ite
  . exact fun _ => agrees_pure (h _ c' hc')
  . intro _
    apply agrees_ite
    . exact fun _ => agrees_pure (h _ c' hc')
    . exact fun _ => agrees_pure (h _ c' hc')

end Walk

end Stencil
