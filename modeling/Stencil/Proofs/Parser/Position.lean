import Mathlib.Data.List.DropRight
import Stencil.Proofs.Symbol
import Stencil.Proofs.Parser.Satisfies

/-!
This module contains what the errors of a parser say about a source: each kind of problem is about
something that stands at its place. Parsers never lose their place: the cursor stands on the source
that it started on, each construct moves it forward, and it leaves a construct on the level on which
it entered it.
-/

namespace Stencil

variable {H : Type}

def Construct.Opens : Construct → Char → Prop
  | group, c | arguments, c => c = '('
  | array, c | index, c => c = '['
  | map, c => c = '\x7b'
  | string, c => c = '\'' ∨ c = '"'

/--
A problem is about the place in `source` from which on `ahead` is left.
-/
def ParseProblem.Concerns (classes : Parser.ClassLookup H) (limit : Nat) (source ahead : List Char) :
    ParseProblem → Prop
  | unexpectedChar c => ahead.head? = some c
  | unexpectedEnd => ahead = []
  | emptyExpression => ahead = [] ∧ ∀ c ∈ source, Unicode.isBlank c
  | unterminated construct => ∃ c, ahead.head? = some c ∧ construct.Opens c
  | malformedEntry .noValue => ahead.head? = some ',' ∨ ahead.head? = some '\x7d'
  | malformedEntry .noColon => ∃ c, ahead.head? = some c ∧ c ≠ ':'
  | invalidNumber _ => ∃ c, ahead.head? = some c ∧ Unicode.isAsciiDigit c
  | unknownClass name => name ≠ "" ∧ name.toList <+: ahead ∧ classes name = none
  | notAValue => ahead.head? = some '@'
  | constantFold _ =>
    ∃ c, ahead.head? = some c
      ∧ (c = '?' ∨ c = '-' ∨ c = '!' ∨ ∃ op : BinaryOp, op.symbol.toList.head? = some c)
  | tooDeep depth => depth = limit
  | unterminatedDelimiter _ => False

/--
An error is about a place in `source`, in front of which `offset` other characters stand.
-/
def ParseError.PointsInto (classes : Parser.ClassLookup H) (limit offset : Nat)
    (source : List Char) (e : ParseError) : Prop :=
  ∃ pos ≤ source.length, e.pos = offset + pos
    ∧ e.problem.Concerns classes limit source (source.drop pos)

namespace Cursor

structure On (src : List Char) (limit : Nat) (c : Cursor) : Prop where
  rest_eq : c.rest = src.drop c.pos
  pos_le : c.pos ≤ src.length
  maxDepth_eq : c.maxDepth = limit

structure Reached (src : List Char) (limit pos depth : Nat) (c : Cursor) : Prop where
  on : c.On src limit
  pos_le : pos ≤ c.pos
  depth_eq : c.depth = depth

theorem reached_start (src : List Char) (limit : Nat) :
    (start src limit).Reached src limit 0 0 :=
  ⟨⟨rfl, Nat.zero_le _, rfl⟩, Nat.le_refl _, rfl⟩

variable {src : List Char} {limit p d : Nat} {c : Cursor}

theorem On.after {text rest : List Char} (hc : c.On src limit) (h : c.rest = text ++ rest) :
    (c.after text rest).On src limit := by
  have hlength : c.rest.length = text.length + rest.length := by
    rw [h, List.length_append]
  rw [hc.rest_eq, List.length_drop] at hlength
  have hpos := hc.pos_le
  constructor
  . rw [hc.rest_eq] at h
    simp only [Cursor.after]
    rw [← List.drop_drop, h, List.drop_left]
  . simp only [Cursor.after]
    omega
  . exact hc.maxDepth_eq

theorem Reached.mono {p' : Nat} (hc : c.Reached src limit p d) (h : p' ≤ p) :
    c.Reached src limit p' d :=
  ⟨hc.on, Nat.le_trans h hc.pos_le, hc.depth_eq⟩

theorem Reached.after {text rest : List Char} (hc : c.Reached src limit p d)
    (h : c.rest = text ++ rest) : (c.after text rest).Reached src limit (p + text.length) d :=
  ⟨hc.on.after h, Nat.add_le_add_right hc.pos_le _, hc.depth_eq⟩

theorem Reached.skipBlanks (hc : c.Reached src limit p d) :
    c.skipBlanks.Reached src limit p d :=
  (hc.after (List.takeWhile_append_dropWhile).symm).mono (Nat.le_add_right _ _)

theorem Reached.ascendBy {levels : Nat} (hc : c.Reached src limit p (d + levels)) :
    { c with depth := c.depth - levels }.Reached src limit p d := by
  refine ⟨⟨hc.on.rest_eq, hc.on.pos_le, hc.on.maxDepth_eq⟩, hc.pos_le, ?_⟩
  simp only [hc.depth_eq]
  omega

@[simp]
theorem skipBlanks_skipBlanks (c : Cursor) : c.skipBlanks.skipBlanks = c.skipBlanks := by
  have hdrop : (c.rest.dropWhile Unicode.isBlank).dropWhile Unicode.isBlank
      = c.rest.dropWhile Unicode.isBlank := by
    apply List.dropWhile_idempotent
  have htake : (c.rest.dropWhile Unicode.isBlank).takeWhile Unicode.isBlank = [] := by
    have := List.takeWhile_append_dropWhile (p := Unicode.isBlank)
      (l := c.rest.dropWhile Unicode.isBlank)
    rw [hdrop] at this
    exact List.append_left_eq_self.mp this
  simp [Cursor.skipBlanks, Cursor.after, htake, hdrop]

variable {classes : Parser.ClassLookup H}

theorem On.fail {problem : ParseProblem} (hc : c.On src limit)
    (h : problem.Concerns classes limit src c.rest) :
    ParseError.PointsInto classes limit 0 src ⟨c.pos, problem⟩ :=
  ⟨c.pos, hc.pos_le, (Nat.zero_add _).symm, hc.rest_eq ▸ h⟩

theorem On.fail_unexpectedEnd (hc : c.On src limit) (h : c.peek = none) :
    ParseError.PointsInto classes limit 0 src ⟨c.pos, .unexpectedEnd⟩ :=
  hc.fail (List.head?_eq_none_iff.mp h)

theorem On.fail_tooDeep (hc : c.On src limit) :
    (c.fail (.tooDeep c.maxDepth)).PointsInto classes limit 0 src :=
  hc.fail hc.maxDepth_eq

theorem On.fail_unexpected (hc : c.On src limit) :
    c.unexpected.PointsInto classes limit 0 src := by
  unfold unexpected
  split
  . next h => exact hc.fail h
  . next h => exact hc.fail_unexpectedEnd h

end Cursor

namespace Parser

open Cursor

-- From a cursor that has reached some place, each parser comes to a place further on.

variable {src : List Char} {limit p d : Nat} {c : Cursor} {classes : ClassLookup H}

theorem reached_advance {post : Char → Cursor → Prop} (hc : c.Reached src limit p d)
    (hpost : ∀ ch c', c.peek = some ch → c'.Reached src limit (p + 1) d → post ch c') :
    Satisfies advance c post (·.PointsInto classes limit 0 src) := by
  rw [satisfies_advance]
  split
  . next h => exact hc.on.fail h
  . next ch rest h =>
    have htext : c.rest = [ch] ++ rest := h
    exact hpost ch _ (by simp [Cursor.peek, h]) (hc.after htext)

theorem reached_advanceBy {n : Nat} {post : Unit → Cursor → Prop} (hc : c.Reached src limit p d)
    (hpost : ∀ c', c'.Reached src limit (p + n) d → post () c') :
    Satisfies (advanceBy n) c post (·.PointsInto classes limit 0 src) := by
  induction n generalizing c p with
  | zero => exact hpost c hc
  | succ n ih =>
    rw [advanceBy, satisfies_bind]
    apply reached_advance hc
    intro _ c' _ hc'
    apply ih hc'
    intro c'' hc''
    exact hpost c'' (hc''.mono (by omega))

theorem reached_descend {post : Unit → Cursor → Prop} (hc : c.Reached src limit p d)
    (hpost : ∀ c', c'.Reached src limit p (d + 1) → post () c') :
    Satisfies descend c post (·.PointsInto classes limit 0 src) := by
  rw [satisfies_descend]
  split
  . exact hc.on.fail_tooDeep
  . apply hpost
    exact ⟨⟨hc.on.rest_eq, hc.on.pos_le, hc.on.maxDepth_eq⟩, hc.pos_le, by simp [hc.depth_eq]⟩

theorem reached_expect {expected : Char} {post : Unit → Cursor → Prop}
    (hc : c.Reached src limit p d) (hpost : ∀ c', c'.Reached src limit (p + 1) d → post () c') :
    Satisfies (expect expected) c post (·.PointsInto classes limit 0 src) := by
  rw [expect, satisfies_bind, satisfies_nextSignificant]
  split
  . next found h =>
    rw [satisfies_ite]
    split
    . rw [satisfies_discard]
      apply reached_advance hc.skipBlanks
      intro ch c' _ hc'
      exact hpost c' hc'
    . exact hc.skipBlanks.on.fail h
  . next h => exact hc.skipBlanks.on.fail_unexpectedEnd h

theorem reached_closing {close : Char} {start : Nat} {construct : Construct}
    {post : Unit → Cursor → Prop} (hc : c.Reached src limit p d)
    (hopen : ParseError.PointsInto classes limit 0 src ⟨start, .unterminated construct⟩)
    (hpost : ∀ c', c'.Reached src limit (p + 1) d → post () c') :
    Satisfies (closing close start construct) c post (·.PointsInto classes limit 0 src) := by
  rw [closing, satisfies_bind, satisfies_nextSignificant]
  split
  . next found h =>
    rw [satisfies_ite]
    split
    . rw [satisfies_discard]
      apply reached_advance hc.skipBlanks
      intro ch c' _ hc'
      exact hpost c' hc'
    . exact hc.skipBlanks.on.fail h
  . exact hopen

theorem reached_takeWhile {q : Char → Bool} {post : List Char → Cursor → Prop}
    (hc : c.Reached src limit p d)
    (hpost : ∀ text c', text = c.rest.takeWhile q → c'.Reached src limit (p + text.length) d →
      post text c') :
    Satisfies (takeWhile q) c post (·.PointsInto classes limit 0 src) := by
  rw [satisfies_takeWhile]
  exact hpost _ _ rfl (hc.after (List.takeWhile_append_dropWhile).symm)

theorem reached_identifier {ch : Char} {post : String → Cursor → Prop}
    (hc : c.Reached src limit p d) (hpeek : c.peek = some ch) (hch : Symbol.isIdentStart ch = true)
    (hpost : ∀ name c', name ≠ "" → name.toList <+: c.rest → c'.Reached src limit (p + 1) d →
      post name c') :
    Satisfies identifier c post (·.PointsInto classes limit 0 src) := by
  rw [identifier, satisfies_bind]
  apply reached_takeWhile hc
  rintro text c' rfl hc'
  rw [satisfies_pure]
  obtain ⟨rest, hrest⟩ : ∃ rest, c.rest = ch :: rest := List.head?_eq_some_iff.mp hpeek
  have htext : c.rest.takeWhile Symbol.isIdentContinue
      = ch :: rest.takeWhile Symbol.isIdentContinue := by
    rw [hrest, List.takeWhile_cons_of_pos (Symbol.isIdentContinue_of_isIdentStart hch)]
  apply hpost
  . simp [htext, ← String.toList_inj]
  . rw [String.toList_ofList]
    apply List.takeWhile_prefix
  . exact hc'.mono (by simp [htext])

theorem reached_name {post : String → Cursor → Prop} (hc : c.Reached src limit p d)
    (hpost : ∀ name c', name ≠ "" → name.toList <+: c.skipBlanks.rest →
      c'.Reached src limit (p + 1) d → post name c') :
    Satisfies name c post (·.PointsInto classes limit 0 src) := by
  rw [name, satisfies_bind, satisfies_nextSignificant]
  split
  . next ch h =>
    rw [satisfies_ite]
    split
    . next hch => exact reached_identifier hc.skipBlanks h hch hpost
    . exact hc.skipBlanks.on.fail_unexpected
  . exact hc.skipBlanks.on.fail_unexpected

theorem isPrefix_of_untilQuote {quote : Char} {chars text source : List Char}
    (h : untilQuote quote chars = some (text, source)) : source <+: chars := by
  fun_induction untilQuote quote chars generalizing text source with
  | case1 => simp at h
  | case2 => simp at h
  | case3 ch _ escaped rest ih =>
    obtain ⟨⟨_, source'⟩, h', heq⟩ := Option.map_eq_some_iff.mp h
    cases heq
    rw [List.cons_prefix_cons, List.cons_prefix_cons]
    exact ⟨rfl, rfl, ih h'⟩
  | case4 ch rest =>
    cases h
    exact List.cons_prefix_cons.mpr ⟨rfl, List.nil_prefix⟩
  | case5 ch rest _ _ ih =>
    obtain ⟨⟨_, source'⟩, h', heq⟩ := Option.map_eq_some_iff.mp h
    cases heq
    rw [List.cons_prefix_cons]
    exact ⟨rfl, ih h'⟩

theorem reached_stringLiteral {ch : Char} {post : Expr H → Cursor → Prop}
    (hc : c.Reached src limit p d) (hpeek : c.peek = some ch) (hch : ch = '\'' ∨ ch = '"')
    (hpost : ∀ text c', c'.Reached src limit (p + 1) d → post (.const (.str text)) c') :
    Satisfies stringLiteral c post (·.PointsInto classes limit 0 src) := by
  rw [stringLiteral, satisfies_bind, satisfies_position, satisfies_bind]
  apply reached_advance hc
  intro quote c' _ hc'
  rw [satisfies_bind, satisfies_get]
  split
  . exact hc.on.fail ⟨ch, hpeek, hch⟩
  . next text read h =>
    rw [satisfies_bind, satisfies_set, satisfies_pure]
    have hrest : c'.rest = read ++ c'.rest.drop read.length :=
      (List.prefix_iff_eq_append.mp (isPrefix_of_untilQuote h)).symm
    exact hpost _ _ ((hc'.after hrest).mono (Nat.le_add_right _ _))

theorem reached_fraction {post : List Char → Cursor → Prop} (hc : c.Reached src limit p d)
    (hpost : ∀ text c', c'.Reached src limit p d → post text c') :
    Satisfies fraction c post (·.PointsInto classes limit 0 src) := by
  rw [fraction, satisfies_bind, satisfies_peek, satisfies_bind, satisfies_peekAt]
  split
  . rw [satisfies_ite]
    split
    . rw [satisfies_bind]
      apply reached_advance hc
      intro point c' _ hc'
      rw [satisfies_bind]
      apply reached_takeWhile hc'
      intro text c'' _ hc''
      exact hpost _ _ (hc''.mono (by omega))
    . exact hpost _ _ hc
  . exact hpost _ _ hc

theorem reached_exponent {post : List Char → Cursor → Prop} (hc : c.Reached src limit p d)
    (hpost : ∀ text c', c'.Reached src limit p d → post text c') :
    Satisfies exponent c post (·.PointsInto classes limit 0 src) := by
  rw [exponent, satisfies_bind, satisfies_peek, satisfies_ite]
  split
  . rw [satisfies_bind, satisfies_peekAt, satisfies_bind, satisfies_peekAt]
    split
    . rw [satisfies_ite]
      split
      . rw [satisfies_bind, satisfies_get, satisfies_bind]
        apply reached_advanceBy hc
        intro c' hc'
        rw [satisfies_bind]
        apply reached_takeWhile hc'
        intro text c'' _ hc''
        exact hpost _ _ (hc''.mono (by omega))
      . exact hpost _ _ hc
    . exact hpost _ _ hc
  . exact hpost _ _ hc

theorem satisfies_integerLiteral {start radix : Nat} {digits literal : List Char}
    {post : Expr H → Cursor → Prop} {bad : ParseError → Prop} (hpost : ∀ n, post (.const (.int n)) c)
    (hbad : ∀ literal, bad ⟨start, .invalidNumber literal⟩) :
    Satisfies (integerLiteral start radix digits literal) c post bad := by
  unfold integerLiteral
  split
  . exact hpost _
  . exact hbad _

theorem reached_number {ch : Char} {post : Expr H → Cursor → Prop}
    (hc : c.Reached src limit p d) (hpeek : c.peek = some ch) (hch : Unicode.isAsciiDigit ch = true)
    (hpost : ∀ v c', c'.Reached src limit (p + 1) d → post (.const v) c') :
    Satisfies number c post (·.PointsInto classes limit 0 src) := by
  have hbad (literal : String) : ParseError.PointsInto classes limit 0 src
      ⟨c.pos, .invalidNumber literal⟩ := hc.on.fail ⟨ch, hpeek, hch⟩
  rw [number, satisfies_bind, satisfies_position, satisfies_bind, satisfies_peek, satisfies_bind,
    satisfies_peekAt, satisfies_ite]
  split
  . rw [satisfies_bind]
    apply reached_advanceBy hc
    intro c' hc'
    rw [satisfies_bind]
    apply reached_takeWhile hc'
    intro digits c'' _ hc''
    exact satisfies_integerLiteral (fun n => hpost _ _ (hc''.mono (by omega))) hbad
  . rw [satisfies_bind]
    apply reached_takeWhile hc
    intro whole c₁ hwhole hc₁
    -- The digit at the cursor is read here.
    have hlength : 1 ≤ whole.length := by
      obtain ⟨rest, hrest⟩ : ∃ rest, c.rest = ch :: rest := List.head?_eq_some_iff.mp hpeek
      simp [hwhole, hrest, hch]
    rw [satisfies_bind]
    apply reached_fraction hc₁
    intro fraction c₂ hc₂
    rw [satisfies_bind]
    apply reached_exponent hc₂
    intro exponent c₃ hc₃
    have hc₃ := hc₃.mono (Nat.add_le_add_left hlength p)
    dsimp only
    rw [satisfies_ite]
    split
    . exact satisfies_integerLiteral (fun n => hpost _ _ hc₃) hbad
    . split
      . exact hpost _ _ hc₃
      . exact hbad _

theorem reached_variableOrKeyword {ch : Char} {post : Expr H → Cursor → Prop}
    (hc : c.Reached src limit p d) (hpeek : c.peek = some ch) (hch : Symbol.isIdentStart ch = true)
    (hpost : ∀ e c', e.isValuer = true → c'.Reached src limit (p + 1) d → post e c') :
    Satisfies variableOrKeyword c post (·.PointsInto classes limit 0 src) := by
  rw [variableOrKeyword, satisfies_bind]
  apply reached_identifier hc hpeek hch
  intro name c' _ _ hc'
  split
  . exact hpost _ _ rfl hc'
  . exact hpost _ _ rfl hc'

end Parser

end Stencil
