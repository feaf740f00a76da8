import Stencil.Parser.Expression

/-!
This module contains the logic that parsers are reasoned with: what holds of the result of a parser
and of the cursor behind it, and what holds of its error. There is one rule for each parser that
others are built from.
-/

namespace Stencil

namespace Parser

variable {α β : Type}

/--
If the parser succeeds at the cursor, its result and the cursor behind it have the property `post`,
and if it fails, its error has the property `bad`.
-/
def Satisfies (p : Parser α) (c : Cursor) (post : α → Cursor → Prop) (bad : ParseError → Prop) :
    Prop :=
  match p c with
  | .ok (a, c') => post a c'
  | .error e => bad e

variable {c : Cursor} {post : α → Cursor → Prop} {bad : ParseError → Prop}

theorem Satisfies.mono {p : Parser α} {post' : α → Cursor → Prop} {bad' : ParseError → Prop}
    (h : Satisfies p c post bad) (hpost : ∀ a c', post a c' → post' a c')
    (hbad : ∀ e, bad e → bad' e) : Satisfies p c post' bad' := by
  unfold Satisfies at *
  split
  . next a c' heq =>
    rw [heq] at h
    exact hpost a c' h
  . next e heq =>
    rw [heq] at h
    exact hbad e h

@[simp]
theorem satisfies_pure {a : α} : Satisfies (pure a) c post bad ↔ post a c := by
  rfl

@[simp]
theorem satisfies_bind {p : Parser β} {f : β → Parser α} :
    Satisfies (p >>= f) c post bad ↔ Satisfies p c (fun b c' => Satisfies (f b) c' post bad) bad := by
  simp only [Satisfies, bind, StateT.bind, Except.bind]
  cases p c with
  | error e => rfl
  | ok result => rfl

@[simp]
theorem satisfies_discard {p : Parser β} {post : Unit → Cursor → Prop} :
    Satisfies (discard p) c post bad ↔ Satisfies p c (fun _ c' => post () c') bad := by
  simp only [Satisfies, discard, Functor.mapConst, Function.comp, StateT.map, bind, Except.bind]
  cases p c with
  | error e => rfl
  | ok result => rfl

theorem satisfies_ite {P : Prop} [Decidable P] {p q : Parser α} :
    Satisfies (if P then p else q) c post bad
      ↔ if P then Satisfies p c post bad else Satisfies q c post bad := by
  split <;> rfl

@[simp]
theorem satisfies_get {post : Cursor → Cursor → Prop} :
    Satisfies (get : Parser Cursor) c post bad ↔ post c c := by
  rfl

@[simp]
theorem satisfies_set {c' : Cursor} {post : PUnit → Cursor → Prop} :
    Satisfies (set c' : Parser PUnit) c post bad ↔ post ⟨⟩ c' := by
  rfl

@[simp]
theorem satisfies_position {post : Nat → Cursor → Prop} :
    Satisfies position c post bad ↔ post c.pos c := by
  rfl

@[simp]
theorem satisfies_peek {post : Option Char → Cursor → Prop} :
    Satisfies peek c post bad ↔ post c.peek c := by
  rfl

@[simp]
theorem satisfies_peekAt {ahead : Nat} {post : Option Char → Cursor → Prop} :
    Satisfies (peekAt ahead) c post bad ↔ post (c.peekAt ahead) c := by
  rfl

@[simp]
theorem satisfies_fail {problem : ParseProblem} :
    Satisfies (fail problem) c post bad ↔ bad (c.fail problem) := by
  rfl

@[simp]
theorem satisfies_failAt {pos : Nat} {problem : ParseProblem} :
    Satisfies (failAt pos problem) c post bad ↔ bad ⟨pos, problem⟩ := by
  rfl

@[simp]
theorem satisfies_unexpected : Satisfies unexpected c post bad ↔ bad c.unexpected := by
  rfl

@[simp]
theorem satisfies_exhausted :
    Satisfies exhausted c post bad ↔ bad (c.fail (.tooDeep c.maxDepth)) := by
  rfl

@[simp]
theorem satisfies_nextSignificant {post : Option Char → Cursor → Prop} :
    Satisfies nextSignificant c post bad ↔ post c.skipBlanks.peek c.skipBlanks := by
  rfl

@[simp]
theorem satisfies_classifyNext {post : Option Symbol → Cursor → Prop} :
    Satisfies classifyNext c post bad
      ↔ post (c.skipBlanks.peek.map Symbol.ofChar) c.skipBlanks := by
  rfl

@[simp]
theorem satisfies_takeWhile {p : Char → Bool} {post : List Char → Cursor → Prop} :
    Satisfies (takeWhile p) c post bad
      ↔ post (c.rest.takeWhile p) (c.after (c.rest.takeWhile p) (c.rest.dropWhile p)) := by
  rfl

@[simp]
theorem satisfies_ascendBy {levels : Nat} {post : Unit → Cursor → Prop} :
    Satisfies (ascendBy levels) c post bad ↔ post () { c with depth := c.depth - levels } := by
  rfl

@[simp]
theorem satisfies_ascend {post : Unit → Cursor → Prop} :
    Satisfies ascend c post bad ↔ post () { c with depth := c.depth - 1 } := by
  rfl

theorem satisfies_descend {post : Unit → Cursor → Prop} :
    Satisfies descend c post bad
      ↔ if c.depth ≥ c.maxDepth then bad (c.fail (.tooDeep c.maxDepth))
        else post () { c with depth := c.depth + 1 } := by
  unfold Satisfies descend
  by_cases h : c.depth ≥ c.maxDepth <;> simp [h]

theorem satisfies_advance {post : Char → Cursor → Prop} :
    Satisfies advance c post bad
      ↔ match c.rest with
        | [] => bad (c.fail .unexpectedEnd)
        | ch :: rest => post ch (c.after [ch] rest) := by
  unfold Satisfies advance
  cases c.rest <;> rfl

theorem satisfies_folded {H : Type} {pos : Nat} {e : Eval (Expr H)}
    {post : Expr H → Cursor → Prop} :
    Satisfies (folded pos e) c post bad
      ↔ (∀ t, e = .ok t → post t c) ∧ ∀ cause, e = .error cause → bad ⟨pos, .constantFold cause⟩ := by
  cases e with
  | error cause => simp [folded]
  | ok t => simp [folded]

end Parser

end Stencil
