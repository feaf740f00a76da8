import Stencil.Proofs.Parser.Satisfies

/-!
This module contains the comparison of two runs of a parser that differ in nothing but the nesting
limit: as long as the lower limit does not stop it, a parser does the same under a higher one.
-/

namespace Stencil

namespace Cursor

def withLimit (c : Cursor) (limit : Nat) : Cursor :=
  { c with maxDepth := limit }

end Cursor

namespace Parser

variable {α β H : Type}

/--
A higher limit changes nothing about what the parser does, unless it fails with the limit that it
has.
-/
def Stable (p : Parser α) : Prop :=
  ∀ (c : Cursor) (limit : Nat), c.maxDepth ≤ limit →
    Satisfies p c
      (fun a c' => c'.maxDepth = c.maxDepth ∧ p (c.withLimit limit) = .ok (a, c'.withLimit limit))
      (fun e => e.problem = .tooDeep c.maxDepth ∨ p (c.withLimit limit) = .error e)

theorem stable_pure (a : α) : Stable (pure a : Parser α) := by
  intro c limit _
  exact ⟨rfl, rfl⟩

theorem stable_bind {p : Parser β} {f : β → Parser α} (hp : Stable p) (hf : ∀ b, Stable (f b)) :
    Stable (p >>= f) := by
  intro c limit h
  have hrun : (p >>= f) (c.withLimit limit)
      = p (c.withLimit limit) >>= fun result => f result.1 result.2 := rfl
  rw [satisfies_bind]
  apply (hp c limit h).mono
  . rintro b c' ⟨hmax, hb⟩
    rw [hrun, hb, ← hmax]
    exact hf b c' limit (hmax ▸ h)
  . rintro e (hdeep | he)
    . exact .inl hdeep
    . rw [hrun, he]
      exact .inr rfl

theorem stable_discard {p : Parser β} (hp : Stable p) : Stable (discard p) := by
  have hdiscard : discard p = p >>= fun _ => pure () := rfl
  rw [hdiscard]
  exact stable_bind hp fun _ => stable_pure ()

theorem stable_ite {P : Prop} [Decidable P] {p q : Parser α} (hp : Stable p) (hq : Stable q) :
    Stable (if P then p else q) := by
  split
  . exact hp
  . exact hq

theorem stable_of_place {p : Parser α} (f : List Char → Nat → Nat → α × List Char × Nat × Nat)
    (hp : ∀ c : Cursor, p c =
      let (a, rest, pos, depth) := f c.rest c.pos c.depth
      .ok (a, ⟨rest, pos, depth, c.maxDepth⟩)) : Stable p := by
  intro c limit _
  unfold Satisfies
  rw [hp, hp]
  exact ⟨rfl, rfl⟩

theorem stable_fail (problem : ParseProblem) : Stable (fail problem : Parser α) := by
  intro c limit _
  exact .inr rfl

theorem stable_failAt (pos : Nat) (problem : ParseProblem) :
    Stable (failAt pos problem : Parser α) := by
  intro c limit _
  exact .inr rfl

theorem stable_fail_bind (problem : ParseProblem) (f : β → Parser α) :
    Stable (fail problem >>= f) :=
  stable_fail problem

theorem stable_failAt_bind (pos : Nat) (problem : ParseProblem) (f : β → Parser α) :
    Stable (failAt pos problem >>= f) :=
  stable_failAt pos problem

theorem stable_unexpected : Stable (unexpected : Parser α) := by
  intro c limit _
  exact .inr rfl

theorem stable_exhausted : Stable (exhausted : Parser α) := by
  intro c limit _
  exact .inl rfl

theorem stable_position : Stable position := by
  apply stable_of_place fun rest pos depth => (pos, rest, pos, depth)
  exact fun _ => rfl

theorem stable_peek : Stable peek := by
  apply stable_of_place fun rest pos depth => (rest.head?, rest, pos, depth)
  exact fun _ => rfl

theorem stable_peekAt (ahead : Nat) : Stable (peekAt ahead) := by
  apply stable_of_place fun rest pos depth => (rest[ahead]?, rest, pos, depth)
  exact fun _ => rfl

theorem stable_nextSignificant : Stable nextSignificant := by
  apply stable_of_place fun rest pos depth =>
    ((rest.dropWhile Unicode.isBlank).head?, rest.dropWhile Unicode.isBlank,
      pos + (rest.takeWhile Unicode.isBlank).length, depth)
  exact fun _ => rfl

theorem stable_takeWhile (q : Char → Bool) : Stable (takeWhile q) := by
  apply stable_of_place fun rest pos depth =>
    (rest.takeWhile q, rest.dropWhile q, pos + (rest.takeWhile q).length, depth)
  exact fun _ => rfl

theorem stable_ascendBy (levels : Nat) : Stable (ascendBy levels) := by
  apply stable_of_place fun rest pos depth => ((), rest, pos, depth - levels)
  exact fun _ => rfl

theorem stable_ascend : Stable ascend :=
  stable_ascendBy 1

theorem stable_advance : Stable advance := by
  intro c limit _
  rw [satisfies_advance]
  split
  . next h =>
    right
    simp [advance, Cursor.withLimit, Cursor.fail, h]
  . next ch rest h =>
    simp [advance, Cursor.withLimit, Cursor.after, h]

theorem stable_descend : Stable descend := by
  -- Here alone the limit is looked at. Who goes down under the lower limit goes down under the
  -- higher one.
  intro c limit h
  rw [satisfies_descend]
  split
  . exact .inl rfl
  . next hdepth =>
    have hlimit : ¬ c.depth ≥ limit := by omega
    simp [descend, Cursor.withLimit, hlimit]

theorem stable_advanceBy (n : Nat) : Stable (advanceBy n) := by
  induction n with
  | zero => exact stable_pure ()
  | succ n ih => exact stable_bind stable_advance fun _ => ih

theorem stable_classifyNext : Stable classifyNext :=
  stable_bind stable_nextSignificant fun _ => stable_pure _

theorem stable_expect (expected : Char) : Stable (expect expected) := by
  apply stable_bind stable_nextSignificant
  rintro (_ | found)
  . exact stable_fail _
  . exact stable_ite (stable_discard stable_advance) (stable_fail _)

theorem stable_closing (close : Char) (start : Nat) (construct : Construct) :
    Stable (closing close start construct) := by
  apply stable_bind stable_nextSignificant
  rintro (_ | found)
  . exact stable_failAt _ _
  . exact stable_ite (stable_discard stable_advance) (stable_fail _)

theorem stable_identifier : Stable identifier :=
  stable_bind (stable_takeWhile _) fun _ => stable_pure _

theorem stable_name : Stable name := by
  apply stable_bind stable_nextSignificant
  rintro (_ | c)
  . exact stable_unexpected
  . exact stable_ite stable_identifier stable_unexpected

theorem stable_peekBinaryOp : Stable peekBinaryOp :=
  stable_bind stable_nextSignificant fun _ => stable_bind (stable_peekAt 1) fun _ => stable_pure _

theorem stable_peekUnaryOp : Stable peekUnaryOp := by
  apply stable_bind stable_nextSignificant
  intro first
  apply stable_bind (stable_peekAt 1)
  intro second
  exact stable_ite (stable_pure _) (stable_ite (stable_pure _) (stable_pure _))

theorem stable_folded (pos : Nat) (e : Eval (Expr H)) : Stable (folded pos e) := by
  cases e with
  | error cause => exact stable_failAt _ _
  | ok e => exact stable_pure e

theorem stable_variableOrKeyword : Stable (variableOrKeyword : Parser (Expr H)) := by
  apply stable_bind stable_identifier
  intro name
  split
  . exact stable_pure _
  . exact stable_pure _

theorem stable_get_bind {f : Cursor → Parser α} (g : List Char → Parser α)
    (hf : ∀ c, f c c = g c.rest c) (hg : ∀ rest, Stable (g rest)) : Stable (get >>= f) := by
  intro c limit h
  have hget (c' : Cursor) : (get >>= f) c' = g c'.rest c' := hf c'
  unfold Satisfies
  rw [hget, hget]
  exact hg c.rest c limit h

theorem stable_stringLiteral : Stable (stringLiteral : Parser (Expr H)) := by
  apply stable_bind stable_position
  intro start
  apply stable_bind stable_advance
  intro quote
  apply stable_get_bind fun rest =>
    (untilQuote quote rest).elim (failAt start (.unterminated .string)) fun found c =>
      .ok (.const (.str (String.ofList found.1)), c.after found.2 (rest.drop found.2.length))
  . intro c
    cases untilQuote quote c.rest <;> rfl
  . intro rest
    cases untilQuote quote rest with
    | none => exact stable_failAt _ _
    | some found =>
      apply stable_of_place fun _ pos depth =>
        (_, rest.drop found.2.length, pos + found.2.length, depth)
      exact fun _ => rfl

theorem stable_fraction : Stable fraction := by
  apply stable_bind stable_peek
  intro point
  apply stable_bind (stable_peekAt 1)
  intro digit
  split
  . apply stable_ite
    . apply stable_bind stable_advance
      intro point
      exact stable_bind (stable_takeWhile _) fun _ => stable_pure _
    . exact stable_pure _
  . exact stable_pure _

theorem stable_exponent : Stable exponent := by
  apply stable_bind stable_peek
  intro mark
  apply stable_ite _ (stable_pure _)
  apply stable_bind (stable_peekAt 1)
  intro sign
  apply stable_bind (stable_peekAt _)
  rintro (_ | digit)
  . exact stable_pure _
  . apply stable_ite _ (stable_pure _)
    apply stable_get_bind fun rest => do
      let digitAt := if sign == some '+' || sign == some '-' then 2 else 1
      advanceBy digitAt
      return rest.take digitAt ++ (← takeWhile Unicode.isAsciiDigit)
    . exact fun _ => rfl
    . intro rest
      apply stable_bind (stable_advanceBy _)
      intro _
      exact stable_bind (stable_takeWhile _) fun _ => stable_pure _

theorem stable_integerLiteral (start radix : Nat) (digits literal : List Char) :
    Stable (integerLiteral start radix digits literal : Parser (Expr H)) := by
  unfold integerLiteral
  split
  . exact stable_pure _
  . exact stable_failAt _ _

theorem stable_number : Stable (number : Parser (Expr H)) := by
  apply stable_bind stable_position
  intro start
  apply stable_bind stable_peek
  intro zero
  apply stable_bind (stable_peekAt 1)
  intro mark
  apply stable_ite
  . apply stable_bind (stable_advanceBy 2)
    intro _
    apply stable_bind (stable_takeWhile _)
    exact fun digits => stable_integerLiteral _ _ _ _
  . apply stable_bind (stable_takeWhile _)
    intro whole
    apply stable_bind stable_fraction
    intro fraction
    apply stable_bind stable_exponent
    intro exponent
    apply stable_ite
    . exact stable_integerLiteral _ _ _ _
    . split
      . exact stable_pure _
      . exact stable_failAt _ _

variable [HostObject H]

structure AllStable (classes : ClassLookup H) (calls : Nat) : Prop where
  expression : Stable (expression classes calls)
  binary : ∀ least, Stable (binary classes calls least)
  operators : ∀ least left levels, Stable (operators classes calls least left levels)
  unary : Stable (unary classes calls)
  postfixed : Stable (postfixed classes calls)
  primary : Stable (primary classes calls)
  group : Stable (group classes calls)
  array : Stable (array classes calls)
  arguments : Stable (arguments classes calls)
  sequence : ∀ close start construct, Stable (sequence classes calls close start construct)
  items : ∀ close start construct, Stable (items classes calls close start construct)
  map : Stable (map classes calls)
  entries : ∀ start, Stable (entries classes calls start)
  mapKey : Stable (mapKey classes calls)
  staticAccess : Stable (staticAccess classes calls)
  steps : Stable (steps classes calls)

section

variable {classes : ClassLookup H} {calls : Nat} (ih : AllStable classes calls)

include ih

theorem stable_expression : Stable (expression classes (calls + 1)) := by
  rw [expression]
  apply stable_bind (ih.binary 0)
  intro cond
  apply stable_bind stable_nextSignificant
  intro mark
  apply stable_ite (stable_pure _)
  apply stable_bind stable_position
  intro pos
  apply stable_bind stable_advance
  intro _
  apply stable_bind stable_descend
  intro _
  apply stable_bind ih.expression
  intro yes
  apply stable_bind (stable_expect _)
  intro _
  apply stable_bind ih.expression
  intro no
  exact stable_bind stable_ascend fun _ => stable_folded _ _

theorem stable_binary (least : Nat) : Stable (binary classes (calls + 1) least) := by
  rw [binary]
  apply stable_bind ih.unary
  intro left
  apply stable_bind (ih.operators _ _ _)
  intro result
  exact stable_bind (stable_ascendBy _) fun _ => stable_pure _

theorem stable_operators (least : Nat) (left : Expr H) (levels : Nat) :
    Stable (operators classes (calls + 1) least left levels) := by
  rw [operators]
  apply stable_bind stable_peekBinaryOp
  rintro (_ | ⟨op, width⟩)
  . exact stable_pure _
  . apply stable_ite (stable_pure _)
    apply stable_bind stable_position
    intro pos
    apply stable_bind (stable_advanceBy _)
    intro _
    apply stable_bind (ih.binary _)
    intro right
    apply stable_bind (stable_folded _ _)
    intro e
    apply stable_ite (ih.operators _ _ _)
    exact stable_bind stable_descend fun _ => ih.operators _ _ _

theorem stable_unary : Stable (unary classes (calls + 1)) := by
  rw [unary]
  apply stable_bind stable_peekUnaryOp
  rintro (_ | op)
  . exact ih.postfixed
  . apply stable_bind stable_position
    intro pos
    apply stable_bind stable_advance
    intro _
    apply stable_bind stable_descend
    intro _
    apply stable_bind ih.unary
    intro operand
    exact stable_bind stable_ascend fun _ => stable_folded _ _

theorem stable_postfixed : Stable (postfixed classes (calls + 1)) := by
  rw [postfixed]
  apply stable_bind ih.primary
  intro base
  apply stable_bind ih.steps
  intro steps
  split
  . exact stable_pure _
  . exact stable_pure _

theorem stable_primary : Stable (primary classes (calls + 1)) := by
  rw [primary]
  apply stable_bind stable_position
  intro start
  apply stable_bind stable_classifyNext
  intro symbol
  have hvaluer (e : Expr H) :
      Stable (if e.isValuer = true then pure e else failAt start .notAValue) :=
    stable_ite (stable_pure _) (stable_failAt _ _)
  split
  . exact stable_bind ih.group hvaluer
  . exact stable_bind ih.array hvaluer
  . exact stable_bind ih.map hvaluer
  . exact stable_bind ih.staticAccess hvaluer
  . exact stable_bind stable_stringLiteral hvaluer
  . exact stable_bind stable_number hvaluer
  . exact stable_bind stable_variableOrKeyword hvaluer
  . exact stable_bind stable_unexpected hvaluer

theorem stable_group : Stable (group classes (calls + 1)) := by
  rw [group]
  apply stable_bind stable_position
  intro start
  apply stable_bind stable_advance
  intro _
  apply stable_bind stable_descend
  intro _
  apply stable_bind ih.expression
  intro inner
  apply stable_bind (stable_closing _ _ _)
  intro _
  exact stable_bind stable_ascend fun _ => stable_pure _

theorem stable_array : Stable (array classes (calls + 1)) := by
  rw [array]
  apply stable_bind stable_position
  intro start
  apply stable_bind stable_advance
  intro _
  apply stable_bind stable_descend
  intro _
  apply stable_bind (ih.sequence _ _ _)
  intro items
  exact stable_bind stable_ascend fun _ => stable_pure _

theorem stable_arguments : Stable (arguments classes (calls + 1)) := by
  rw [arguments]
  apply stable_bind stable_position
  intro start
  apply stable_bind stable_advance
  intro _
  apply stable_bind stable_descend
  intro _
  apply stable_bind (ih.sequence _ _ _)
  intro items
  exact stable_bind stable_ascend fun _ => stable_pure _

theorem stable_sequence (close : Char) (start : Nat) (construct : Construct) :
    Stable (sequence classes (calls + 1) close start construct) := by
  rw [sequence]
  apply stable_bind stable_nextSignificant
  intro next
  apply stable_ite _ (ih.items _ _ _)
  exact stable_bind stable_advance fun _ => stable_pure _

theorem stable_items (close : Char) (start : Nat) (construct : Construct) :
    Stable (items classes (calls + 1) close start construct) := by
  rw [items]
  apply stable_bind ih.expression
  intro item
  apply stable_bind stable_nextSignificant
  rintro (_ | c)
  . exact stable_failAt _ _
  . apply stable_ite
    . apply stable_bind stable_advance
      intro _
      exact stable_bind (ih.items _ _ _) fun _ => stable_pure _
    . apply stable_ite _ (stable_fail _)
      exact stable_bind stable_advance fun _ => stable_pure _

theorem stable_map : Stable (map classes (calls + 1)) := by
  rw [map]
  apply stable_bind stable_position
  intro start
  apply stable_bind stable_advance
  intro _
  apply stable_bind stable_descend
  intro _
  apply stable_bind stable_nextSignificant
  intro next
  have hlast (entries : List (Expr H × Expr H)) :
      Stable (do ascend; return .map entries : Parser (Expr H)) :=
    stable_bind stable_ascend fun _ => stable_pure _
  split
  . apply stable_bind stable_advance
    intro _
    exact stable_bind (stable_pure _) hlast
  . apply stable_bind stable_advance
    intro _
    apply stable_bind (stable_closing _ _ _)
    intro _
    exact stable_bind (stable_pure _) hlast
  . exact stable_bind (ih.entries _) hlast

theorem stable_entries (start : Nat) : Stable (entries classes (calls + 1) start) := by
  rw [entries]
  apply stable_bind ih.mapKey
  intro key
  apply stable_bind stable_nextSignificant
  intro colon
  split
  . apply stable_bind (stable_discard stable_advance)
    intro _
    apply stable_bind stable_nextSignificant
    rintro (_ | c)
    . exact stable_failAt_bind _ _ _
    . apply stable_ite (stable_fail_bind _ _)
      apply stable_bind ih.expression
      intro value
      apply stable_bind stable_nextSignificant
      rintro (_ | c)
      . exact stable_failAt _ _
      . apply stable_ite
        . apply stable_bind stable_advance
          intro _
          exact stable_bind (ih.entries _) fun _ => stable_pure _
        . apply stable_ite _ (stable_fail _)
          exact stable_bind stable_advance fun _ => stable_pure _
  . exact stable_fail_bind _ _
  . exact stable_failAt_bind _ _ _

theorem stable_mapKey : Stable (mapKey classes (calls + 1)) := by
  rw [mapKey]
  apply stable_bind stable_classifyNext
  intro symbol
  split
  . exact stable_bind stable_identifier fun _ => stable_pure _
  . exact ih.postfixed

theorem stable_staticAccess : Stable (staticAccess classes (calls + 1)) := by
  rw [staticAccess]
  apply stable_bind stable_advance
  intro _
  apply stable_bind stable_nextSignificant
  intro _
  apply stable_bind stable_position
  intro start
  apply stable_bind stable_name
  intro className
  split
  . exact stable_failAt _ _
  . apply stable_bind stable_nextSignificant
    intro point
    apply stable_ite (stable_pure _)
    apply stable_bind stable_advance
    intro _
    apply stable_bind stable_name
    intro member
    apply stable_bind stable_nextSignificant
    intro paren
    apply stable_ite _ (stable_pure _)
    exact stable_bind ih.arguments fun _ => stable_pure _

theorem stable_steps : Stable (steps classes (calls + 1)) := by
  have hmore (step : Step H) :
      Stable (do return step :: (← steps classes calls) : Parser (List (Step H))) :=
    stable_bind ih.steps fun _ => stable_pure _
  rw [steps]
  apply stable_bind stable_nextSignificant
  intro next
  split
  . apply stable_bind stable_advance
    intro _
    apply stable_bind stable_name
    intro member
    apply stable_bind stable_nextSignificant
    intro paren
    apply stable_ite _ (hmore _)
    exact stable_bind ih.arguments fun _ => hmore _
  . apply stable_bind stable_position
    intro start
    apply stable_bind stable_advance
    intro _
    apply stable_bind stable_descend
    intro _
    apply stable_bind ih.expression
    intro key
    apply stable_bind (stable_closing _ _ _)
    intro _
    exact stable_bind stable_ascend fun _ => hmore _
  . exact stable_pure _

end

theorem allStable (classes : ClassLookup H) (calls : Nat) : AllStable classes calls := by
  induction calls with
  | zero =>
    constructor
    all_goals
      intros
      simp only [expression, binary, operators, unary, postfixed, primary, group, array, arguments,
        sequence, items, map, entries, mapKey, staticAccess, steps]
      exact stable_exhausted
  | succ calls ih =>
    exact {
      expression := stable_expression ih
      binary := stable_binary ih
      operators := stable_operators ih
      unary := stable_unary ih
      postfixed := stable_postfixed ih
      primary := stable_primary ih
      group := stable_group ih
      array := stable_array ih
      arguments := stable_arguments ih
      sequence := stable_sequence ih
      items := stable_items ih
      map := stable_map ih
      entries := stable_entries ih
      mapKey := stable_mapKey ih
      staticAccess := stable_staticAccess ih
      steps := stable_steps ih
    }

end Parser

end Stencil
