import Stencil.Proofs.Expr.Valuer
import Stencil.Proofs.Parser.Reading

/-!
This module contains how the parsers read what stands in brackets: groups, arrays, arguments and
maps. Every bracket takes a level, and ends at the sign that closes it.
-/

namespace Stencil

variable {H : Type}

namespace Parser

open Cursor

theorem satisfies_valuer {c : Cursor} {r : Expr H} {start : Nat} {post : Expr H → Cursor → Prop}
    {bad : ParseError → Prop} (hvaluer : r.isValuer = true) (hpost : post r c) :
    Satisfies (if r.isValuer = true then pure r else failAt start .notAValue) c post bad := by
  rw [if_pos hvaluer]
  exact hpost

theorem not_missing {first : Char}
    (h : Symbol.isStart first = true ∨ first = '-' ∨ first = '!') :
    ¬ (first == ',' || first == '\x7d') = true := by
  rw [Bool.or_eq_true, beq_iff_eq, beq_iff_eq]
  rintro (rfl | rfl)
  . revert h
    decide
  . revert h
    decide

variable [HostObject H] {classes : ClassLookup H} {e : Expr H} {ts ts' more : List Token}
  {c : Cursor} {d limit calls : Nat}

theorem reads_group (h : Understood classes e ts) (hvaluer : e.isValuer = true)
    (hcalls : 16 * (ts ++ [')'] :: more).length + 10 ≤ calls) :
    Reads (primary classes (calls + 1)) (Expr.group e).fold (Expr.group e).nesting
      (['('] :: ts ++ [[')']]) more := by
  intro c d limit hc
  obtain ⟨calls, rfl, _⟩ := exists_succ hcalls
  have hexpression := h.expression ([')'] :: more) calls (closes_cons (by decide) more) (by omega)
  simp only [List.cons_append, List.append_assoc, List.nil_append] at hc
  rw [Expr.nesting, primary, satisfies_bind, satisfies_position, satisfies_bind,
    satisfies_classifyNext, hc.at.peek, Option.map_some,
    show Symbol.ofChar '(' = .groupOpen by decide]
  dsimp only
  rw [satisfies_bind, group, satisfies_bind, satisfies_position, satisfies_bind]
  apply before_advance hc.at
  intro c₁ hc₁
  apply descend_bind hc₁ (by omega)
  intro c₂ _ hc₂
  apply hexpression.bind hc₂ (by omega)
  . intro cause hcause
    simp [Expr.fold, hcause]
  intro r c₃ hr hn hc₃
  have hfold : (Expr.group e).fold = .ok (Expr.foldGroup r) := by
    simp [Expr.fold, hr]
  rw [satisfies_bind]
  apply before_closing hc₃
  intro c₄ hc₄
  rw [satisfies_bind, satisfies_ascend, satisfies_pure]
  apply satisfies_valuer (Expr.isValuer_of_fold (e := e.group) hvaluer hfold)
  exact ⟨hfold, by omega, before_ascendBy hc₄⟩

structure UnderstoodItems (classes : ClassLookup H) (es : List (Expr H)) (ts : List Token) :
    Prop where
  sequence : ∀ close start construct more calls, close ∈ [')', ']'] →
    16 * (ts ++ [close] :: more).length + 10 ≤ calls →
      Reads (sequence classes calls close start construct) (Expr.foldAll es) (Expr.nestingAll es)
        (ts ++ [[close]]) more
  items : es ≠ [] → ∀ close start construct more calls, close ∈ [')', ']'] →
    16 * (ts ++ [close] :: more).length + 9 ≤ calls →
      Reads (items classes calls close start construct) (Expr.foldAll es) (Expr.nestingAll es)
        (ts ++ [[close]]) more

section

variable {es : List (Expr H)} {close : Char} {start : Nat} {construct : Construct}

theorem reads_lastItem (hclose : close ∈ [')', ']'])
    (h : Reads (expression classes calls) e.fold e.nesting ts ([close] :: more)) :
    Reads (items classes (calls + 1) close start construct) (Expr.foldAll [e])
      (Expr.nestingAll [e]) (ts ++ [[close]]) more := by
  intro c d limit hc
  rw [← List.append_cons] at hc
  have hcomma : ¬ (close == ',') = true := by
    simp only [List.mem_cons, List.not_mem_nil, or_false] at hclose
    rcases hclose with rfl | rfl <;> decide
  rw [Expr.nestingAll, Expr.nestingAll, items]
  apply h.bind hc (by omega)
  . intro cause hcause
    simp [Expr.foldAll, hcause]
  intro item c₁ hitem hn hc₁
  rw [satisfies_bind, satisfies_nextSignificant, hc₁.at.peek]
  dsimp only
  rw [if_neg hcomma, if_pos (beq_self_eq_true close), satisfies_bind]
  apply before_advance hc₁.at
  intro c₂ hc₂
  exact ⟨by simp [Expr.foldAll, hitem], by omega, hc₂⟩

theorem reads_item
    (h : Reads (expression classes calls) e.fold e.nesting ts ([','] :: (ts' ++ [close] :: more)))
    (hitems : Reads (items classes calls close start construct) (Expr.foldAll es)
      (Expr.nestingAll es) (ts' ++ [[close]]) more) :
    Reads (items classes (calls + 1) close start construct) (Expr.foldAll (e :: es))
      (Expr.nestingAll (e :: es)) (ts ++ [','] :: ts' ++ [[close]]) more := by
  intro c d limit hc
  simp only [List.cons_append, List.append_assoc, List.nil_append] at hc
  rw [Expr.nestingAll, items]
  apply h.bind hc (by omega)
  . intro cause hcause
    simp [Expr.foldAll, hcause]
  intro item c₁ hitem hn₁ hc₁
  rw [satisfies_bind, satisfies_nextSignificant, hc₁.at.peek]
  dsimp only
  rw [if_pos (by decide), satisfies_bind]
  apply before_advance hc₁.at
  intro c₂ hc₂
  rw [List.append_cons] at hc₂
  apply hitems.bind hc₂ (by omega)
  . intro cause hcause
    simp [Expr.foldAll, hitem, hcause]
  intro items' c₃ hitems' hn₃ hc₃
  exact ⟨by simp [Expr.foldAll, hitem, hitems'], by omega, hc₃⟩

theorem reads_noItems :
    Reads (sequence classes (calls + 1) close start construct)
      (Expr.foldAll ([] : List (Expr H))) (Expr.nestingAll ([] : List (Expr H))) [[close]] more := by
  intro c d limit hc
  rw [List.singleton_append] at hc
  rw [sequence, satisfies_bind, satisfies_nextSignificant, hc.at.peek, if_pos (by simp),
    satisfies_bind]
  apply before_advance hc.at
  intro c₁ hc₁
  exact ⟨rfl, hc₁.depth_le, hc₁⟩

theorem reads_sequence (hbegins : ¬ Begins (· = close) ts) (hne : ts ≠ [])
    (h : Reads (items classes calls close start construct) (Expr.foldAll es)
      (Expr.nestingAll es) (ts ++ [[close]]) more) :
    Reads (sequence classes (calls + 1) close start construct) (Expr.foldAll es)
      (Expr.nestingAll es) (ts ++ [[close]]) more := by
  intro c d limit hc
  rw [sequence, satisfies_bind, satisfies_nextSignificant, if_neg]
  . exact h _ d limit hc.skipBlanks
  . -- The first item does not begin with the closing bracket.
    rw [beq_iff_eq]
    intro hpeek
    obtain ⟨first, rest, ts'', heq, hfirst⟩ := begins_of_peek hc hpeek
    cases ts with
    | nil => exact hne rfl
    | cons tok ts =>
      cases heq
      exact hbegins ⟨first, rest, ts, rfl, hfirst⟩

theorem reads_array (h : UnderstoodItems classes es ts)
    (hcalls : 16 * (ts ++ [']'] :: more).length + 11 ≤ calls) :
    Reads (primary classes (calls + 1)) (Expr.array es).fold (Expr.array es).nesting
      (['['] :: ts ++ [[']']]) more := by
  intro c d limit hc
  obtain ⟨calls, rfl, hcalls₁⟩ := exists_succ hcalls
  simp only [List.cons_append, List.append_assoc, List.nil_append] at hc
  rw [Expr.nesting, primary, satisfies_bind, satisfies_position, satisfies_bind,
    satisfies_classifyNext, hc.at.peek, Option.map_some,
    show Symbol.ofChar '[' = .arrayOpen by decide]
  dsimp only
  rw [satisfies_bind, array, satisfies_bind, satisfies_position, satisfies_bind]
  apply before_advance hc.at
  intro c₁ hc₁
  apply descend_bind hc₁ (by omega)
  intro c₂ _ hc₂
  rw [List.append_cons] at hc₂
  apply (h.sequence ']' _ .array more calls (by decide) hcalls₁).bind hc₂ (by omega)
  . intro cause hcause
    simp [Expr.fold, hcause]
  intro items c₃ hitems hn hc₃
  rw [satisfies_bind, satisfies_ascend, satisfies_pure]
  apply satisfies_valuer rfl
  exact ⟨by simp [Expr.fold, hitems], by omega, before_ascendBy hc₃⟩

theorem arguments_bind {α β : Type} {f : List (Expr H) → Parser β} {y : Eval α} {m : Nat}
    {post : β → Cursor → Prop} (h : UnderstoodItems classes es ts)
    (hcalls : 16 * (ts ++ [')'] :: more).length + 11 ≤ calls)
    (hc : c.At ['('] (ts ++ [')'] :: more) d limit) (hm : d + (Expr.nestingAll es + 1) ≤ m)
    (hxy : ∀ cause, Expr.foldAll es = .error cause → y = .error cause)
    (hpost : ∀ args c', Expr.foldAll es = .ok args → d + (Expr.nestingAll es + 1) ≤ limit →
      c'.Before more d limit → Satisfies (f args) c' post (Faulty y m limit)) :
    Satisfies (arguments classes calls >>= f) c post (Faulty y m limit) := by
  obtain ⟨calls, rfl, hcalls₁⟩ := exists_succ hcalls
  rw [arguments, bind_assoc, satisfies_bind, satisfies_position, bind_assoc, satisfies_bind]
  apply before_advance hc
  intro c₁ hc₁
  rw [bind_assoc]
  apply descend_bind hc₁ (by omega)
  intro c₂ _ hc₂
  rw [List.append_cons] at hc₂
  rw [bind_assoc]
  apply (h.sequence ')' c.pos .arguments more calls (by decide) hcalls₁).bind hc₂ (by omega) hxy
  intro args c₃ hargs hn hc₃
  rw [bind_assoc, satisfies_bind, satisfies_ascend, pure_bind]
  exact hpost args _ hargs (by omega) (before_ascendBy hc₃)

end

theorem reads_nameKey {name : String} (hname : IsName name.toList) :
    Reads (mapKey classes (calls + 1))
      (Expr.const ((keyword? name).getD (.str name)) : Expr H).fold
      (Expr.const ((keyword? name).getD (.str name)) : Expr H).nesting [name.toList] more := by
  intro c d limit hc
  rw [mapKey, satisfies_bind, satisfies_classifyNext, classify_name hc hname]
  dsimp only
  rw [satisfies_bind]
  apply before_identifier hc.at hname
  intro c' hc'
  exact ⟨rfl, hc'.depth_le, hc'⟩

theorem reads_key {first : Char} {tok : List Char} (hfirst : Symbol.isIdentStart first = false)
    (h : Reads (postfixed classes calls) e.fold e.nesting ((first :: tok) :: ts) more) :
    Reads (mapKey classes (calls + 1)) e.fold e.nesting ((first :: tok) :: ts) more := by
  intro c d limit hc
  rw [mapKey, satisfies_bind, satisfies_classifyNext, hc.at.peek, Option.map_some]
  split
  . next hsome =>
    have hdescribes := Symbol.describes_ofChar first
    rw [Option.some_inj.mp hsome] at hdescribes
    rw [hdescribes] at hfirst
    cases hfirst
  . exact h _ d limit hc.skipBlanks

section

variable {k : Expr H} {es : List (Expr H × Expr H)} {start : Nat}

theorem entry_bind {α : Type} {toks : List Token} {y : Eval α} {m : Nat}
    {post : List (Expr H × Expr H) → Cursor → Prop}
    (hbegins : Begins (fun c => Symbol.isStart c = true ∨ c = '-' ∨ c = '!') ts')
    (hkey : Reads (mapKey classes calls) k.fold k.nesting ts ([':'] :: (ts' ++ toks)))
    (h : Reads (expression classes calls) e.fold e.nesting ts' toks)
    (hc : c.Before (ts ++ [':'] :: (ts' ++ toks)) d limit) (hm : d + max k.nesting e.nesting ≤ m)
    (hkeyError : ∀ cause, k.fold = .error cause → y = .error cause)
    (herror : ∀ key cause, k.fold = .ok key → e.fold = .error cause → y = .error cause)
    (hpost : ∀ key value c', k.fold = .ok key → e.fold = .ok value →
      d + max k.nesting e.nesting ≤ limit → c'.Before toks d limit →
        Satisfies (do
          match ← nextSignificant with
          | none => failAt start (.unterminated .map)
          | some c =>
            if c == ',' then
              let _ ← advance
              return (key, value) :: (← entries classes calls start)
            else if c == '\x7d' then
              let _ ← advance
              return [(key, value)]
            else fail (.unexpectedChar c)) c' post (Faulty y m limit)) :
    Satisfies (entries classes (calls + 1) start) c post (Faulty y m limit) := by
  rw [entries]
  apply hkey.bind hc (by omega) hkeyError
  intro key c₁ hkey' hn₁ hc₁
  rw [satisfies_bind, satisfies_nextSignificant, hc₁.at.peek]
  simp only
  rw [satisfies_bind, satisfies_discard]
  apply before_advance hc₁.at
  intro c₂ hc₂
  obtain ⟨first, hpeek, hfirst⟩ := peek_of_begins hc₂ (hbegins.append _)
  rw [satisfies_bind, satisfies_nextSignificant, hpeek]
  dsimp only
  -- The value of the entry is not missing.
  rw [if_neg (not_missing hfirst)]
  apply h.bind hc₂.skipBlanks (by omega) (herror key · hkey')
  intro value c₃ hvalue hn₃ hc₃
  exact hpost key value c₃ hkey' hvalue (by omega) hc₃

theorem reads_lastEntry
    (hbegins : Begins (fun c => Symbol.isStart c = true ∨ c = '-' ∨ c = '!') ts')
    (hkey : Reads (mapKey classes calls) k.fold k.nesting ts ([':'] :: (ts' ++ ['\x7d'] :: more)))
    (h : Reads (expression classes calls) e.fold e.nesting ts' (['\x7d'] :: more)) :
    Reads (entries classes (calls + 1) start) (Expr.foldEntries [(k, e)])
      (Expr.nestingEntries [(k, e)]) (ts ++ [':'] :: ts' ++ [['\x7d']]) more := by
  intro c d limit hc
  simp only [List.cons_append, List.append_assoc, List.nil_append] at hc
  rw [Expr.nestingEntries, Expr.nestingEntries]
  apply entry_bind hbegins hkey h hc (by omega)
  . intro cause hcause
    simp [Expr.foldEntries, hcause]
  . intro key cause hkey' hcause
    simp [Expr.foldEntries, hkey', hcause]
  intro key value c₁ hkey' hvalue hn hc₁
  rw [satisfies_bind, satisfies_nextSignificant, hc₁.at.peek]
  dsimp only
  rw [if_neg (by decide), if_pos (by decide), satisfies_bind]
  apply before_advance hc₁.at
  intro c₂ hc₂
  exact ⟨by simp [Expr.foldEntries, hkey', hvalue], by omega, hc₂⟩

theorem reads_entry {ts'' : List Token}
    (hbegins : Begins (fun c => Symbol.isStart c = true ∨ c = '-' ∨ c = '!') ts')
    (hkey : Reads (mapKey classes calls) k.fold k.nesting ts
      ([':'] :: (ts' ++ [','] :: (ts'' ++ ['\x7d'] :: more))))
    (h : Reads (expression classes calls) e.fold e.nesting ts'
      ([','] :: (ts'' ++ ['\x7d'] :: more)))
    (hentries : Reads (entries classes calls start) (Expr.foldEntries es)
      (Expr.nestingEntries es) (ts'' ++ [['\x7d']]) more) :
    Reads (entries classes (calls + 1) start) (Expr.foldEntries ((k, e) :: es))
      (Expr.nestingEntries ((k, e) :: es))
      (ts ++ [':'] :: ts' ++ [','] :: ts'' ++ [['\x7d']]) more := by
  intro c d limit hc
  simp only [List.cons_append, List.append_assoc, List.nil_append] at hc
  rw [Expr.nestingEntries]
  apply entry_bind hbegins hkey h hc (by omega)
  . intro cause hcause
    simp [Expr.foldEntries, hcause]
  . intro key cause hkey' hcause
    simp [Expr.foldEntries, hkey', hcause]
  intro key value c₁ hkey' hvalue hn₁ hc₁
  rw [satisfies_bind, satisfies_nextSignificant, hc₁.at.peek]
  dsimp only
  rw [if_pos (by decide), satisfies_bind]
  apply before_advance hc₁.at
  intro c₂ hc₂
  rw [List.append_cons] at hc₂
  apply hentries.bind hc₂ (by omega)
  . intro cause hcause
    simp [Expr.foldEntries, hkey', hvalue, hcause]
  intro es' c₃ hes hn₃ hc₃
  exact ⟨by simp [Expr.foldEntries, hkey', hvalue, hes], by omega, hc₃⟩

inductive UnderstoodEntries (classes : ClassLookup H) : List (Expr H × Expr H) → List Token → Prop where
  | none : UnderstoodEntries classes [] []
  | colon : UnderstoodEntries classes [] [[':']]
  | some {es : List (Expr H × Expr H)} {ts : List Token} : Begins (Symbol.isStart · = true) ts →
      (∀ start more calls, 16 * (ts ++ ['\x7d'] :: more).length + 9 ≤ calls →
        Reads (entries classes calls start) (Expr.foldEntries es) (Expr.nestingEntries es)
          (ts ++ [['\x7d']]) more) →
      UnderstoodEntries classes es ts

theorem reads_map (h : UnderstoodEntries classes es ts)
    (hcalls : 16 * (ts ++ ['\x7d'] :: more).length + 10 ≤ calls) :
    Reads (primary classes (calls + 1)) (Expr.map es).fold (Expr.map es).nesting
      (['\x7b'] :: ts ++ [['\x7d']]) more := by
  intro c d limit hc
  obtain ⟨calls, rfl, hcalls₁⟩ := exists_succ hcalls
  simp only [List.cons_append, List.append_assoc, List.nil_append] at hc
  rw [Expr.nesting, primary, satisfies_bind, satisfies_position, satisfies_bind,
    satisfies_classifyNext, hc.at.peek, Option.map_some,
    show Symbol.ofChar '\x7b' = .mapOpen by decide]
  dsimp only
  rw [satisfies_bind, map, satisfies_bind, satisfies_position, satisfies_bind]
  apply before_advance hc.at
  intro c₁ hc₁
  apply descend_bind hc₁ (by omega)
  intro c₂ hlimit hc₂
  rw [satisfies_bind, satisfies_nextSignificant]
  dsimp only
  have hempty (c' : Cursor) (hc' : c'.Before more (d + 1) limit) :
      (Expr.map [] : Expr H).fold = .ok (.map [])
        ∧ d + (Expr.nestingEntries ([] : List (Expr H × Expr H)) + 1) ≤ limit
        ∧ Cursor.Before more d limit { c' with depth := c'.depth - 1 } :=
    ⟨rfl, hlimit, before_ascendBy hc'⟩
  cases h with
  | none =>
    rw [List.nil_append] at hc₂
    rw [hc₂.at.peek]
    simp only
    rw [satisfies_bind]
    apply before_advance hc₂.at
    intro c₃ hc₃
    rw [satisfies_bind, satisfies_pure, satisfies_bind, satisfies_ascend, satisfies_pure]
    exact satisfies_valuer rfl (hempty c₃ hc₃)
  | colon =>
    rw [List.singleton_append] at hc₂
    rw [hc₂.at.peek]
    simp only
    rw [satisfies_bind]
    apply before_advance hc₂.at
    intro c₃ hc₃
    rw [satisfies_bind]
    apply before_closing hc₃
    intro c₄ hc₄
    rw [satisfies_bind, satisfies_pure, satisfies_bind, satisfies_ascend, satisfies_pure]
    exact satisfies_valuer rfl (hempty c₄ hc₄)
  | some hbegins hentries =>
    -- The first entry begins with neither a closing brace nor a colon.
    obtain ⟨first, hpeek, hfirst⟩ := peek_of_begins hc₂ (hbegins.append _)
    rw [hpeek]
    split
    . next heq =>
      cases heq
      exact absurd hfirst (by decide)
    . next heq =>
      cases heq
      exact absurd hfirst (by decide)
    . rw [List.append_cons] at hc₂
      apply (hentries _ more calls hcalls₁).bind hc₂.skipBlanks (by omega)
      . intro cause hcause
        simp [Expr.fold, hcause]
      intro es' c₃ hes hn hc₃
      rw [satisfies_bind, satisfies_ascend, satisfies_pure]
      apply satisfies_valuer rfl
      exact ⟨by simp [Expr.fold, hes], by omega, before_ascendBy hc₃⟩

end

end Parser

end Stencil
