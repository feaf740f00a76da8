import Stencil.Proofs.Nesting
import Stencil.Proofs.Parser.Boundary

/-!
This module contains what it means that a parser reads tokens as an expression, and how the parsers
of the levels of the grammar read what the ones above them read: primary, postfix, unary and binary
expressions. A chain of binary operators is read from its leftmost operand on.
-/

namespace Stencil

open Outcome

variable {H : Type}

namespace Parser

open Cursor

def Faulty {α : Type} (x : Eval α) (depth limit : Nat) (err : ParseError) : Prop :=
  (∃ cause, x = .error cause ∧ err.problem = .constantFold cause)
    ∨ (limit < depth ∧ err.problem = .tooDeep limit)

/--
A parser reads the tokens `ts` if `more` comes behind them. Its result is `x`, and `levels` levels
are needed for that.
-/
def Reads {α : Type} (p : Parser α) (x : Eval α) (levels : Nat) (ts more : List Token) : Prop :=
  ∀ c d limit, c.Before (ts ++ more) d limit →
    Satisfies p c (fun a c' => x = .ok a ∧ d + levels ≤ limit ∧ c'.Before more d limit)
      (Faulty x (d + levels) limit)

section

variable {α β : Type} {x : Eval α} {m m' limit d n : Nat} {err : ParseError} {p : Parser α}
  {ts more : List Token} {c : Cursor}

theorem Faulty.mono {y : Eval β} (h : Faulty x m limit err)
    (hxy : ∀ cause, x = .error cause → y = .error cause) (hm : m ≤ m') :
    Faulty y m' limit err := by
  rcases h with ⟨cause, hx, herr⟩ | ⟨hlt, herr⟩
  . exact .inl ⟨cause, hxy cause hx, herr⟩
  . exact .inr ⟨Nat.lt_of_lt_of_le hlt hm, herr⟩

theorem faulty_constantFold {cause : EvalError} (h : x = .error cause) (pos : Nat) :
    Faulty x m limit ⟨pos, .constantFold cause⟩ :=
  .inl ⟨cause, h, rfl⟩

theorem faulty_tooDeep (h : limit < m) (pos : Nat) : Faulty x m limit ⟨pos, .tooDeep limit⟩ :=
  .inr ⟨h, rfl⟩

theorem Reads.bind {y : Eval β} {γ : Type} {f : α → Parser γ} {post : γ → Cursor → Prop}
    (h : Reads p x n ts more) (hc : c.Before (ts ++ more) d limit) (hm : d + n ≤ m)
    (hxy : ∀ cause, x = .error cause → y = .error cause)
    (hpost : ∀ a c', x = .ok a → d + n ≤ limit → c'.Before more d limit →
      Satisfies (f a) c' post (Faulty y m limit)) :
    Satisfies (p >>= f) c post (Faulty y m limit) := by
  rw [satisfies_bind]
  apply (h c d limit hc).mono
  . intro a c' ha
    exact hpost a c' ha.1 ha.2.1 ha.2.2
  . intro err herr
    exact herr.mono hxy hm

theorem descend_bind {γ : Type} {f : Unit → Parser γ} {post : γ → Cursor → Prop}
    {toks : List Token} (hc : c.Before toks d limit) (hm : d < m)
    (hpost : ∀ c', d < limit → c'.Before toks (d + 1) limit →
      Satisfies (f ()) c' post (Faulty x m limit)) :
    Satisfies (descend >>= f) c post (Faulty x m limit) := by
  rw [satisfies_bind]
  apply before_descend hc _ hpost
  intro hlimit pos
  exact faulty_tooDeep (Nat.lt_of_le_of_lt hlimit hm) pos

end

variable [HostObject H] {classes : ClassLookup H} {e : Expr H} {ts more : List Token}
  {least calls : Nat}

/--
An expression is read as the leftmost operand of a chain of binary operators, and the parser goes on
with the operators behind it. Errors are those of the whole chain `y`, which takes `m` levels.
-/
def ReadsSpine (classes : ClassLookup H) (e : Expr H) (ts more : List Token)
    (least calls : Nat) : Prop :=
  ∀ c d limit m (y : Eval (Expr H)) (post : Expr H × Nat → Cursor → Prop),
    c.Before (ts ++ more) d limit → d + e.nesting ≤ m →
    (∀ cause, e.fold = .error cause → y = .error cause) →
    (∀ left c' calls', e.fold = .ok left → d + e.nesting ≤ limit →
      16 * more.length + 6 ≤ calls' → c'.Before more (d + e.levels) limit →
        Satisfies (operators classes calls' least left e.levels) c' post (Faulty y m limit)) →
      Satisfies (do let left ← unary classes calls; operators classes calls least left 0) c post
        (Faulty y m limit)

/--
The parsers read an expression on every level of the grammar on which it may stand. A parser that
has entered `k` others before it read something needs `16 * n + 8 - k` calls for `n` tokens.
-/
structure Understood (classes : ClassLookup H) (e : Expr H) (ts : List Token) : Prop where
  expression : ∀ more calls, Closes more → 16 * (ts ++ more).length + 8 ≤ calls →
    Reads (expression classes calls) e.fold e.nesting ts more
  spine : 0 < e.level → ∀ least more calls, least ≤ e.level → Stops (e.level + 1) more →
    16 * (ts ++ more).length + 6 ≤ calls → ReadsSpine classes e ts more least calls
  unary : 10 ≤ e.level → ∀ more calls, Stops 10 more → 16 * (ts ++ more).length + 6 ≤ calls →
    Reads (unary classes calls) e.fold e.nesting ts more
  postfixed : 11 ≤ e.level → ∀ more calls, Stops 10 more → 16 * (ts ++ more).length + 5 ≤ calls →
    Reads (postfixed classes calls) e.fold e.nesting ts more
  primary : 12 ≤ e.level → ∀ more calls, ¬ Begins Continues more →
    16 * (ts ++ more).length + 4 ≤ calls → Reads (primary classes calls) e.fold e.nesting ts more

theorem spine_of_unary (hlevels : e.levels = 0) (hcalls : 16 * more.length + 6 ≤ calls)
    (h : Reads (unary classes calls) e.fold e.nesting ts more) :
    ReadsSpine classes e ts more least calls := by
  intro c d limit m y post hc hm hy hpost
  rw [hlevels] at hpost
  apply h.bind hc hm hy
  intro left c' hleft hn hc'
  exact hpost left c' calls hleft hn hcalls hc'

theorem binary_succ :
    binary classes (calls + 1) least
      = (do let left ← unary classes calls; operators classes calls least left 0) >>= fun r => do
          ascendBy r.2
          return r.1 := by
  rw [binary, bind_assoc]

theorem binary_of_spine (h : ReadsSpine classes e ts more least calls) (hstops : Stops least more) :
    Reads (binary classes (calls + 1) least) e.fold e.nesting ts more := by
  intro c d limit hc
  rw [binary_succ, satisfies_bind]
  apply h c d limit _ _ _ hc (Nat.le_refl _) (fun _ hcause => hcause)
  intro left c' calls' hleft hn hcalls' hc'
  have hdone : Satisfies (do ascendBy e.levels; return left) c'.skipBlanks
      (fun a c' => e.fold = .ok a ∧ d + e.nesting ≤ limit ∧ c'.Before more d limit)
      (Faulty e.fold (d + e.nesting) limit) := by
    rw [satisfies_bind, satisfies_ascendBy, satisfies_pure]
    exact ⟨hleft, hn, before_ascendBy hc'.skipBlanks⟩
  obtain ⟨calls', rfl, _⟩ := exists_succ hcalls'
  rw [operators, satisfies_bind]
  apply before_peekBinaryOp_of_stops hc' hstops
  intro found hfound
  -- There is no operator, or it does not bind tightly enough.
  split
  . exact hdone
  . next op width =>
    rw [if_pos (hfound op width rfl)]
    exact hdone

theorem expression_of_binary (h : Reads (binary classes calls 0) e.fold e.nesting ts more)
    (hcloses : Closes more) : Reads (expression classes (calls + 1)) e.fold e.nesting ts more := by
  intro c d limit hc
  rw [expression]
  apply h.bind hc (Nat.le_refl _) (fun _ hcause => hcause)
  intro r c' hr hn hc'
  rw [satisfies_bind, satisfies_nextSignificant, if_pos]
  . exact ⟨hr, hn, hc'.skipBlanks⟩
  . rw [bne_iff_ne]
    intro hpeek
    exact hcloses.not_begins (begins_of_peek hc' hpeek)

theorem unary_of_postfixed (hbegins : Begins (Symbol.isStart · = true) ts)
    (h : Reads (postfixed classes calls) e.fold e.nesting ts more) :
    Reads (unary classes (calls + 1)) e.fold e.nesting ts more := by
  intro c d limit hc
  -- No primary expression begins with a prefix operator.
  obtain ⟨first, hpeek, hfirst⟩ := peek_of_begins hc (hbegins.append more)
  have hneg : first ≠ '-' := by
    rintro rfl
    revert hfirst
    decide
  have hnot : first ≠ '!' := by
    rintro rfl
    revert hfirst
    decide
  rw [unary, peekUnaryOp, satisfies_bind, satisfies_bind, satisfies_nextSignificant, satisfies_bind,
    satisfies_peekAt, hpeek, if_neg (by simpa using hneg), if_neg (by simp [hnot]), satisfies_pure]
  exact h _ d limit hc.skipBlanks

theorem postfixed_of_primary (hstops : Stops 10 more)
    (h : Reads (primary classes (calls + 1)) e.fold e.nesting ts more) :
    Reads (postfixed classes (calls + 1 + 1)) e.fold e.nesting ts more := by
  intro c d limit hc
  rw [postfixed]
  apply h.bind hc (Nat.le_refl _) (fun _ hcause => hcause)
  intro base c' hbase hn hc'
  rw [steps, satisfies_bind, satisfies_bind, satisfies_nextSignificant]
  split
  . next hpeek => exact absurd (begins_of_peek hc' hpeek) (hstops.not_begins (by decide))
  . next hpeek => exact absurd (begins_of_peek hc' hpeek) (hstops.not_begins (by decide))
  . exact ⟨hbase, hn, hc'.skipBlanks⟩

theorem Understood.binary (h : Understood classes e ts) (hlevel : 0 < e.level)
    (hleast : least ≤ e.level) (hstops : Stops least more)
    (hcalls : 16 * (ts ++ more).length + 7 ≤ calls) :
    Reads (Parser.binary classes calls least) e.fold e.nesting ts more := by
  obtain ⟨calls, rfl, hcalls₁⟩ := exists_succ hcalls
  apply binary_of_spine _ hstops
  exact h.spine hlevel least more calls hleast (hstops.mono (by omega)) hcalls₁

theorem understood_of_spine (hlevel : 0 < e.level) (hlt : e.level < 10)
    (h : ∀ least more calls, least ≤ e.level → Stops (e.level + 1) more →
      16 * (ts ++ more).length + 6 ≤ calls → ReadsSpine classes e ts more least calls) :
    Understood classes e ts where
  expression := by
    intro more calls hcloses hcalls
    obtain ⟨calls, rfl, hcalls₁⟩ := exists_succ hcalls
    obtain ⟨calls, rfl, hcalls₂⟩ := exists_succ hcalls₁
    apply expression_of_binary _ hcloses
    apply binary_of_spine _ (hcloses.stops 0)
    exact h 0 more calls (Nat.zero_le _) (hcloses.stops _) hcalls₂
  spine := fun _ => h
  unary := by omega
  postfixed := by omega
  primary := by omega

theorem understood_of_unary (hlevel : 10 ≤ e.level) (h : ∀ more calls, Stops 10 more →
      16 * (ts ++ more).length + 6 ≤ calls → Reads (unary classes calls) e.fold e.nesting ts more)
    (hpostfixed : 11 ≤ e.level → ∀ more calls, Stops 10 more →
      16 * (ts ++ more).length + 5 ≤ calls →
        Reads (postfixed classes calls) e.fold e.nesting ts more)
    (hprimary : 12 ≤ e.level → ∀ more calls, ¬ Begins Continues more →
      16 * (ts ++ more).length + 4 ≤ calls →
        Reads (primary classes calls) e.fold e.nesting ts more) :
    Understood classes e ts := by
  have hspine (least : Nat) (more : List Token) (calls : Nat) (hstops : Stops (e.level + 1) more)
      (hcalls : 16 * (ts ++ more).length + 6 ≤ calls) :
      ReadsSpine classes e ts more least calls := by
    apply spine_of_unary (Expr.levels_of_level hlevel) _ (h more calls hstops.ten hcalls)
    rw [List.length_append] at hcalls
    omega
  constructor
  case expression =>
    intro more calls hcloses hcalls
    obtain ⟨calls, rfl, hcalls₁⟩ := exists_succ hcalls
    obtain ⟨calls, rfl, hcalls₂⟩ := exists_succ hcalls₁
    apply expression_of_binary _ hcloses
    apply binary_of_spine _ (hcloses.stops 0)
    exact hspine 0 more calls (hcloses.stops _) hcalls₂
  case spine => exact fun _ least more calls _ => hspine least more calls
  case unary => exact fun _ => h
  case postfixed => exact hpostfixed
  case primary => exact hprimary

theorem understood_of_postfixed (hlevel : 11 ≤ e.level)
    (hbegins : Begins (Symbol.isStart · = true) ts)
    (h : ∀ more calls, Stops 10 more → 16 * (ts ++ more).length + 5 ≤ calls →
      Reads (postfixed classes calls) e.fold e.nesting ts more)
    (hprimary : 12 ≤ e.level → ∀ more calls, ¬ Begins Continues more →
      16 * (ts ++ more).length + 4 ≤ calls →
        Reads (primary classes calls) e.fold e.nesting ts more) :
    Understood classes e ts := by
  apply understood_of_unary (by omega) _ (fun _ => h) hprimary
  intro more calls hstops hcalls
  obtain ⟨calls, rfl, hcalls₁⟩ := exists_succ hcalls
  exact unary_of_postfixed hbegins (h more calls hstops hcalls₁)

theorem understood_of_primary (hlevel : 12 ≤ e.level)
    (hbegins : Begins (Symbol.isStart · = true) ts)
    (h : ∀ more calls, ¬ Begins Continues more → 16 * (ts ++ more).length + 4 ≤ calls →
      Reads (primary classes calls) e.fold e.nesting ts more) :
    Understood classes e ts := by
  apply understood_of_postfixed (by omega) hbegins _ (fun _ => h)
  intro more calls hstops hcalls
  obtain ⟨calls, rfl, hcalls₁⟩ := exists_succ hcalls
  obtain ⟨calls, rfl, _⟩ := exists_succ hcalls₁
  exact postfixed_of_primary hstops (h more _ hstops.not_continues hcalls₁)

theorem spine_binary {op : BinaryOp} {left right : Expr H} {ts' : List Token}
    (hleast : least ≤ op.precedence)
    (hleft : ReadsSpine classes left ts (op.symbol.toList :: (ts' ++ more)) least calls)
    (hright : ∀ calls, 16 * (ts' ++ more).length + 7 ≤ calls →
      Reads (binary classes calls (op.precedence + 1)) right.fold right.nesting ts' more) :
    ReadsSpine classes (.binary op left right) (ts ++ op.symbol.toList :: ts') more least calls := by
  intro c d limit m y post hc hm hy hpost
  have hnesting : (Expr.binary op left right).nesting
      = max (max left.nesting (left.levels + right.nesting)) (Expr.binary op left right).levels := by
    rw [Expr.nesting]
  rw [List.append_assoc, List.cons_append] at hc
  apply hleft c d limit m y post hc (by omega)
    (fun cause hcause => hy cause (by simp [Expr.fold, hcause]))
  intro l c₁ calls' hl hn hcalls' hc₁
  obtain ⟨calls', rfl, hcalls₁⟩ := exists_succ hcalls'
  rw [operators, satisfies_bind]
  apply before_peekBinaryOp hc₁
  dsimp only
  rw [if_neg (by omega), satisfies_bind, satisfies_position, satisfies_bind]
  apply before_advanceBy hc₁.at
  intro c₂ hc₂
  have hcalls : 16 * (ts' ++ more).length + 7 ≤ calls' := by
    rw [List.length_cons] at hcalls₁
    omega
  have hmore : 16 * more.length + 6 ≤ calls' := by
    rw [List.length_append] at hcalls
    omega
  apply (hright calls' hcalls).bind hc₂ (by omega)
    (fun cause hcause => hy cause (by simp [Expr.fold, hl, hcause]))
  intro r c₃ hr hn' hc₃
  have hfold : (Expr.binary op left right).fold = Expr.foldBinary op l r := by
    simp [Expr.fold, hl, hr]
  rw [satisfies_bind, satisfies_folded, ← hfold]
  constructor
  . intro t ht
    have hcount : (Expr.binary op left right).levels
        = if t.isConst = true then left.levels else left.levels + 1 := by
      rw [Expr.levels, ht]
    rw [satisfies_ite]
    -- Only an operator that is not folded takes a level of its own.
    split
    . next hconst =>
      rw [if_pos hconst] at hcount
      have := left.levels_le_nesting
      rw [← hcount] at hc₃ ⊢
      exact hpost t c₃ calls' ht (by omega) hmore hc₃
    . next hconst =>
      rw [if_neg hconst] at hcount
      apply descend_bind hc₃ (by omega)
      intro c₄ hlimit hc₄
      rw [Nat.add_assoc, ← hcount] at hc₄
      rw [← hcount]
      exact hpost t c₄ calls' ht (by omega) hmore hc₄
  . intro cause hcause
    exact faulty_constantFold (hy cause hcause) _

end Parser

end Stencil
