import Stencil.Proofs.Parser.Derivation
import Stencil.Proofs.Parser.Progress
import Stencil.Proofs.Parser.Scanning

/-!
This module contains the induction over the calls of the parser of expressions that shows that it
accepts nothing but what the grammar derives: every parser reads the tokens of a phrase, gives the
folded phrase, and is back on the level on which it started, with room for the levels of the phrase.
-/

namespace Stencil

variable {H : Type}

namespace Cursor

def NextBelow (least : Nat) (c : Cursor) : Prop :=
  ∀ op width, Parser.binaryOp? c.skipBlanks.peek (c.skipBlanks.peekAt 1) = some (op, width) →
    op.precedence < least

theorem nextBelow_eleven (c : Cursor) : c.NextBelow 11 :=
  fun op _ _ => Nat.lt_succ_of_lt (Parser.precedence_lt op)

theorem NextBelow.of_rest {least : Nat} {c c' : Cursor} (h : c.NextBelow least)
    (hrest : c'.rest = c.rest) : c'.NextBelow least := by
  intro op width hop
  apply h op width
  simpa [peek, peekAt, Cursor.skipBlanks, Cursor.after, hrest] using hop

end Cursor

namespace Parser

open Cursor

variable {α : Type} {c : Cursor}

/--
If the parser succeeds at the cursor, its result is `good` together with the tokens that it has read
and with the number of levels that they need.
-/
def Accepts (parser : Parser α) (good : α → List Token → Nat → Prop) (c : Cursor) : Prop :=
  c.depth ≤ c.maxDepth →
    Satisfies parser c (fun a c' => ∃ ts n, good a ts n ∧ c.depth + n ≤ c.maxDepth
      ∧ c'.Behind ts c.rest c.depth c.maxDepth) (fun _ => True)

variable {parser : Parser α} {good : α → List Token → Nat → Prop} {post : α → Cursor → Prop}

theorem Accepts.intro
    (h : ∀ d limit, c.Behind [] c.rest d limit →
      Satisfies parser c (fun a c' => ∃ ts n, good a ts n ∧ d + n ≤ limit
        ∧ c'.Behind ts c.rest d limit) (fun _ => True)) : Accepts parser good c :=
  fun hdepth => h c.depth c.maxDepth ⟨Scans.refl c.rest, rfl, rfl, hdepth⟩

theorem Accepts.rule {toks : List Token} {text : List Char} {d limit : Nat}
    (h : Accepts parser good c) (hc : c.Behind toks text d limit)
    (hpost : ∀ a ts n c', good a ts n → d + n ≤ limit → c'.Behind (toks ++ ts) text d limit →
      post a c') :
    Satisfies parser c post (fun _ => True) := by
  obtain ⟨hscans, rfl, rfl, hdepth⟩ := hc
  apply (h hdepth).mono
  . rintro a c' ⟨ts, n, hgood, hn, hc'⟩
    exact hpost a ts n c' hgood hn
      ⟨hscans.append hc'.scans, hc'.depth_eq, hc'.maxDepth_eq, hc'.depth_le⟩
  . exact fun _ _ => trivial

theorem accepts_exhausted : Accepts exhausted good c := by
  intro _
  rw [satisfies_exhausted]
  trivial

theorem satisfies_bind_of_forall {β : Type} {first : Parser β} {next : β → Parser α}
    (h : ∀ b c', Satisfies (next b) c' post (fun _ => True)) :
    Satisfies (first >>= next) c post (fun _ => True) := by
  rw [satisfies_bind]
  unfold Satisfies
  split
  . exact h _ _
  . trivial

theorem Satisfies.and {post' : α → Cursor → Prop} (h : Satisfies parser c post (fun _ => True))
    (h' : Satisfies parser c post' (fun _ => True)) :
    Satisfies parser c (fun a c' => post a c' ∧ post' a c') (fun _ => True) := by
  unfold Satisfies at *
  split
  . next heq =>
    rw [heq] at h h'
    exact ⟨h, h'⟩
  . trivial

variable [HostObject H] {classes : ClassLookup H}

theorem precedence_pos (op : BinaryOp) : 0 < op.precedence := by
  cases op <;> decide

-- The operators that a chain of operands does not go on with are left behind it.

theorem nextBelow_operators (calls least : Nat) (left : Expr H) (levels : Nat) (c : Cursor) :
    Satisfies (operators classes calls least left levels) c (fun _ c' => c'.NextBelow least)
      (fun _ => True) := by
  induction calls generalizing left levels c with
  | zero =>
    rw [operators, satisfies_exhausted]
    trivial
  | succ calls ih =>
    rw [operators, peekBinaryOp, satisfies_bind, satisfies_bind, satisfies_nextSignificant,
      satisfies_bind, satisfies_peekAt, satisfies_pure]
    split
    . next hnone =>
      intro op width hop
      rw [skipBlanks_skipBlanks, hnone] at hop
      cases hop
    . next op width hop =>
      rw [satisfies_ite]
      split
      . next hlt =>
        intro op' width' hop'
        rw [skipBlanks_skipBlanks, hop] at hop'
        cases hop'
        exact hlt
      . apply satisfies_bind_of_forall
        intro _ _
        apply satisfies_bind_of_forall
        intro _ _
        apply satisfies_bind_of_forall
        intro _ _
        apply satisfies_bind_of_forall
        intro e _
        rw [satisfies_ite]
        split
        . exact ih e levels _
        . apply satisfies_bind_of_forall
          intro _ _
          exact ih e (levels + 1) _

theorem nextBelow_binary (calls least : Nat) (c : Cursor) :
    Satisfies (binary classes calls least) c (fun _ c' => c'.NextBelow least) (fun _ => True) := by
  cases calls with
  | zero =>
    rw [binary, satisfies_exhausted]
    trivial
  | succ calls =>
    rw [binary]
    apply satisfies_bind_of_forall
    intro left c'
    rw [satisfies_bind]
    exact nextBelow_operators calls least left 0 c'

structure Sound (classes : ClassLookup H) (calls : Nat) : Prop where
  expression : ∀ c, Accepts (expression classes calls) (Derives classes 0) c
  binary : ∀ least ≤ 10, ∀ c,
    Accepts (binary classes calls least) (Derives classes (max 1 least)) c
  operators : ∀ least least' left levels c ts n text d limit,
    DerivesSpine classes least' left ts levels n → max 1 least ≤ least' →
    c.NextBelow (least' + 1) → d + n ≤ limit → c.Behind ts text (d + levels) limit →
      Satisfies (operators classes calls least left levels) c
        (fun r c' => ∃ ts n, DerivesSpine classes (max 1 least) r.1 ts r.2 n ∧ d + n ≤ limit
          ∧ c'.Behind ts text (d + r.2) limit) (fun _ => True)
  unary : ∀ c, Accepts (unary classes calls) (Derives classes 10) c
  postfixed : ∀ c, Accepts (postfixed classes calls) (Derives classes 11) c
  primary : ∀ c, Accepts (primary classes calls) (Derives classes 12) c
  group : ∀ c, c.peek = some '(' → Accepts (group classes calls) (Derives classes 12) c
  array : ∀ c, c.peek = some '[' → Accepts (array classes calls) (Derives classes 12) c
  arguments : ∀ c, c.peek = some '(' →
    Accepts (arguments classes calls) (DerivesArguments classes) c
  sequence : ∀ close ∈ marks, ∀ start construct c,
    Accepts (sequence classes calls close start construct)
      (fun rs ts n => ∃ ts', ts = ts' ++ [[close]] ∧ DerivesItems classes rs ts' n) c
  items : ∀ close ∈ marks, ∀ start construct c,
    Accepts (items classes calls close start construct)
      (fun rs ts n => rs ≠ [] ∧ ∃ ts', ts = ts' ++ [[close]] ∧ DerivesItems classes rs ts' n) c
  map : ∀ c, c.peek = some '\x7b' → Accepts (map classes calls) (Derives classes 12) c
  entries : ∀ start c, Accepts (entries classes calls start)
    (fun rs ts n => rs ≠ [] ∧ ∃ ts', ts = ts' ++ [['\x7d']] ∧ DerivesEntries classes rs ts' n) c
  mapKey : ∀ c, Accepts (mapKey classes calls) (DerivesKey classes) c
  staticAccess : ∀ c, c.peek = some '@' → Accepts (staticAccess classes calls)
    (fun r ts n => r.isValuer = true → Derives classes 12 r ts n) c
  steps : ∀ c, Accepts (steps classes calls) (DerivesSteps classes) c

section

variable {calls : Nat} (ih : Sound classes calls)

include ih

theorem accepts_expression : Accepts (expression classes (calls + 1)) (Derives classes 0) c := by
  apply Accepts.intro
  intro d limit hc
  rw [expression, satisfies_bind]
  apply (ih.binary 0 (by omega) c).rule hc
  intro cond ts n c₁ hcond hn hc₁
  rw [satisfies_bind, satisfies_nextSignificant, satisfies_ite]
  split
  . exact ⟨ts, n, hcond.mono (Nat.zero_le _), hn, hc₁.skipBlanks⟩
  . next hmark =>
    have hmark : c₁.skipBlanks.peek = some '?' := by simpa using hmark
    rw [satisfies_bind, satisfies_position, satisfies_bind]
    apply behind_advance hc₁.skipBlanks hmark (by decide)
    intro c₂ hc₂
    rw [satisfies_bind]
    apply behind_descend hc₂
    intro c₃ _ hc₃
    rw [satisfies_bind]
    apply (ih.expression c₃).rule hc₃
    intro yes ts' n' c₄ hyes hn' hc₄
    rw [satisfies_bind]
    apply behind_expect hc₄ (by decide)
    intro c₅ hc₅
    rw [satisfies_bind]
    apply (ih.expression c₅).rule hc₅
    intro no ts'' n'' c₆ hno hn'' hc₆
    rw [satisfies_bind, satisfies_ascend, satisfies_folded]
    refine ⟨fun e he => ⟨_, _, hcond.ternary hyes hno he, by omega, ?_⟩, fun _ _ => trivial⟩
    simpa using hc₆.ascendBy

theorem accepts_binary {least : Nat} (hleast : least ≤ 10) :
    Accepts (binary classes (calls + 1) least) (Derives classes (max 1 least)) c := by
  apply Accepts.intro
  intro d limit hc
  rw [binary, satisfies_bind]
  apply (ih.unary c).rule hc
  intro left ts n c₁ hleft hn hc₁
  rw [satisfies_bind]
  apply (ih.operators least 10 left 0 c₁ ts n c.rest d limit hleft.spine (by omega)
    (nextBelow_eleven c₁) hn hc₁).mono
  . rintro ⟨e, levels⟩ c₂ ⟨ts, n, he, hn, hc₂⟩
    exact ⟨ts, n, he.derives, hn, hc₂.ascendBy⟩
  . exact fun _ _ => trivial

theorem behind_operators {least least' levels n d limit : Nat} {left : Expr H} {ts : List Token}
    {text : List Char} (hleft : DerivesSpine classes least' left ts levels n)
    (hleast : max 1 least ≤ least') (hnext : c.NextBelow (least' + 1)) (hn : d + n ≤ limit)
    (hc : c.Behind ts text (d + levels) limit) :
    Satisfies (operators classes (calls + 1) least left levels) c
      (fun r c' => ∃ ts n, DerivesSpine classes (max 1 least) r.1 ts r.2 n ∧ d + n ≤ limit
        ∧ c'.Behind ts text (d + r.2) limit) (fun _ => True) := by
  rw [operators, peekBinaryOp, satisfies_bind, satisfies_bind, satisfies_nextSignificant,
    satisfies_bind, satisfies_peekAt, satisfies_pure]
  have hdone : ∃ ts n, DerivesSpine classes (max 1 least) left ts levels n ∧ d + n ≤ limit
      ∧ c.skipBlanks.Behind ts text (d + levels) limit :=
    ⟨ts, n, hleft.mono hleast, hn, hc.skipBlanks⟩
  split
  . exact hdone
  . next op width hop =>
    rw [satisfies_ite]
    split
    . exact hdone
    . next hge =>
      have hprecedence := hnext op width hop
      have hpos := precedence_pos op
      have hten := precedence_lt op
      rw [satisfies_bind, satisfies_position, satisfies_bind]
      apply behind_binaryOp hc.skipBlanks hop
      intro c₁ hc₁
      rw [satisfies_bind]
      have hread : Satisfies (binary classes calls (op.precedence + 1)) c₁ (fun right c' => ∃ ts' n',
          Derives classes (op.precedence + 1) right ts' n' ∧ d + levels + n' ≤ limit
            ∧ c'.Behind (ts ++ op.symbol.toList :: ts') text (d + levels) limit)
          (fun _ => True) := by
        apply (ih.binary (op.precedence + 1) (by omega) c₁).rule hc₁
        intro right ts' n' c' hright hn' hc'
        refine ⟨ts', n', hright.mono (by omega), hn', ?_⟩
        simpa using hc'
      apply (hread.and (nextBelow_binary calls _ c₁)).mono _ (fun _ _ => trivial)
      rintro right c₂ ⟨⟨ts', n', hright, hn', hc₂⟩, hnext'⟩
      rw [satisfies_bind, satisfies_folded]
      refine ⟨fun e he => ?_, fun _ _ => trivial⟩
      rw [satisfies_ite]
      split
      . next hconst =>
        exact ih.operators least op.precedence e levels c₂ _ _ text d limit
          (hleft.binary (by omega) hright he (if_pos hconst).symm) (by omega) hnext' (by omega) hc₂
      . next hconst =>
        rw [satisfies_bind]
        apply behind_descend hc₂
        intro c₃ hrest hc₃
        apply ih.operators least op.precedence e (levels + 1) c₃ _ _ text d limit
          (hleft.binary (by omega) hright he (if_neg hconst).symm) (by omega)
          (hnext'.of_rest hrest) _ hc₃
        have := hc₃.depth_le
        omega

theorem accepts_unary : Accepts (unary classes (calls + 1)) (Derives classes 10) c := by
  apply Accepts.intro
  intro d limit hc
  rw [unary, peekUnaryOp, satisfies_bind, satisfies_bind, satisfies_nextSignificant, satisfies_bind,
    satisfies_peekAt]
  -- The operator that is read, and the character that it is.
  have hprefix (op : UnaryOp) (ch : Char) (hch : c.skipBlanks.peek = some ch)
      (hsymbol : op.symbol.toList = [ch])
      (hnext : op = .not → c.skipBlanks.peekAt 1 ≠ some '=') :
      Satisfies (do
        let pos ← position
        let _ ← advance
        descend
        let operand ← Parser.unary classes calls
        ascend
        folded pos (Expr.foldUnary op operand)) c.skipBlanks
        (fun e c' => ∃ ts n, Derives classes 10 e ts n ∧ d + n ≤ limit
          ∧ c'.Behind ts c.rest d limit) (fun _ => True) := by
    rw [satisfies_bind, satisfies_position, satisfies_bind]
    apply behind_unaryOp hc.skipBlanks hch hsymbol hnext
    intro c₁ hc₁
    rw [satisfies_bind]
    apply behind_descend hc₁
    intro c₂ _ hc₂
    rw [satisfies_bind]
    apply (ih.unary c₂).rule hc₂
    intro operand ts n c₃ hoperand hn hc₃
    rw [satisfies_bind, satisfies_ascend, satisfies_folded]
    exact ⟨fun e he => ⟨_, _, hoperand.unary he, by omega, hc₃.ascendBy⟩, fun _ _ => trivial⟩
  rw [satisfies_ite]
  split
  . next h =>
    apply hprefix .neg '-' (by simpa using h) rfl
    intro h
    cases h
  . rw [satisfies_ite]
    split
    . next h =>
      simp only [Bool.and_eq_true, beq_iff_eq, bne_iff_ne] at h
      exact hprefix .not '!' h.1 rfl fun _ => h.2
    . apply (ih.postfixed c.skipBlanks).rule hc.skipBlanks
      intro e ts n c₁ he hn hc₁
      exact ⟨ts, n, he.mono (by omega), hn, hc₁⟩

theorem accepts_postfixed : Accepts (postfixed classes (calls + 1)) (Derives classes 11) c := by
  apply Accepts.intro
  intro d limit hc
  rw [postfixed, satisfies_bind]
  apply (ih.primary c).rule hc
  intro base ts n c₁ hbase hn hc₁
  rw [satisfies_bind]
  apply (ih.steps c₁).rule hc₁
  intro steps ts' n' c₂ hsteps hn' hc₂
  split
  . obtain rfl := hsteps.tokens_nil
    rw [List.append_nil] at hc₂
    exact ⟨ts, n, hbase.mono (by omega), hn, hc₂⟩
  . next hne =>
    exact ⟨_, _, hbase.chain hsteps hne, by omega, hc₂⟩

theorem accepts_primary : Accepts (primary classes (calls + 1)) (Derives classes 12) c := by
  apply Accepts.intro
  intro d limit hc
  rw [primary, satisfies_bind, satisfies_position, satisfies_bind, satisfies_classifyNext]
  have hvaluer (e : Expr H) (ts : List Token) (n : Nat) (c' : Cursor)
      (he : e.isValuer = true → Derives classes 12 e ts n) (hn : d + n ≤ limit)
      (hc' : c'.Behind ts c.rest d limit) :
      Satisfies (if e.isValuer = true then pure e else failAt c.pos .notAValue) c'
        (fun e c' => ∃ ts n, Derives classes 12 e ts n ∧ d + n ≤ limit
          ∧ c'.Behind ts c.rest d limit) (fun _ => True) := by
    rw [satisfies_ite]
    split
    . next h => exact ⟨ts, n, he h, hn, hc'⟩
    . trivial
  have hconst (v : Value H) (tok : Token) (c' : Cursor) (hv : Lexeme v tok)
      (hc' : c'.Behind ([] ++ [tok]) c.rest d limit) :=
    hvaluer (.const v) [tok] 0 c' (fun _ => Derives.const hv) hc.depth_le hc'
  dsimp only
  split
  . next h =>
    obtain ⟨ch, hpeek, rfl⟩ := describes_of_peek h
    rw [satisfies_bind]
    apply (ih.group _ hpeek).rule hc.skipBlanks
    exact fun e ts n c₁ he => hvaluer e ts n c₁ fun _ => he
  . next h =>
    obtain ⟨ch, hpeek, rfl⟩ := describes_of_peek h
    rw [satisfies_bind]
    apply (ih.array _ hpeek).rule hc.skipBlanks
    exact fun e ts n c₁ he => hvaluer e ts n c₁ fun _ => he
  . next h =>
    obtain ⟨ch, hpeek, rfl⟩ := describes_of_peek h
    rw [satisfies_bind]
    apply (ih.map _ hpeek).rule hc.skipBlanks
    exact fun e ts n c₁ he => hvaluer e ts n c₁ fun _ => he
  . next h =>
    obtain ⟨ch, hpeek, rfl⟩ := describes_of_peek h
    rw [satisfies_bind]
    apply (ih.staticAccess _ hpeek).rule hc.skipBlanks
    exact hvaluer
  . next h =>
    obtain ⟨ch, hpeek, hch⟩ := describes_of_peek h
    rw [satisfies_bind]
    exact behind_stringLiteral hc.skipBlanks hpeek hch hconst
  . next h =>
    obtain ⟨ch, hpeek, hch⟩ := describes_of_peek h
    rw [satisfies_bind]
    exact behind_number hc.skipBlanks hpeek hch hconst
  . next h =>
    obtain ⟨ch, hpeek, hch⟩ := describes_of_peek h
    rw [satisfies_bind]
    apply behind_variableOrKeyword hc.skipBlanks hpeek hch hconst
    intro name c₁ hname hkeyword hc₁
    exact hvaluer _ _ _ c₁ (fun _ => Derives.var hname hkeyword) hc.depth_le hc₁
  . rw [satisfies_bind, satisfies_unexpected]
    trivial

theorem accepts_group (hpeek : c.peek = some '(') :
    Accepts (group classes (calls + 1)) (Derives classes 12) c := by
  apply Accepts.intro
  intro d limit hc
  rw [group, satisfies_bind, satisfies_position]
  apply behind_open hc hpeek (by decide)
  intro c₁ hc₁
  rw [satisfies_bind]
  apply (ih.expression c₁).rule hc₁
  intro inner ts n c₂ hinner hn hc₂
  rw [satisfies_bind]
  apply behind_closing hc₂ (by decide)
  intro c₃ hc₃
  rw [satisfies_bind, satisfies_ascend]
  exact ⟨_, _, hinner.group, by omega, hc₃.ascendBy⟩

theorem accepts_array (hpeek : c.peek = some '[') :
    Accepts (array classes (calls + 1)) (Derives classes 12) c := by
  apply Accepts.intro
  intro d limit hc
  rw [array, satisfies_bind, satisfies_position]
  apply behind_open hc hpeek (by decide)
  intro c₁ hc₁
  rw [satisfies_bind]
  apply (ih.sequence ']' (by decide) _ .array c₁).rule hc₁
  rintro items _ n c₂ ⟨ts, rfl, hitems⟩ hn hc₂
  rw [satisfies_bind, satisfies_ascend]
  refine ⟨_, _, Derives.array hitems, by omega, ?_⟩
  simpa using hc₂.ascendBy

theorem accepts_arguments (hpeek : c.peek = some '(') :
    Accepts (arguments classes (calls + 1)) (DerivesArguments classes) c := by
  apply Accepts.intro
  intro d limit hc
  rw [arguments, satisfies_bind, satisfies_position]
  apply behind_open hc hpeek (by decide)
  intro c₁ hc₁
  rw [satisfies_bind]
  apply (ih.sequence ')' (by decide) _ .arguments c₁).rule hc₁
  rintro items _ n c₂ ⟨ts, rfl, hitems⟩ hn hc₂
  rw [satisfies_bind, satisfies_ascend]
  refine ⟨_, _, ⟨ts, n, rfl, rfl, hitems⟩, by omega, ?_⟩
  simpa using hc₂.ascendBy

variable {start : Nat} {close : Char} {construct : Construct}

theorem accepts_sequence (hclose : close ∈ marks) :
    Accepts (sequence classes (calls + 1) close start construct)
      (fun rs ts n => ∃ ts', ts = ts' ++ [[close]] ∧ DerivesItems classes rs ts' n) c := by
  apply Accepts.intro
  intro d limit hc
  rw [sequence, satisfies_bind, satisfies_nextSignificant, satisfies_ite]
  split
  . next h =>
    rw [satisfies_bind]
    apply behind_advance hc.skipBlanks (by simpa using h) hclose
    exact fun c₁ hc₁ => ⟨[[close]], 0, ⟨[], rfl, DerivesItems.nil⟩, hc.depth_le, hc₁⟩
  . apply (ih.items close hclose start construct _).rule hc.skipBlanks
    rintro rs ts n c₁ ⟨_, hrs⟩ hn hc₁
    exact ⟨ts, n, hrs, hn, hc₁⟩

theorem accepts_items (hclose : close ∈ marks) :
    Accepts (items classes (calls + 1) close start construct)
      (fun rs ts n => rs ≠ [] ∧ ∃ ts', ts = ts' ++ [[close]] ∧ DerivesItems classes rs ts' n) c := by
  apply Accepts.intro
  intro d limit hc
  rw [items, satisfies_bind]
  apply (ih.expression c).rule hc
  intro item ts n c₁ hitem hn hc₁
  rw [satisfies_bind, satisfies_nextSignificant]
  split
  . trivial
  . next ch hpeek =>
    rw [satisfies_ite]
    split
    . next hcomma =>
      obtain rfl : ch = ',' := by simpa using hcomma
      rw [satisfies_bind]
      apply behind_advance hc₁.skipBlanks hpeek (by decide)
      intro c₂ hc₂
      rw [satisfies_bind]
      apply (ih.items close hclose start construct c₂).rule hc₂
      rintro rs _ n' c₃ ⟨hne, ts', rfl, hrs⟩ hn' hc₃
      refine ⟨_, _, ⟨List.cons_ne_nil _ _, _, rfl, .cons hitem hrs hne⟩, by omega, ?_⟩
      simpa using hc₃
    . rw [satisfies_ite]
      split
      . next hend =>
        obtain rfl : ch = close := by simpa using hend
        rw [satisfies_bind]
        apply behind_advance hc₁.skipBlanks hpeek hclose
        intro c₂ hc₂
        exact ⟨_, n, ⟨List.cons_ne_nil _ _, ts, rfl, .last hitem⟩, hn, hc₂⟩
      . trivial

theorem accepts_map (hpeek : c.peek = some '\x7b') :
    Accepts (map classes (calls + 1)) (Derives classes 12) c := by
  apply Accepts.intro
  intro d limit hc
  rw [map, satisfies_bind, satisfies_position]
  apply behind_open hc hpeek (by decide)
  intro c₁ hc₁
  rw [satisfies_bind, satisfies_nextSignificant]
  have hdone (entries : List (Expr H × Expr H)) (ts : List Token) (n : Nat) (c' : Cursor)
      (hmap : Derives classes 12 (.map entries) ts n) (hn : d + n ≤ limit)
      (hc' : c'.Behind ts c.rest (d + 1) limit) :
      Satisfies (do ascend; return Expr.map entries : Parser (Expr H)) c'
        (fun e c' => ∃ ts n, Derives classes 12 e ts n ∧ d + n ≤ limit
          ∧ c'.Behind ts c.rest d limit) (fun _ => True) := by
    rw [satisfies_bind, satisfies_ascend]
    exact ⟨ts, n, hmap, hn, hc'.ascendBy⟩
  dsimp only
  split
  . next hclose =>
    rw [satisfies_bind]
    apply behind_advance hc₁.skipBlanks hclose (by decide)
    intro c₂ hc₂
    rw [satisfies_bind, satisfies_pure]
    exact hdone [] _ 1 c₂ (Derives.map DerivesEntries.nil) hc₁.depth_le hc₂
  . next hcolon =>
    rw [satisfies_bind]
    apply behind_advance hc₁.skipBlanks hcolon (by decide)
    intro c₂ hc₂
    rw [satisfies_bind]
    apply behind_closing hc₂ (by decide)
    intro c₃ hc₃
    rw [satisfies_bind, satisfies_pure]
    exact hdone [] _ 1 c₃ Derives.emptyMap hc₁.depth_le hc₃
  . rw [satisfies_bind]
    apply (ih.entries _ _).rule hc₁.skipBlanks
    rintro entries _ n c₂ ⟨_, ts, rfl, hentries⟩ hn hc₂
    apply hdone entries _ _ c₂ (Derives.map hentries) (by omega)
    simpa using hc₂

theorem accepts_entries : Accepts (entries classes (calls + 1) start)
    (fun rs ts n => rs ≠ [] ∧ ∃ ts', ts = ts' ++ [['\x7d']] ∧ DerivesEntries classes rs ts' n) c := by
  apply Accepts.intro
  intro d limit hc
  rw [entries, satisfies_bind]
  apply (ih.mapKey c).rule hc
  intro key ts n c₁ hkey hn hc₁
  rw [satisfies_bind, satisfies_nextSignificant]
  dsimp only
  split
  . next hcolon =>
    rw [satisfies_bind, satisfies_discard]
    apply behind_advance hc₁.skipBlanks hcolon (by decide)
    intro c₂ hc₂
    rw [satisfies_bind, satisfies_nextSignificant]
    split
    . rw [satisfies_ite]
      split
      . rw [satisfies_bind, satisfies_fail]
        trivial
      . rw [satisfies_bind]
        apply (ih.expression _).rule hc₂.skipBlanks
        intro value ts' n' c₃ hvalue hn' hc₃
        rw [satisfies_bind, satisfies_nextSignificant]
        split
        . trivial
        . next ch hpeek =>
          rw [satisfies_ite]
          split
          . next hcomma =>
            obtain rfl : ch = ',' := by simpa using hcomma
            rw [satisfies_bind]
            apply behind_advance hc₃.skipBlanks hpeek (by decide)
            intro c₄ hc₄
            rw [satisfies_bind]
            apply (ih.entries start c₄).rule hc₄
            rintro rs _ n'' c₅ ⟨hne, ts'', rfl, hrs⟩ hn'' hc₅
            refine ⟨_, _, ⟨List.cons_ne_nil _ _, _, rfl, .cons hkey hvalue hrs hne⟩, by omega, ?_⟩
            simpa using hc₅
          . rw [satisfies_ite]
            split
            . next hend =>
              obtain rfl : ch = '\x7d' := by simpa using hend
              rw [satisfies_bind]
              apply behind_advance hc₃.skipBlanks hpeek (by decide)
              intro c₄ hc₄
              refine ⟨_, _, ⟨List.cons_ne_nil _ _, _, rfl, .last hkey hvalue⟩, by omega, ?_⟩
              simpa using hc₄
            . trivial
    . trivial
  . rw [satisfies_bind, satisfies_fail]
    trivial
  . trivial

theorem accepts_mapKey : Accepts (mapKey classes (calls + 1)) (DerivesKey classes) c := by
  apply Accepts.intro
  intro d limit hc
  rw [mapKey, satisfies_bind, satisfies_classifyNext]
  split
  . next h =>
    obtain ⟨ch, hpeek, hch⟩ := describes_of_peek h
    rw [satisfies_bind]
    apply behind_identifier hc.skipBlanks hpeek hch
    intro name c₁ hname hc₁
    exact ⟨_, 0, DerivesKey.name hname, hc.depth_le, hc₁⟩
  . next hother =>
    -- The first token of the key stands at the cursor, and does not begin as names do.
    obtain ⟨hscans, rfl, rfl, hle⟩ := hc.skipBlanks
    apply (ih.postfixed c.skipBlanks hle).mono _ (fun _ _ => trivial)
    rintro e c₁ ⟨ts, n, he, hn, hc₁⟩
    cases ts with
    | nil => exact absurd rfl he.tokens_ne_nil
    | cons tok ts =>
      obtain ⟨first, more, rfl, hfirst⟩ := hc₁.scans.head fun first => head?_dropWhile
      have hstart : Symbol.isIdentStart first = false := by
        rw [Bool.eq_false_iff]
        intro hstart
        apply hother
        rw [Cursor.peek, hfirst, Option.map_some, Symbol.ofChar_of_isIdentStart hstart]
      exact ⟨_, n, DerivesKey.expr hstart he, hn,
        hscans.append hc₁.scans, hc₁.depth_eq, hc₁.maxDepth_eq, hc₁.depth_le⟩

theorem accepts_staticAccess (hpeek : c.peek = some '@') :
    Accepts (staticAccess classes (calls + 1))
      (fun r ts n => r.isValuer = true → Derives classes 12 r ts n) c := by
  apply Accepts.intro
  intro d limit hc
  rw [staticAccess, satisfies_bind]
  apply behind_advance hc hpeek (by decide)
  intro c₁ hc₁
  rw [satisfies_bind, satisfies_nextSignificant, satisfies_bind, satisfies_position, satisfies_bind]
  apply behind_name hc₁.skipBlanks
  intro className c₂ hclass hc₂
  split
  . trivial
  . next cls hcls =>
    rw [satisfies_bind, satisfies_nextSignificant, satisfies_ite]
    split
    . -- A class alone is no value.
      exact ⟨_, 0, fun h => absurd h (by simp [Expr.isValuer]), hc.depth_le, hc₂.skipBlanks⟩
    . next hpoint =>
      have hpoint : c₂.skipBlanks.peek = some '.' := by simpa using hpoint
      rw [satisfies_bind]
      apply behind_advance hc₂.skipBlanks hpoint (by decide)
      intro c₃ hc₃
      rw [satisfies_bind]
      apply behind_name hc₃
      intro member c₄ hmember hc₄
      rw [satisfies_bind, satisfies_nextSignificant, satisfies_ite]
      split
      . next hparen =>
        rw [satisfies_bind]
        apply (ih.arguments _ (by simpa using hparen)).rule hc₄.skipBlanks
        intro args ts n c₅ hargs hn hc₅
        refine ⟨_, n, fun _ => Derives.staticCall hclass hcls hmember hargs, hn, ?_⟩
        simpa using hc₅
      . exact ⟨_, 0, fun _ => Derives.staticField hclass hcls hmember, hc.depth_le, hc₄.skipBlanks⟩

theorem accepts_steps : Accepts (steps classes (calls + 1)) (DerivesSteps classes) c := by
  apply Accepts.intro
  intro d limit hc
  rw [steps, satisfies_bind, satisfies_nextSignificant]
  split
  . next hpoint =>
    rw [satisfies_bind]
    apply behind_advance hc.skipBlanks hpoint (by decide)
    intro c₁ hc₁
    rw [satisfies_bind]
    apply behind_name hc₁
    intro member c₂ hmember hc₂
    rw [satisfies_bind, satisfies_nextSignificant, satisfies_ite]
    split
    . next hparen =>
      rw [satisfies_bind]
      apply (ih.arguments _ (by simpa using hparen)).rule hc₂.skipBlanks
      intro args ts n c₃ hargs hn hc₃
      rw [satisfies_bind]
      apply (ih.steps c₃).rule hc₃
      intro steps ts' n' c₄ hsteps hn' hc₄
      refine ⟨_, _, DerivesSteps.method hmember hargs hsteps, by omega, ?_⟩
      simpa using hc₄
    . rw [satisfies_bind]
      apply (ih.steps _).rule hc₂.skipBlanks
      intro steps ts n c₃ hsteps hn hc₃
      exact ⟨_, n, DerivesSteps.property hmember hsteps, hn, hc₃⟩
  . next hopen =>
    rw [satisfies_bind, satisfies_position]
    apply behind_open hc.skipBlanks hopen (by decide)
    intro c₁ hc₁
    rw [satisfies_bind]
    apply (ih.expression c₁).rule hc₁
    intro key ts n c₂ hkey hn hc₂
    rw [satisfies_bind]
    apply behind_closing hc₂ (by decide)
    intro c₃ hc₃
    rw [satisfies_bind, satisfies_ascend, satisfies_bind]
    apply (ih.steps _).rule hc₃.ascendBy
    intro steps ts' n' c₄ hsteps hn' hc₄
    refine ⟨_, _, DerivesSteps.index hkey hsteps, by omega, ?_⟩
    simpa using hc₄
  . exact ⟨[], 0, DerivesSteps.nil, hc.depth_le, hc.skipBlanks⟩

end

theorem sound (classes : ClassLookup H) (calls : Nat) : Sound classes calls := by
  induction calls with
  | zero =>
    constructor
    case operators =>
      intros
      rw [operators, satisfies_exhausted]
      trivial
    all_goals
      intros
      simp only [expression, binary, unary, postfixed, primary, group, array, arguments, sequence,
        items, map, entries, mapKey, staticAccess, steps]
      exact accepts_exhausted
  | succ calls ih =>
    exact {
      expression := fun _ => accepts_expression ih
      binary := fun _ hleast _ => accepts_binary ih hleast
      operators := fun _ _ _ _ _ _ _ _ _ _ hleft hleast hnext hn hc =>
        behind_operators ih hleft hleast hnext hn hc
      unary := fun _ => accepts_unary ih
      postfixed := fun _ => accepts_postfixed ih
      primary := fun _ => accepts_primary ih
      group := fun _ hpeek => accepts_group ih hpeek
      array := fun _ hpeek => accepts_array ih hpeek
      arguments := fun _ hpeek => accepts_arguments ih hpeek
      sequence := fun _ hclose _ _ _ => accepts_sequence ih hclose
      items := fun _ hclose _ _ _ => accepts_items ih hclose
      map := fun _ hpeek => accepts_map ih hpeek
      entries := fun _ _ => accepts_entries ih
      mapKey := fun _ => accepts_mapKey ih
      staticAccess := fun _ hpeek => accepts_staticAccess ih hpeek
      steps := fun _ => accepts_steps ih
    }

end Parser

end Stencil
