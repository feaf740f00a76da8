import Stencil.Proofs.Parser.Maximal
import Stencil.Proofs.Parser.Satisfies

/-!
This module contains how tokens are laid out in a text, and what parsers read of a text in which
tokens are laid out. Blanks may stand anywhere between tokens; they have to where the first of two
tokens would go on otherwise.
-/

namespace Stencil

/--
Tokens with blanks around them, and at least one between two of them.
-/
inductive Spaced : List Token → List Char → Prop where
  | nil {blanks : List Char} : Blank blanks → Spaced [] blanks
  | cons {tok : Token} {toks : List Token} {blanks text : List Char} :
      Blank blanks → toks = [] ∨ (∃ c rest, text = c :: rest ∧ Unicode.isBlank c = true) →
        Spaced toks text → Spaced (tok :: toks) (blanks ++ tok ++ text)

/--
Tokens with blanks around them where they are needed.
-/
inductive Laid : List Token → List Char → Prop where
  | nil {blanks : List Char} : Blank blanks → Laid [] blanks
  | cons {tok : Token} {toks : List Token} {blanks text : List Char} :
      Blank blanks → tok.Proper → tok.Maximal text → Laid toks text →
        Laid (tok :: toks) (blanks ++ tok ++ text)

theorem Spaced.laid {toks : List Token} {text : List Char} (h : Spaced toks text)
    (hproper : ∀ tok ∈ toks, tok.Proper) : Laid toks text := by
  induction h with
  | nil hblank => exact .nil hblank
  | @cons tok toks blanks text hblank hgap hspaced ih =>
    rw [List.forall_mem_cons] at hproper
    apply Laid.cons hblank hproper.1 _ (ih hproper.2)
    cases hgap with
    | inr hgap =>
      obtain ⟨c, rest, rfl, hc⟩ := hgap
      exact tok.maximal_of_not_isWordChar (Token.not_isWordChar_of_isBlank hc) rest
    | inl hlast =>
      -- Only blanks come behind the last token.
      subst hlast
      cases hspaced with
      | nil hafter =>
        cases text with
        | nil => exact longest_nil
        | cons c rest =>
          have hc := Token.not_isWordChar_of_isBlank (hafter c List.mem_cons_self)
          exact tok.maximal_of_not_isWordChar hc rest

theorem spaced_flatMap (toks : List Token) : Spaced toks (toks.flatMap (' ' :: ·)) := by
  have hblank : Blank [' '] := by
    intro c hc
    rw [List.mem_singleton.mp hc]
    decide
  induction toks with
  | nil =>
    apply Spaced.nil
    intro c hc
    simp at hc
  | cons tok toks ih =>
    apply Spaced.cons hblank _ ih
    cases toks with
    | nil => exact .inl rfl
    | cons tok' toks => exact .inr ⟨' ', _, rfl, by decide⟩

def Apart (tok next : Token) : Prop :=
  ∀ text, tok.Maximal (next ++ text)

theorem Laid.flatten {toks : List Token} (hproper : ∀ tok ∈ toks, tok.Proper)
    (hapart : toks.IsChain Apart) : Laid toks toks.flatten := by
  induction toks with
  | nil => exact .nil blank_nil
  | cons tok toks ih =>
    rw [List.forall_mem_cons] at hproper
    refine .cons blank_nil hproper.1 ?_ (ih hproper.2 hapart.of_cons)
    cases toks with
    | nil => exact longest_nil
    | cons next toks => exact (List.isChain_cons_cons.mp hapart).1 toks.flatten

theorem apart_of_not_isWordChar (tok : Token) {first : Char} (h : ¬ IsWordChar first) (next : Token) :
    Apart tok (first :: next) :=
  fun text => tok.maximal_of_not_isWordChar h (next ++ text)

theorem apart_of_head {first : Char} (hstart : Symbol.isIdentStart first = false)
    (hdigit : Unicode.isAsciiDigit first = false) (hsign : first ∉ signs) (tok next : Token) :
    Apart (first :: tok) next :=
  fun text => Token.maximal_of_head hstart hdigit hsign (next ++ text)

theorem IsName.apart {name next : Token} {first : Char} (h : IsName name)
    (hfirst : Symbol.isIdentContinue first = false) : Apart name (first :: next) := by
  intro text
  apply Token.maximal_of_isName h
  rintro _ ⟨⟩
  exact hfirst

theorem IsOperator.apart {op next : Token} {first : Char} (h : IsOperator op) (hfirst : first ∉ signs) :
    Apart op (first :: next) := by
  intro text
  apply Token.maximal_of_isOperator h
  apply Longest.of_head
  rintro _ more ⟨⟩ hoperator
  exact hfirst (hoperator.mem_signs first (by simp))

theorem apart_unary (op : UnaryOp) {first : Char} (hfirst : first ≠ '=') (next : Token) :
    Apart op.symbol.toList (first :: next) := by
  intro text
  apply Token.maximal_of_isOperator (.inr ⟨op, rfl⟩)
  cases op with
  | neg => exact Parser.longest_neg _
  | not => exact Parser.longest_not (by simpa using hfirst)

theorem IsNumber.apart {number next : Token} {sign : Char} (h : IsNumber number) (hsign : sign ∈ signs) :
    Apart number (sign :: next) :=
  fun _ => Token.maximal_of_isNumber h (h.longest_before_sign hsign)

theorem Laid.length_le {toks : List Token} {text : List Char} (h : Laid toks text) :
    toks.length ≤ text.length := by
  induction h with
  | nil => exact Nat.zero_le _
  | cons _ hproper _ _ ih =>
    -- No token is empty.
    obtain ⟨first, rest, rfl, _⟩ := hproper
    simp only [List.length_append, List.length_cons]
    omega

def Begins (p : Char → Prop) (ts : List Token) : Prop :=
  ∃ first rest ts', ts = (first :: rest) :: ts' ∧ p first

theorem Begins.append {p : Char → Prop} {ts : List Token} (h : Begins p ts) (ts' : List Token) :
    Begins p (ts ++ ts') := by
  obtain ⟨first, rest, ts, rfl, hfirst⟩ := h
  exact ⟨first, rest, ts ++ ts', rfl, hfirst⟩

theorem Begins.mono {p q : Char → Prop} {ts : List Token} (h : Begins p ts)
    (hpq : ∀ c, p c → q c) : Begins q ts := by
  obtain ⟨first, rest, ts, rfl, hfirst⟩ := h
  exact ⟨first, rest, ts, rfl, hpq first hfirst⟩

theorem Laid.begins {toks : List Token} {text : List Char} {ch : Char} (h : Laid toks text)
    (hhead : text.head? = some ch) (hblank : Unicode.isBlank ch = false) : Begins (· = ch) toks := by
  have hnot {blanks : List Char} (hblanks : Blank blanks) (more : List Char)
      (heq : (blanks ++ more).head? = some ch) : blanks = [] := by
    cases blanks with
    | nil => rfl
    | cons blank blanks =>
      cases heq
      rw [hblanks ch List.mem_cons_self] at hblank
      cases hblank
  cases h with
  | nil hblanks =>
    have hnil := hnot hblanks [] (by rwa [List.append_nil])
    rw [hnil] at hhead
    cases hhead
  | cons hblanks hproper _ _ =>
    rw [List.append_assoc] at hhead
    obtain rfl := hnot hblanks _ hhead
    obtain ⟨first, rest, rfl, _⟩ := hproper
    cases hhead
    exact ⟨ch, rest, _, rfl, rfl⟩

namespace Cursor

structure Before (toks : List Token) (depth limit : Nat) (c : Cursor) : Prop where
  laid : Laid toks c.rest
  depth_eq : c.depth = depth
  maxDepth_eq : c.maxDepth = limit
  depth_le : depth ≤ limit

structure At (tok : Token) (toks : List Token) (depth limit : Nat) (c : Cursor) : Prop where
  rest_eq : ∃ text, c.rest = tok ++ text ∧ tok.Maximal text ∧ Laid toks text
  proper : tok.Proper
  depth_eq : c.depth = depth
  maxDepth_eq : c.maxDepth = limit
  depth_le : depth ≤ limit

variable {c : Cursor} {tok : Token} {toks : List Token} {d limit : Nat}

theorem after_after (c : Cursor) (text text' rest rest' : List Char) :
    (c.after text rest).after text' rest' = c.after (text ++ text') rest' := by
  simp [after, Nat.add_assoc]

theorem before_start {text : List Char} (h : Laid toks text) (limit : Nat) :
    (start text limit).Before toks 0 limit :=
  ⟨h, rfl, rfl, Nat.zero_le limit⟩

theorem skipBlanks_rest {blanks text : List Char} (hblank : Blank blanks)
    (htext : ∀ first, text.head? = some first → Unicode.isBlank first = false)
    (hrest : c.rest = blanks ++ text) : c.skipBlanks.rest = text := by
  simp only [skipBlanks, after, hrest]
  rw [List.dropWhile_append_of_pos hblank]
  cases text with
  | nil => rfl
  | cons first rest => simp [htext first rfl]

theorem Before.at (h : c.Before (tok :: toks) d limit) : c.skipBlanks.At tok toks d limit := by
  obtain ⟨hlaid, hdepth, hlimit, hle⟩ := h
  generalize hrest : c.rest = text at hlaid
  cases hlaid with
  | cons hblank hproper hmaximal hlaid =>
    refine ⟨⟨_, ?_, hmaximal, hlaid⟩, hproper, hdepth, hlimit, hle⟩
    obtain ⟨first, more, rfl, hfirst⟩ := hproper
    rw [List.append_assoc] at hrest
    apply skipBlanks_rest hblank _ hrest
    simp [hfirst]

theorem At.before (h : c.At tok toks d limit) : c.Before (tok :: toks) d limit := by
  obtain ⟨text, hrest, hmaximal, hlaid⟩ := h.rest_eq
  refine ⟨?_, h.depth_eq, h.maxDepth_eq, h.depth_le⟩
  rw [hrest]
  exact Laid.cons blank_nil h.proper hmaximal hlaid

theorem Before.rest_nil (h : c.Before [] d limit) : c.skipBlanks.rest = [] := by
  obtain ⟨hlaid, _⟩ := h
  generalize hrest : c.rest = text at hlaid
  cases hlaid with
  | nil hblank =>
    apply skipBlanks_rest hblank
    . simp
    . simp [hrest]

theorem Before.peek_nil (h : c.Before [] d limit) : c.skipBlanks.peek = none := by
  rw [Cursor.peek, h.rest_nil, List.head?_nil]

theorem Before.skipBlanks (h : c.Before toks d limit) : c.skipBlanks.Before toks d limit := by
  cases toks with
  | cons tok toks => exact h.at.before
  | nil =>
    refine ⟨?_, h.depth_eq, h.maxDepth_eq, h.depth_le⟩
    rw [h.rest_nil]
    exact Laid.nil blank_nil

theorem At.peek {first : Char} {rest : List Char} (h : c.At (first :: rest) toks d limit) :
    c.peek = some first := by
  obtain ⟨text, hrest, _⟩ := h.rest_eq
  simp [Cursor.peek, hrest]

theorem At.after {text : List Char} (h : c.At tok toks d limit) (hrest : c.rest = tok ++ text) :
    (c.after tok text).Before toks d limit := by
  obtain ⟨text', hrest', _, hlaid⟩ := h.rest_eq
  obtain rfl : text = text' := List.append_cancel_left (hrest.symm.trans hrest')
  exact ⟨hlaid, h.depth_eq, h.maxDepth_eq, h.depth_le⟩

end Cursor

theorem IsName.proper {name : Token} (h : IsName name) : name.Proper := by
  obtain ⟨first, rest, rfl, hfirst, _⟩ := h
  exact ⟨first, rest, rfl, Symbol.isBlank_of_isIdentStart hfirst⟩

namespace Parser

open Cursor

variable {c : Cursor} {tok : Token} {toks : List Token} {d limit : Nat} {bad : ParseError → Prop}

-- What parsers read at a token, one rule for each.

theorem before_advance {ch : Char} {post : Char → Cursor → Prop} (hc : c.At [ch] toks d limit)
    (hpost : ∀ c', c'.Before toks d limit → post ch c') : Satisfies advance c post bad := by
  obtain ⟨text, hrest, _⟩ := hc.rest_eq
  rw [satisfies_advance, hrest]
  exact hpost _ (hc.after hrest)

theorem satisfies_advanceBy {text rest : List Char} {post : Unit → Cursor → Prop}
    (hrest : c.rest = text ++ rest) (hpost : post () (c.after text rest)) :
    Satisfies (advanceBy text.length) c post bad := by
  induction text generalizing c with
  | nil =>
    rw [List.length_nil, advanceBy, satisfies_pure]
    have hafter : c.after [] rest = c := by
      rw [List.nil_append] at hrest
      simp [Cursor.after, ← hrest]
    rw [← hafter]
    exact hpost
  | cons ch text ih =>
    rw [List.length_cons, advanceBy, satisfies_bind, satisfies_advance, hrest]
    apply ih rfl
    simp only [Cursor.after, List.length_cons, List.length_nil] at *
    rw [Nat.add_comm text.length, ← Nat.add_assoc] at hpost
    exact hpost

theorem before_advanceBy {post : Unit → Cursor → Prop} (hc : c.At tok toks d limit)
    (hpost : ∀ c', c'.Before toks d limit → post () c') :
    Satisfies (advanceBy tok.length) c post bad := by
  obtain ⟨text, hrest, _⟩ := hc.rest_eq
  exact satisfies_advanceBy hrest (hpost _ (hc.after hrest))

theorem before_descend {post : Unit → Cursor → Prop} (hc : c.Before toks d limit)
    (hbad : limit ≤ d → ∀ pos, bad ⟨pos, .tooDeep limit⟩)
    (hpost : ∀ c', d < limit → c'.Before toks (d + 1) limit → post () c') :
    Satisfies descend c post bad := by
  rw [satisfies_descend, hc.depth_eq, hc.maxDepth_eq]
  split
  . next h => exact hbad h c.pos
  . next h =>
    have hlt := Nat.lt_of_not_le h
    exact hpost _ hlt ⟨hc.laid, rfl, rfl, hlt⟩

theorem before_ascendBy {levels : Nat} (hc : c.Before toks (d + levels) limit) :
    Cursor.Before toks d limit { c with depth := c.depth - levels } := by
  refine ⟨hc.laid, ?_, hc.maxDepth_eq, Nat.le_of_add_right_le hc.depth_le⟩
  simp only [hc.depth_eq]
  omega

theorem before_expect {ch : Char} {post : Unit → Cursor → Prop}
    (hc : c.Before ([ch] :: toks) d limit) (hpost : ∀ c', c'.Before toks d limit → post () c') :
    Satisfies (expect ch) c post bad := by
  rw [expect, satisfies_bind, satisfies_nextSignificant, hc.at.peek]
  dsimp only
  rw [if_pos (beq_self_eq_true ch), satisfies_discard]
  exact before_advance hc.at hpost

theorem before_closing {close : Char} {start : Nat} {construct : Construct}
    {post : Unit → Cursor → Prop} (hc : c.Before ([close] :: toks) d limit)
    (hpost : ∀ c', c'.Before toks d limit → post () c') :
    Satisfies (closing close start construct) c post bad := by
  rw [closing, satisfies_bind, satisfies_nextSignificant, hc.at.peek]
  dsimp only
  rw [if_pos (beq_self_eq_true close), satisfies_discard]
  exact before_advance hc.at hpost

theorem takeWhile_append_eq {p : Char → Bool} {text rest : List Char} (htext : ∀ c ∈ text, p c = true)
    (hrest : ∀ next, rest.head? = some next → p next = false) :
    (text ++ rest).takeWhile p = text ∧ (text ++ rest).dropWhile p = rest := by
  rw [List.takeWhile_append_of_pos htext, List.dropWhile_append_of_pos htext]
  cases rest with
  | nil => simp
  | cons next rest => simp [hrest next rfl]

theorem before_takeWhile {p : Char → Bool} {post : List Char → Cursor → Prop}
    (hc : c.At tok toks d limit) (htok : ∀ ch ∈ tok, p ch = true)
    (hstop : ∀ text next, tok.Maximal text → text.head? = some next → p next = false)
    (hpost : ∀ c' text, c.rest = tok ++ text → c'.rest = text → tok.Maximal text →
      c'.Before toks d limit → post tok c') :
    Satisfies (takeWhile p) c post bad := by
  obtain ⟨text, hrest, hmaximal, _⟩ := hc.rest_eq
  obtain ⟨htake, hdrop⟩ := takeWhile_append_eq htok (fun next => hstop text next hmaximal)
  rw [satisfies_takeWhile, hrest, htake, hdrop]
  exact hpost _ text hrest rfl hmaximal (hc.after hrest)

theorem before_identifier {name : String} {post : String → Cursor → Prop}
    (hc : c.At name.toList toks d limit) (hname : IsName name.toList)
    (hpost : ∀ c', c'.Before toks d limit → post name c') : Satisfies identifier c post bad := by
  have ⟨first, rest, hfirst, hstart, hcontinue⟩ := hname
  rw [identifier, satisfies_bind]
  apply before_takeWhile hc
  . rw [hfirst, List.forall_mem_cons]
    exact ⟨Symbol.isIdentContinue_of_isIdentStart hstart, hcontinue⟩
  . intro text next hmaximal hnext
    exact hname.next_of_maximal hmaximal hnext
  . intro c' text _ _ _ hc'
    rw [satisfies_pure, String.ofList_toList]
    exact hpost c' hc'

theorem before_name {name : String} {post : String → Cursor → Prop}
    (hc : c.Before (name.toList :: toks) d limit) (hname : IsName name.toList)
    (hpost : ∀ c', c'.Before toks d limit → post name c') : Satisfies Parser.name c post bad := by
  have ⟨first, rest, hfirst, hstart, _⟩ := hname
  have hat := hc.at
  rw [hfirst] at hat
  rw [Parser.name, satisfies_bind, satisfies_nextSignificant, hat.peek]
  dsimp only
  rw [if_pos hstart]
  exact before_identifier hc.at hname hpost

theorem binaryOp?_symbol (op : BinaryOp) {text : List Char}
    (h : Token.Maximal op.symbol.toList text) :
    binaryOp? (op.symbol.toList ++ text).head? (op.symbol.toList ++ text)[1]?
      = some (op, op.symbol.toList.length) := by
  cases text with
  | nil => cases op <;> rfl
  | cons next rest =>
    -- With the next sign it would be another operator, such as `<=` for `<`.
    have hnext (op' : BinaryOp) : op.symbol.toList ++ [next] ≠ op'.symbol.toList := by
      intro heq
      have := h [next] ⟨rest, rfl⟩ (.inr (.inr (.inl ⟨op', heq⟩)))
      cases this
    have hlt := hnext .shl
    have hle := hnext .le
    have hgt := hnext .shr
    have hge := hnext .ge
    have hor := hnext .or
    have hand := hnext .and
    cases op <;> simp_all [BinaryOp.symbol, binaryOp?]

end Parser

end Stencil
