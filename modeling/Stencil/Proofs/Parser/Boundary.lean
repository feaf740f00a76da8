import Stencil.Proofs.Parser.Literal

/-!
This module contains what stands at the boundaries of the phrases of an expression: the tokens that
they begin with, and the tokens that may come behind them.
-/

namespace Stencil

variable {H : Type}

def Symbol.isStart (c : Char) : Bool :=
  match ofChar c with
  | groupOpen | arrayOpen | mapOpen | classMarker | quote | digit | identStart => true
  | _ => false

theorem Symbol.isStart_of_isIdentStart {c : Char} (h : isIdentStart c = true) :
    isStart c = true := by
  simp [isStart, ofChar_of_isIdentStart h]

theorem Symbol.isStart_of_isAsciiDigit {c : Char} (h : Unicode.isAsciiDigit c = true) :
    isStart c = true := by
  simp [isStart, ofChar_of_isAsciiDigit h]

theorem Symbol.isBlank_of_isStart {c : Char} (h : isStart c = true) :
    Unicode.isBlank c = false := by
  have hdescribes := describes_ofChar c
  unfold isStart at h
  split at h
  . next heq =>
    rw [heq] at hdescribes
    rw [hdescribes]
    decide
  . next heq =>
    rw [heq] at hdescribes
    rw [hdescribes]
    decide
  . next heq =>
    rw [heq] at hdescribes
    rw [hdescribes]
    decide
  . next heq =>
    rw [heq] at hdescribes
    rw [hdescribes]
    decide
  . next heq =>
    rw [heq] at hdescribes
    rcases hdescribes with rfl | rfl <;> decide
  . next heq =>
    rw [heq] at hdescribes
    exact isBlank_of_isAsciiDigit hdescribes
  . next heq =>
    rw [heq] at hdescribes
    exact isBlank_of_isIdentStart hdescribes
  . cases h

theorem IsName.begins {name : Token} (h : IsName name) (ts : List Token) :
    Begins (Symbol.isStart · = true) (name :: ts) := by
  obtain ⟨first, rest, rfl, hfirst, _⟩ := h
  exact ⟨first, rest, ts, rfl, Symbol.isStart_of_isIdentStart hfirst⟩

theorem Lexeme.begins {v : Value H} {tok : Token} (h : Lexeme v tok) (ts : List Token) :
    Begins (Symbol.isStart · = true) (tok :: ts) := by
  have hnumber {tok : Token} (h : IsNumber tok) : Begins (Symbol.isStart · = true) (tok :: ts) := by
    obtain ⟨first, rest, rfl, hfirst⟩ := h.exists_digit
    exact ⟨first, rest, ts, rfl, Symbol.isStart_of_isAsciiDigit hfirst⟩
  cases h with
  | null => exact isName_null.begins ts
  | bool b => exact (isName_bool b).begins ts
  | int hdigits _ => exact hnumber (isNumber_of_isDigits hdigits)
  | hex hmark hdigits _ => exact hnumber (.hex hmark hdigits)
  | decimal hwhole hfraction hexponent _ _ => exact hnumber (.decimal hwhole hfraction hexponent)
  | str hquote _ =>
    refine ⟨_, _, ts, rfl, ?_⟩
    simp only [List.mem_cons, List.not_mem_nil, or_false] at hquote
    rcases hquote with rfl | rfl <;> decide

theorem Lexeme.proper {v : Value H} {tok : Token} (h : Lexeme v tok) : tok.Proper := by
  obtain ⟨first, rest, ts, heq, hfirst⟩ := h.begins []
  cases heq
  exact ⟨first, rest, rfl, Symbol.isBlank_of_isStart hfirst⟩

theorem Token.proper_symbol (op : BinaryOp) : Token.Proper op.symbol.toList := by
  cases op <;> exact ⟨_, _, rfl, by decide⟩

theorem Token.proper_prefix (op : UnaryOp) : Token.Proper op.symbol.toList := by
  cases op <;> exact ⟨_, _, rfl, by decide⟩

theorem Token.proper_singleton (c : Char) : Token.Proper [c] ↔ Unicode.isBlank c = false := by
  simp [Token.Proper]

variable {classes : Parser.ClassLookup H}

theorem Written.proper {phrase : Phrase H} {ts : List Token}
    (h : Written Lexeme classes phrase ts) : ∀ tok ∈ ts, tok.Proper := by
  have hsign (c : Char) (hc : c ∈ ['(', ')', '[', ']', '\x7b', '\x7d', ',', ':', '?', '.', '@']) :
      Token.Proper [c] := by
    have hall : ['(', ')', '[', ']', '\x7b', '\x7d', ',', ':', '?', '.', '@'].all
        (!Unicode.isBlank ·) = true := by
      decide
    rw [Token.proper_singleton]
    simpa using List.all_eq_true.mp hall c hc
  induction h with
  | literal hv => simpa using hv.proper
  | var hname _ => simpa using hname.proper
  | @unary op _ _ _ _ ih => exact List.forall_mem_cons.mpr ⟨Token.proper_prefix op, ih⟩
  | @binary op _ _ _ _ _ _ _ _ ih ih' =>
    rw [List.forall_mem_append, List.forall_mem_cons]
    exact ⟨ih, Token.proper_symbol op, ih'⟩
  | nameKey hname => simpa using hname.proper
  | staticField hclass _ hname => simp [hclass.proper, hname.proper, hsign]
  | staticCall hclass _ hname _ ih =>
    simp +contextual [or_imp, hclass.proper, hname.proper, hsign, ih]
  | property hname _ ih => simp +contextual [or_imp, hname.proper, hsign, ih]
  | method hname _ _ ih ih' =>
    simp +contextual [or_imp, hname.proper, hsign, ih, ih']
  | _ => simp +contextual [or_imp, *]

theorem Written.begins_of_level {e : Expr H} {ts : List Token}
    (h : Written Lexeme classes (.expr e) ts) :
    Begins (fun c => Symbol.isStart c = true ∨ e.level ≤ 10 ∧ (c = '-' ∨ c = '!')) ts := by
  generalize hphrase : Phrase.expr e = phrase at h
  have hsign {c : Char} {e : Expr H} (ts : List Token) (hc : c ∈ ['(', '[', '\x7b', '@']) :
      Begins (fun c => Symbol.isStart c = true ∨ e.level ≤ 10 ∧ (c = '-' ∨ c = '!'))
        ([c] :: ts) := by
    have hall : ['(', '[', '\x7b', '@'].all Symbol.isStart = true := by
      decide
    exact ⟨c, [], ts, rfl, .inl (List.all_eq_true.mp hall c hc)⟩
  induction h generalizing e with
  | literal hv =>
    cases hphrase
    exact (hv.begins []).mono fun _ => .inl
  | var hname _ =>
    cases hphrase
    exact (hname.begins []).mono fun _ => .inl
  | @unary op operand ts _ _ _ =>
    cases hphrase
    cases op
    . exact ⟨'-', _, ts, rfl, .inr ⟨Nat.le_refl _, .inl rfl⟩⟩
    . exact ⟨'!', _, ts, rfl, .inr ⟨Nat.le_refl _, .inr rfl⟩⟩
  | @binary op _ _ _ _ _ _ _ _ ih _ =>
    cases hphrase
    have hlevel : op.precedence ≤ 10 := by cases op <;> decide
    exact ((ih rfl).append _).mono fun c hc => hc.imp id fun hc => ⟨hlevel, hc.2⟩
  | ternary _ _ _ _ ih _ _ =>
    cases hphrase
    rw [List.append_assoc]
    exact ((ih rfl).append _).mono fun c hc => hc.imp id fun hc => ⟨Nat.zero_le _, hc.2⟩
  | chain hbase _ _ _ ih _ =>
    cases hphrase
    exact ((ih rfl).append _).mono fun c hc => .inl (hc.elim id fun hc => by omega)
  | _ =>
    cases hphrase
    try exact hsign _ (by decide)

theorem Written.begins {e : Expr H} {ts : List Token}
    (h : Written Lexeme classes (.expr e) ts) :
    Begins (fun c => Symbol.isStart c = true ∨ c = '-' ∨ c = '!') ts :=
  h.begins_of_level.mono fun _ hc => hc.imp id And.right

theorem Written.begins_postfixed {e : Expr H} {ts : List Token}
    (h : Written Lexeme classes (.expr e) ts) (hlevel : 11 ≤ e.level) :
    Begins (Symbol.isStart · = true) ts :=
  h.begins_of_level.mono fun _ hc => hc.elim id fun hc => by omega

theorem Written.begins_key {k : Expr H} {ts : List Token}
    (h : Written Lexeme classes (.key k) ts) : Begins (Symbol.isStart · = true) ts := by
  cases h with
  | nameKey hname => exact hname.begins []
  | key hlevel _ hk => exact hk.begins_postfixed hlevel

namespace Parser

open Cursor

def Closes (more : List Token) : Prop :=
  ∀ tok, more.head? = some tok → tok ∈ [[')'], [']'], ['\x7d'], [','], [':']]

/--
The tokens that may come behind an operand of which an operator asks for precedence `least`: besides
those behind an expression, a question mark or an operator that does not bind as tightly.
-/
def Stops (least : Nat) (more : List Token) : Prop :=
  ∀ tok, more.head? = some tok → tok ∈ [[')'], [']'], ['\x7d'], [','], [':'], ['?']]
    ∨ ∃ op : BinaryOp, tok = op.symbol.toList ∧ op.precedence < least

variable {c : Cursor} {more : List Token} {least d limit : Nat}

theorem Closes.stops (h : Closes more) (least : Nat) : Stops least more := by
  intro tok htok
  have := h tok htok
  simp only [List.mem_cons] at *
  tauto

theorem Stops.mono {least' : Nat} (h : Stops least more) (hle : least ≤ least') :
    Stops least' more := by
  intro tok htok
  rcases h tok htok with hclose | ⟨op, hop, hlt⟩
  . exact .inl hclose
  . exact .inr ⟨op, hop, Nat.lt_of_lt_of_le hlt hle⟩

theorem precedence_lt (op : BinaryOp) : op.precedence < 10 := by
  cases op <;> decide

theorem Stops.ten (h : Stops least more) : Stops 10 more := by
  intro tok htok
  rcases h tok htok with hclose | ⟨op, hop, _⟩
  . exact .inl hclose
  . exact .inr ⟨op, hop, precedence_lt op⟩

theorem stops_symbol {op : BinaryOp} (h : op.precedence < least) (ts : List Token) :
    Stops least (op.symbol.toList :: ts) := by
  intro tok htok
  cases htok
  exact .inr ⟨op, rfl, h⟩

theorem closes_cons {close : Char} (h : close ∈ [')', ']', '\x7d', ',', ':']) (ts : List Token) :
    Closes ([close] :: ts) := by
  intro tok htok
  cases htok
  simpa using h

theorem begins_of_peek {ch : Char} (hc : c.Before more d limit)
    (h : c.skipBlanks.peek = some ch) : Begins (· = ch) more := by
  cases more with
  | nil =>
    rw [hc.peek_nil] at h
    cases h
  | cons tok toks =>
    obtain ⟨first, rest, rfl, _⟩ := hc.at.proper
    rw [hc.at.peek] at h
    exact ⟨first, rest, toks, rfl, by simpa using h⟩

theorem peek_of_begins {p : Char → Prop} (hc : c.Before more d limit) (h : Begins p more) :
    ∃ ch, c.skipBlanks.peek = some ch ∧ p ch := by
  obtain ⟨first, rest, ts, rfl, hfirst⟩ := h
  exact ⟨first, hc.at.peek, hfirst⟩

theorem Closes.not_begins (h : Closes more) : ¬ Begins (· = '?') more := by
  rintro ⟨first, rest, ts, rfl, rfl⟩
  simpa using h _ rfl

theorem Stops.not_begins (h : Stops least more) {ch : Char} (hch : ch ∈ ['(', '[', '.']) :
    ¬ Begins (· = ch) more := by
  rintro ⟨first, rest, ts, rfl, rfl⟩
  rcases h _ rfl with hclose | ⟨op, hop, _⟩
  . simp only [List.mem_cons, List.cons.injEq] at *
    rcases hch with rfl | rfl | rfl | h <;> simp_all
  . have hhead : op.symbol.toList.head? = some first := by
      rw [← hop]
      rfl
    simp only [List.mem_cons, List.not_mem_nil, or_false] at hch
    rcases hch with rfl | rfl | rfl <;> cases op <;> cases hhead

/--
The characters behind a primary expression with which it could go on: a parenthesis behind a static
member, and a letter behind a zero, which it could make hexadecimal.
-/
def Continues (c : Char) : Prop :=
  c = '(' ∨ Symbol.isIdentStart c = true

theorem Stops.not_continues (h : Stops least more) : ¬ Begins Continues more := by
  rintro ⟨first, rest, ts, rfl, hfirst⟩
  have hoperator (op : BinaryOp) :
      op.symbol.toList.head?.all (fun ch => ch != '(' && !Symbol.isIdentStart ch) = true := by
    cases op <;> decide
  have hclosing : [')', ']', '\x7d', ',', ':', '?'].all
      (fun ch => ch != '(' && !Symbol.isIdentStart ch) = true := by
    decide
  have hnot : first ≠ '(' ∧ Symbol.isIdentStart first = false := by
    rcases h _ rfl with hclose | ⟨op, hop, _⟩
    . have hmem : first ∈ [')', ']', '\x7d', ',', ':', '?'] := by
        simp only [List.mem_cons, List.cons.injEq, List.not_mem_nil, or_false] at hclose ⊢
        tauto
      simpa using List.all_eq_true.mp hclosing first hmem
    . have hfirst := hoperator op
      rw [← hop] at hfirst
      simpa using hfirst
  rcases hfirst with hfirst | hfirst
  . exact hnot.1 hfirst
  . rw [hnot.2] at hfirst
    cases hfirst

theorem binaryOp?_of_not_operator {ch : Char} (h : ch ∈ [')', ']', '\x7d', ',', ':', '?'])
    (second : Option Char) : binaryOp? (some ch) second = none := by
  simp only [List.mem_cons, List.not_mem_nil, or_false] at h
  rcases h with rfl | rfl | rfl | rfl | rfl | rfl <;> simp [binaryOp?]

theorem before_peekBinaryOp_of_stops {post : Option (BinaryOp × Nat) → Cursor → Prop}
    {bad : ParseError → Prop} (hc : c.Before more d limit) (h : Stops least more)
    (hpost : ∀ found, (∀ op width, found = some (op, width) → op.precedence < least) →
      post found c.skipBlanks) : Satisfies peekBinaryOp c post bad := by
  rw [peekBinaryOp, satisfies_bind, satisfies_nextSignificant, satisfies_bind, satisfies_peekAt,
    satisfies_pure]
  apply hpost
  cases more with
  | nil =>
    rw [hc.peek_nil]
    simp [binaryOp?]
  | cons tok toks =>
    obtain ⟨text, hrest, hmaximal, _⟩ := hc.at.rest_eq
    rw [Cursor.peek, Cursor.peekAt, hrest]
    rcases h tok rfl with hclose | ⟨op, rfl, hlt⟩
    . -- The sign is no operator, and there is no other one in front of it.
      intro op width hsome
      obtain ⟨ch, hch, rfl⟩ : ∃ ch ∈ [')', ']', '\x7d', ',', ':', '?'], tok = [ch] := by
        simpa using hclose
      rw [List.singleton_append, List.head?_cons, binaryOp?_of_not_operator hch] at hsome
      cases hsome
    . rw [binaryOp?_symbol op hmaximal]
      rintro _ _ ⟨⟩
      exact hlt

theorem before_peekBinaryOp {op : BinaryOp} {post : Option (BinaryOp × Nat) → Cursor → Prop}
    {bad : ParseError → Prop} (hc : c.Before (op.symbol.toList :: more) d limit)
    (hpost : post (some (op, op.symbol.toList.length)) c.skipBlanks) :
    Satisfies peekBinaryOp c post bad := by
  obtain ⟨text, hrest, hmaximal, _⟩ := hc.at.rest_eq
  rw [peekBinaryOp, satisfies_bind, satisfies_nextSignificant, satisfies_bind, satisfies_peekAt,
    satisfies_pure, Cursor.peek, Cursor.peekAt, hrest, binaryOp?_symbol op hmaximal]
  exact hpost

end Parser

end Stencil
