import Stencil.Proofs.Acceptance
import Stencil.Proofs.RoundTrip

/-!
This module contains the proof that the grammar decides what a source is read as: the tokens that it is
cut into, how they fold and how deeply they are nested. Blanks behind a source say nothing.
-/

namespace Stencil

variable {H : Type}

theorem Scans.laid {toks : List Token} {text : List Char} (h : Scans toks text []) :
    Laid toks text := by
  generalize hrest : ([] : List Char) = rest at h
  induction h with
  | nil hblanks =>
    rw [← hrest, List.append_nil]
    exact .nil hblanks
  | cons hblanks hproper hmaximal _ ih => exact .cons hblanks hproper hmaximal (ih hrest)

namespace Token

def Closed (tok : Token) : Prop :=
  ∃ first last, tok = first ++ [last] ∧ Unicode.isBlank last = false

variable {tok : Token} {text blanks : List Char}

theorem IsWord.closed (h : IsWord tok) (hne : tok ≠ []) : tok.Closed := by
  refine ⟨tok.dropLast, tok.getLast hne, (List.dropLast_concat_getLast hne).symm, ?_⟩
  exact (h.isWordChar _ (List.getLast_mem hne)).isBlank_eq_false

theorem Maximal.of_append (h : tok.Maximal (text ++ blanks)) : tok.Maximal text :=
  fun more hmore => h more (hmore.trans (List.prefix_append text blanks))

theorem Maximal.append {more : List Char} (h : tok.Maximal text)
    (hmore : ∀ ch, more.head? = some ch → ¬ IsWordChar ch) : tok.Maximal (text ++ more) := by
  rintro front ⟨rest, heq⟩ hword
  rcases List.append_eq_append_iff.mp heq with ⟨rest', rfl, _⟩ | ⟨front, rfl, rfl⟩
  . exact h front (List.prefix_append front rest') hword
  . cases front with
    | nil => exact h _ (by simp) hword
    | cons ch front => exact absurd (hword.isWordChar ch (by simp)) (hmore ch rfl)

end Token

namespace Laid

variable {toks : List Token} {text blanks : List Char}

theorem blanks_append (h : Laid toks text) (hblanks : Blank blanks) :
    Laid toks (blanks ++ text) := by
  cases h with
  | nil hblanks' => exact .nil (hblanks.append hblanks')
  | cons hblanks' hproper hmaximal h =>
    rw [← List.append_assoc, ← List.append_assoc]
    exact .cons (hblanks.append hblanks') hproper hmaximal h

theorem append {toks' : List Token} {text' : List Char} (h : Laid toks text) (h' : Laid toks' text')
    (hhead : ∀ ch, text'.head? = some ch → ¬ IsWordChar ch) : Laid (toks ++ toks') (text ++ text') := by
  induction h with
  | nil hblanks => exact h'.blanks_append hblanks
  | cons hblanks hproper hmaximal _ ih =>
    rw [List.append_assoc]
    exact .cons hblanks hproper (hmaximal.append hhead) ih

end Laid

theorem IsName.closed {tok : Token} (h : IsName tok) : tok.Closed := by
  apply Token.IsWord.closed (.inl h)
  obtain ⟨first, rest, rfl, _⟩ := h
  simp

theorem Lexeme.closed {v : Value H} {tok : Token} (h : Lexeme v tok) : tok.Closed := by
  have hnumber {tok : Token} (h : IsNumber tok) : tok.Closed := by
    apply Token.IsWord.closed (.inr (.inl h))
    obtain ⟨first, rest, rfl, _⟩ := h.exists_digit
    simp
  cases h with
  | null => exact ⟨['n', 'u', 'l'], 'l', rfl, by decide⟩
  | bool b =>
    cases b
    . exact ⟨['f', 'a', 'l', 's'], 'e', rfl, by decide⟩
    . exact ⟨['t', 'r', 'u'], 'e', rfl, by decide⟩
  | int hdigits _ => exact hnumber (isNumber_of_isDigits hdigits)
  | hex hmark hdigits _ => exact hnumber (.hex hmark hdigits)
  | decimal hwhole hfraction hexponent _ _ =>
    exact hnumber (.decimal hwhole hfraction hexponent)
  | @str quote source _ hquote _ =>
    refine ⟨quote :: source, quote, rfl, ?_⟩
    simp only [List.mem_cons, List.not_mem_nil, or_false] at hquote
    rcases hquote with rfl | rfl <;> decide

theorem Token.closed_symbol (op : BinaryOp) : Token.Closed op.symbol.toList := by
  apply Token.IsWord.closed (.inr (.inr (.inl ⟨op, rfl⟩)))
  cases op <;> decide

theorem Token.closed_prefix (op : UnaryOp) : Token.Closed op.symbol.toList := by
  apply Token.IsWord.closed (.inr (.inr (.inr ⟨op, rfl⟩)))
  cases op <;> decide

variable {classes : Parser.ClassLookup H}

theorem Written.closed {phrase : Phrase H} {ts : List Token}
    (h : Written Lexeme classes phrase ts) : ∀ tok ∈ ts, tok.Closed := by
  have hsign (c : Char) (hc : c ∈ ['(', ')', '[', ']', '\x7b', '\x7d', ',', ':', '?', '.', '@']) :
      Token.Closed [c] := by
    have hall : ['(', ')', '[', ']', '\x7b', '\x7d', ',', ':', '?', '.', '@'].all
        (!Unicode.isBlank ·) = true := by
      decide
    exact ⟨[], c, rfl, by simpa using List.all_eq_true.mp hall c hc⟩
  induction h with
  | literal hv => simpa using hv.closed
  | var hname _ => simpa using hname.closed
  | @unary op _ _ _ _ ih => exact List.forall_mem_cons.mpr ⟨Token.closed_prefix op, ih⟩
  | @binary op _ _ _ _ _ _ _ _ ih ih' =>
    rw [List.forall_mem_append, List.forall_mem_cons]
    exact ⟨ih, Token.closed_symbol op, ih'⟩
  | nameKey hname => simpa using hname.closed
  | staticField hclass _ hname => simp [hclass.closed, hname.closed, hsign]
  | staticCall hclass _ hname _ ih =>
    simp +contextual [or_imp, hclass.closed, hname.closed, hsign, ih]
  | property hname _ ih => simp +contextual [or_imp, hname.closed, hsign, ih]
  | method hname _ _ ih ih' =>
    simp +contextual [or_imp, hname.closed, hsign, ih, ih']
  | _ => simp +contextual [or_imp, *]

variable [HostObject H]

theorem Derives.proper {least : Nat} {r : Expr H} {ts : List Token} {n : Nat}
    (h : Derives classes least r ts n) : ∀ tok ∈ ts, tok.Proper := by
  obtain ⟨e, hwritten, _⟩ := h
  exact hwritten.proper

theorem Derives.parse {r : Expr H} {ts : List Token} {n : Nat} (h : Derives classes 0 r ts n)
    {src : String} (hlaid : Laid ts src.toList) (limit : Nat) :
    (n ≤ limit → Expr.parse classes limit src = .ok r)
      ∧ (limit < n → ∃ pos, Expr.parse classes limit src = .error ⟨pos, .tooDeep limit⟩) := by
  obtain ⟨e, hwritten, _, hfold, rfl⟩ := h
  rcases Expr.parse_of_laid hwritten hlaid limit with
    ⟨r', hparse, hfold', hle⟩ | ⟨⟨pos, problem⟩, hparse, ⟨cause, hfault, _⟩ | ⟨hlt, hproblem⟩⟩
  . cases hfold.symm.trans hfold'
    exact ⟨fun _ => hparse, fun hlt => by omega⟩
  . rw [hfold] at hfault
    cases hfault
  . cases hproblem
    exact ⟨fun hle => by omega, fun _ => ⟨pos, hparse⟩⟩

namespace Expr

end Expr

end Stencil
