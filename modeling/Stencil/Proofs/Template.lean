import Mathlib.Data.List.Forall2
import Stencil.Template
import Stencil.Proofs.Outcome
import Stencil.Proofs.Text.Search

/-!
This module contains the proof that a template is cut at the leftmost delimiters and rendered piece
by piece. `Pieces` says how a text goes on from one start delimiter to the next; compiling a template
gives the segments of its pieces if all of them parse, and otherwise the error of the leftmost one
that fails.
-/

namespace Stencil

namespace Template

open Text (IsFirst splitOnce?_eq_none_iff splitOnce?_eq_some_iff)

variable {H : Type} [HostObject H]

/--
A text begins with pieces, each of them literal text and the source of an expression between
delimiters, and goes on with `rest`. Every delimiter is the first one of its kind there.
-/
inductive Pieces (d : Delimiters) : List Char → List (List Char × List Char) → List Char → Prop where
  | nil {rest : List Char} : Pieces d rest [] rest
  | cons {literal source after rest : List Char} {pieces : List (List Char × List Char)} :
      IsFirst d.start.toList literal (source ++ d.stop.toList ++ after)
        → IsFirst d.stop.toList source after
        → Pieces d after pieces rest
        → Pieces d (literal ++ d.start.toList ++ (source ++ d.stop.toList ++ after))
            ((literal, source) :: pieces) rest

def written (d : Delimiters) (pieces : List (List Char × List Char)) : List Char :=
  pieces.flatMap fun p => p.1 ++ d.start.toList ++ p.2 ++ d.stop.toList

/--
What is left of a text cannot be compiled: it has a start delimiter without a stop delimiter behind
it, or the source between the first two delimiters does not parse. `offset` characters of the
template stand in front of it.
-/
inductive Fails (s : Settings H) (d : Delimiters) (offset : Nat) : List Char → ParseError → Prop where
  | unterminated {literal after : List Char} :
      IsFirst d.start.toList literal after
        → ¬ d.stop.toList <:+: after
        → Fails s d offset (literal ++ d.start.toList ++ after)
            ⟨offset + literal.length, .unterminatedDelimiter d.start⟩
  | source {literal source after : List Char} {cause : ParseError} :
      IsFirst d.start.toList literal (source ++ d.stop.toList ++ after)
        → IsFirst d.stop.toList source after
        → s.parse (String.ofList source) = .error cause
        → Fails s d offset (literal ++ d.start.toList ++ (source ++ d.stop.toList ++ after))
            (cause.shift (offset + (literal ++ d.start.toList).length))

def Parsed (s : Settings H) (pieces : List (List Char × List Char))
    (parts : List (List Char × Expr H)) : Prop :=
  List.Forall₂ (fun p q => p.1 = q.1 ∧ s.parse (String.ofList p.2) = .ok q.2) pieces parts

def literalSegments (text : List Char) : List (Segment H) :=
  if text = [] then [] else [.literal (String.ofList text)]

def segmentsOf (parts : List (List Char × Expr H)) (last : List Char) : List (Segment H) :=
  parts.flatMap (fun q => literalSegments q.1 ++ [.expr q.2]) ++ literalSegments last

theorem Pieces.eq_written {d : Delimiters} {text rest : List Char}
    {pieces : List (List Char × List Char)} (h : Pieces d text pieces rest) :
    text = written d pieces ++ rest := by
  induction h with
  | nil => rfl
  | cons hstart hstop hafter ih =>
    rw [ih]
    simp [written]

theorem cut_of_absent {d : Delimiters} {text : List Char} (h : ¬ d.start.toList <:+: text)
    (fuel pos : Nat) : Piece.cut d (fuel + 1) pos text = Piece.literal? text := by
  rw [← splitOnce?_eq_none_iff] at h
  simp only [Piece.cut, h]

theorem cut_unterminated {d : Delimiters} {literal after : List Char}
    (hstart : IsFirst d.start.toList literal after) (hstop : ¬ d.stop.toList <:+: after)
    (fuel pos : Nat) :
    Piece.cut d (fuel + 1) pos (literal ++ d.start.toList ++ after)
      = Piece.literal? literal ++ [.unterminated (pos + literal.length)] := by
  have hcut := splitOnce?_eq_some_iff.mpr ⟨rfl, hstart⟩
  rw [← splitOnce?_eq_none_iff] at hstop
  simp only [Piece.cut, hcut, hstop]

theorem cut_piece {d : Delimiters} {literal source after : List Char}
    (hstart : IsFirst d.start.toList literal (source ++ d.stop.toList ++ after))
    (hstop : IsFirst d.stop.toList source after) (fuel pos : Nat) :
    Piece.cut d (fuel + 1) pos (literal ++ d.start.toList ++ (source ++ d.stop.toList ++ after))
      = Piece.literal? literal ++ .source (pos + (literal ++ d.start.toList).length) source ::
          Piece.cut d fuel (pos + (written d [(literal, source)]).length) after := by
  have hcut := splitOnce?_eq_some_iff.mpr ⟨rfl, hstart⟩
  have hcut' := splitOnce?_eq_some_iff.mpr ⟨rfl, hstop⟩
  simp only [Piece.cut, hcut, hcut']
  simp [written, Nat.add_assoc]

theorem compilePieces_literal? (s : Settings H) (d : Delimiters) (text : List Char)
    (rest : List Piece) :
    compilePieces s d (Piece.literal? text ++ rest)
      = (compilePieces s d rest).map (literalSegments text ++ ·) := by
  unfold Piece.literal? literalSegments
  split
  . simp_all
    cases compilePieces s d rest <;> rfl
  . simp_all [compilePieces, compilePiece]
    cases compilePieces s d rest <;> rfl

theorem compile_cut_of_absent (s : Settings H) {d : Delimiters} {text : List Char}
    (h : ¬ d.start.toList <:+: text) (fuel pos : Nat) :
    compilePieces s d (Piece.cut d (fuel + 1) pos text) = .ok (literalSegments text) := by
  rw [cut_of_absent h, ← List.append_nil (Piece.literal? text), compilePieces_literal?]
  simp [compilePieces, Except.map]

theorem compile_cut_piece {s : Settings H} {d : Delimiters} {literal source after : List Char}
    {e : Expr H} (hstart : IsFirst d.start.toList literal (source ++ d.stop.toList ++ after))
    (hstop : IsFirst d.stop.toList source after)
    (hparse : s.parse (String.ofList source) = .ok e) (fuel pos : Nat) :
    compilePieces s d (Piece.cut d (fuel + 1) pos
        (literal ++ d.start.toList ++ (source ++ d.stop.toList ++ after)))
      = (compilePieces s d (Piece.cut d fuel (pos + (written d [(literal, source)]).length)
          after)).map (literalSegments literal ++ [.expr e] ++ ·) := by
  rw [cut_piece hstart hstop, compilePieces_literal?]
  simp only [compilePieces, compilePiece, hparse]
  cases compilePieces s d _ <;> simp [Except.map]

theorem compile_cut_of_fails {s : Settings H} {d : Delimiters} {rest : List Char} {pos : Nat}
    {err : ParseError} (h : Fails s d pos rest err) (fuel : Nat) :
    compilePieces s d (Piece.cut d (fuel + 1) pos rest) = .error err := by
  cases h with
  | unterminated hstart hstop =>
    rw [cut_unterminated hstart hstop, compilePieces_literal?]
    simp [compilePieces, compilePiece, Except.map]
  | source hstart hstop hparse =>
    rw [cut_piece hstart hstop, compilePieces_literal?]
    simp [compilePieces, compilePiece, hparse, Except.map]

theorem length_lt_of_piece (d : Delimiters) (literal source after : List Char) :
    after.length < (literal ++ d.start.toList ++ (source ++ d.stop.toList ++ after)).length := by
  have : 0 < d.start.toList.length := by
    rw [List.length_pos_iff]
    simp [d.start_ne]
  simp only [List.length_append]
  omega

theorem compile_cut_of_pieces {s : Settings H} {d : Delimiters} {text rest : List Char}
    {pieces : List (List Char × List Char)} {parts : List (List Char × Expr H)}
    (hpieces : Pieces d text pieces rest) (hparts : Parsed s pieces parts) {fuel : Nat}
    (hfuel : text.length < fuel) (pos : Nat) :
    ∃ left, rest.length < left + 1
      ∧ compilePieces s d (Piece.cut d fuel pos text)
        = (compilePieces s d (Piece.cut d (left + 1) (pos + (written d pieces).length) rest)).map
            (parts.flatMap (fun q => literalSegments q.1 ++ [.expr q.2]) ++ ·) := by
  induction hpieces generalizing parts fuel pos with
  | @nil rest =>
    cases hparts
    obtain ⟨left, rfl⟩ : ∃ left, fuel = left + 1 := ⟨fuel - 1, by omega⟩
    refine ⟨left, hfuel, ?_⟩
    cases h : compilePieces s d (Piece.cut d (left + 1) pos rest) <;>
      simp [written, h, Except.map]
  | @cons literal source after rest pieces hstart hstop hafter ih =>
    cases hparts with
    | @cons _ part _ parts hpart hparts =>
      -- A piece takes a unit of the fuel, but at least one character of the text.
      obtain ⟨left, rfl⟩ : ∃ left, fuel = left + 1 := ⟨fuel - 1, by omega⟩
      have hlt := length_lt_of_piece d literal source after
      have hleft : after.length < left := by omega
      obtain ⟨left', hleft', hrest⟩ := ih hparts hleft (pos + (written d [(literal, source)]).length)
      refine ⟨left', hleft', ?_⟩
      rw [compile_cut_piece hstart hstop hpart.2, hrest]
      have hpos : pos + (written d [(literal, source)]).length + (written d pieces).length
          = pos + (written d ((literal, source) :: pieces)).length := by
        simp only [written, List.flatMap_cons, List.length_append]
        simp [Nat.add_assoc]
      rw [hpos]
      cases compilePieces s d _ <;> simp_all [Except.map]

theorem compile_of_pieces {s : Settings H} {d : Delimiters} {src : String} {last : List Char}
    {pieces : List (List Char × List Char)} {parts : List (List Char × Expr H)}
    (hpieces : Pieces d src.toList pieces last) (hparts : Parsed s pieces parts)
    (hlast : ¬ d.start.toList <:+: last) :
    compile s d src = .ok ⟨segmentsOf parts last, s.members⟩ := by
  obtain ⟨left, -, h⟩ := compile_cut_of_pieces hpieces hparts (Nat.lt_succ_self _) 0
  rw [compile_cut_of_absent s hlast] at h
  simp [compile, Piece.ofText, h, segmentsOf, Except.map]

theorem compile_of_fails {s : Settings H} {d : Delimiters} {src : String} {rest : List Char}
    {pieces : List (List Char × List Char)} {parts : List (List Char × Expr H)} {err : ParseError}
    (hpieces : Pieces d src.toList pieces rest) (hparts : Parsed s pieces parts)
    (hfails : Fails s d (written d pieces).length rest err) : compile s d src = .error err := by
  obtain ⟨left, -, h⟩ := compile_cut_of_pieces hpieces hparts (Nat.lt_succ_self _) 0
  rw [Nat.zero_add, compile_cut_of_fails hfails] at h
  simp [compile, Piece.ofText, h, Except.map]

theorem exists_pieces (s : Settings H) (d : Delimiters) (text : List Char) :
    ∃ pieces parts rest, Pieces d text pieces rest ∧ Parsed s pieces parts
      ∧ (¬ d.start.toList <:+: rest ∨ ∀ offset, ∃ err, Fails s d offset rest err) := by
  induction h : text.length using Nat.strongRecOn generalizing text with
  | ind n ih =>
    cases hcut : Text.splitOnce? d.start.toList text with
    | none =>
      exact ⟨[], [], text, .nil, .nil, .inl (splitOnce?_eq_none_iff.mp hcut)⟩
    | some cut =>
      obtain ⟨literal, behind⟩ := cut
      obtain ⟨rfl, hstart⟩ := splitOnce?_eq_some_iff.mp hcut
      cases hcut' : Text.splitOnce? d.stop.toList behind with
      | none =>
        have hstop := splitOnce?_eq_none_iff.mp hcut'
        exact ⟨[], [], _, .nil, .nil, .inr fun offset => ⟨_, .unterminated hstart hstop⟩⟩
      | some cut =>
        obtain ⟨source, after⟩ := cut
        obtain ⟨rfl, hstop⟩ := splitOnce?_eq_some_iff.mp hcut'
        cases hparse : s.parse (String.ofList source) with
        | error cause =>
          exact ⟨[], [], _, .nil, .nil, .inr fun offset => ⟨_, .source hstart hstop hparse⟩⟩
        | ok e =>
          -- The delimiters are not empty, so that less is left behind the piece.
          have hlt := length_lt_of_piece d literal source after
          obtain ⟨pieces, parts, rest, hpieces, hparts, hrest⟩ := ih _ (h ▸ hlt) after rfl
          exact ⟨_, (literal, e) :: parts, rest, .cons hstart hstop hpieces,
            .cons ⟨rfl, hparse⟩ hparts, hrest⟩

theorem Pieces.unique {d : Delimiters} {text last last' : List Char}
    {pieces pieces' : List (List Char × List Char)} (h : Pieces d text pieces last)
    (hlast : ¬ d.start.toList <:+: last) (h' : Pieces d text pieces' last')
    (hlast' : ¬ d.start.toList <:+: last') : pieces = pieces' ∧ last = last' := by
  induction h generalizing pieces' with
  | nil =>
    cases h' with
    | nil => exact ⟨rfl, rfl⟩
    | cons => exact absurd ⟨_, _, rfl⟩ hlast
  | @cons literal source after last pieces hstart hstop hafter ih =>
    generalize htext :
      literal ++ d.start.toList ++ (source ++ d.stop.toList ++ after) = text at h'
    cases h' with
    | nil => exact absurd ⟨_, _, htext⟩ hlast'
    | cons hstart' hstop' hafter' =>
      obtain ⟨rfl, hbehind⟩ := hstart.unique htext hstart'
      obtain ⟨rfl, rfl⟩ := hstop.unique hbehind hstop'
      obtain ⟨rfl, rfl⟩ := ih hlast hafter'
      exact ⟨rfl, rfl⟩

def Evaluated (env : Env H) (parts : List (List Char × Expr H))
    (results : List (List Char × Value H)) : Prop :=
  List.Forall₂ (fun q r => q.1 = r.1 ∧ q.2.eval env = .ok r.2) parts results

def rendered (results : List (List Char × Value H)) (last : List Char) : String :=
  String.ofList (results.flatMap (fun r => r.1 ++ r.2.toText.toList) ++ last)

theorem renderSegments_literalSegments (env : Env H) (text : List Char) (rest : List (Segment H)) :
    renderSegments env (literalSegments text ++ rest)
      = (renderSegments env rest).map (String.ofList text ++ ·) := by
  unfold literalSegments
  split
  . simp_all
    cases renderSegments env rest <;> simp [Except.map]
  . simp only [List.singleton_append, renderSegments, renderSegment]
    cases renderSegments env rest <;> rfl

theorem renderSegments_part (env : Env H) (literal : List Char) (e : Expr H)
    (rest : List (Segment H)) :
    renderSegments env (literalSegments literal ++ [.expr e] ++ rest) = (do
      let v ← e.eval env
      let text ← renderSegments env rest
      return String.ofList literal ++ v.toText ++ text) := by
  rw [List.append_assoc, renderSegments_literalSegments]
  simp only [List.singleton_append, renderSegments, renderSegment]
  cases e.eval env with
  | error err => rfl
  | ok v => cases renderSegments env rest <;> simp [Except.map, String.append_assoc]

omit [HostObject H] in
theorem segmentsOf_cons (part : List Char × Expr H) (parts : List (List Char × Expr H))
    (last : List Char) :
    segmentsOf (part :: parts) last
      = literalSegments part.1 ++ [.expr part.2] ++ segmentsOf parts last := by
  simp [segmentsOf]

theorem rendered_cons (result : List Char × Value H) (results : List (List Char × Value H))
    (last : List Char) :
    rendered (result :: results) last
      = String.ofList result.1 ++ result.2.toText ++ rendered results last := by
  simp [rendered, String.ofList_append, String.append_assoc]

theorem renderSegments_eq_ok {env : Env H} {parts : List (List Char × Expr H)} {last : List Char}
    {text : String} :
    renderSegments env (segmentsOf parts last) = .ok text
      ↔ ∃ results, Evaluated env parts results ∧ text = rendered results last := by
  induction parts generalizing text with
  | nil =>
    have hlast := renderSegments_literalSegments env last []
    rw [List.append_nil] at hlast
    simp [segmentsOf, Evaluated, rendered, hlast, renderSegments, Except.map, eq_comm]
  | cons part parts ih =>
    rw [segmentsOf_cons, renderSegments_part, Outcome.bind_eq_ok]
    simp only [Outcome.bind_pure_eq_ok, ih]
    constructor
    . rintro ⟨v, hv, text, ⟨results, hresults, rfl⟩, rfl⟩
      refine ⟨(part.1, v) :: results, .cons ⟨rfl, hv⟩ hresults, ?_⟩
      rw [rendered_cons]
    . rintro ⟨results, hresults, rfl⟩
      cases hresults with
      | @cons _ result _ results hresult hresults =>
        refine ⟨result.2, hresult.2, _, ⟨results, hresults, rfl⟩, ?_⟩
        rw [rendered_cons, hresult.1]

theorem renderSegments_eq_error {env : Env H} {parts : List (List Char × Expr H)}
    {last : List Char} {err : EvalError} :
    renderSegments env (segmentsOf parts last) = .error err
      ↔ ∃ before results part after, parts = before ++ part :: after
        ∧ Evaluated env before results ∧ part.2.eval env = .error err := by
  induction parts with
  | nil =>
    have hlast := renderSegments_literalSegments env last []
    rw [List.append_nil] at hlast
    simp [segmentsOf, hlast, renderSegments, Except.map]
  | cons part parts ih =>
    rw [segmentsOf_cons, renderSegments_part, Outcome.bind_eq_error]
    simp only [Outcome.bind_pure_eq_error, ih]
    constructor
    . rintro (herr | ⟨v, hv, before, results, part', after, rfl, hbefore, herr⟩)
      . exact ⟨[], [], part, parts, rfl, .nil, herr⟩
      . exact ⟨part :: before, (part.1, v) :: results, part', after, rfl,
          .cons ⟨rfl, hv⟩ hbefore, herr⟩
    . rintro ⟨before, results, part', after, hparts, hbefore, herr⟩
      cases hbefore with
      | nil =>
        simp only [List.nil_append, List.cons.injEq] at hparts
        exact .inl (hparts.1 ▸ herr)
      | @cons first result before results hresult hbefore =>
        simp only [List.cons_append, List.cons.injEq] at hparts
        obtain ⟨rfl, rfl⟩ := hparts
        exact .inr ⟨result.2, hresult.2, before, results, part', after, rfl, hbefore, herr⟩

omit [HostObject H] in
theorem segmentsOf_eq_singleton {parts : List (List Char × Expr H)} {last : List Char}
    {e : Expr H} (h : segmentsOf parts last = [.expr e]) : parts = [([], e)] ∧ last = [] := by
  cases parts with
  | nil =>
    simp only [segmentsOf, literalSegments, List.flatMap_nil, List.nil_append] at h
    split at h <;> simp at h
  | cons part parts =>
    rw [segmentsOf_cons, List.append_assoc] at h
    by_cases hliteral : part.1 = []
    . simp only [literalSegments, hliteral, ↓reduceIte, List.nil_append, List.singleton_append,
        List.cons.injEq, Segment.expr.injEq] at h
      obtain ⟨he, hrest⟩ := h
      cases parts with
      | nil =>
        simp only [segmentsOf, literalSegments, List.flatMap_nil, List.nil_append] at hrest
        split at hrest
        . next hlast => simp [← he, ← hliteral, hlast]
        . simp at hrest
      | cons next parts => simp [segmentsOf_cons] at hrest
    . simp [literalSegments, hliteral] at h

theorem eval_segmentsOf_singleton (e : Expr H) (members : Members H)
    (lookup : String → Option (Value H)) :
    eval ⟨segmentsOf [([], e)] [], members⟩ lookup = e.eval ⟨lookup, members⟩ := by
  simp [eval, segmentsOf, literalSegments]

theorem eval_segmentsOf_eq_render {parts : List (List Char × Expr H)} {last : List Char}
    (h : ∀ e, ¬ (parts = [([], e)] ∧ last = [])) (members : Members H)
    (lookup : String → Option (Value H)) :
    eval ⟨segmentsOf parts last, members⟩ lookup
      = (render ⟨segmentsOf parts last, members⟩ lookup).map .str := by
  unfold eval
  split
  . next e hsegments => exact absurd (segmentsOf_eq_singleton hsegments) (h e)
  . rfl

/--
A template is cut at the leftmost delimiters into pieces that are unique; it compiles if and only if
they all parse, and otherwise the leftmost piece that fails gives the error. A compiled template is
rendered piece by piece, and one that is a single expression has its value.
-/
theorem compile_leftmost (s : Settings H) (d : Delimiters) (src : String) :
    (∀ t, compile s d src = .ok t ↔
        ∃ pieces parts last, Pieces d src.toList pieces last ∧ ¬ d.start.toList <:+: last
          ∧ Parsed s pieces parts ∧ t = ⟨segmentsOf parts last, s.members⟩)
      ∧ (∀ pieces rest, Pieces d src.toList pieces rest → src.toList = written d pieces ++ rest)
      ∧ (∀ pieces last pieces' last',
          Pieces d src.toList pieces last → ¬ d.start.toList <:+: last →
          Pieces d src.toList pieces' last' → ¬ d.start.toList <:+: last' →
          pieces = pieces' ∧ last = last')
      ∧ (∀ err, compile s d src = .error err ↔
          ∃ pieces parts rest, Pieces d src.toList pieces rest ∧ Parsed s pieces parts
            ∧ Fails s d (written d pieces).length rest err)
      ∧ (∀ (parts : List (List Char × Expr H)) last members lookup,
          (∀ text, render ⟨segmentsOf parts last, members⟩ lookup = .ok text ↔
              ∃ results, Evaluated ⟨lookup, members⟩ parts results ∧ text = rendered results last)
          ∧ (∀ err, render ⟨segmentsOf parts last, members⟩ lookup = .error err ↔
              ∃ before results part after, parts = before ++ part :: after
                ∧ Evaluated ⟨lookup, members⟩ before results
                ∧ part.2.eval ⟨lookup, members⟩ = .error err)
          ∧ (∀ e, parts = [([], e)] → last = [] →
              eval ⟨segmentsOf parts last, members⟩ lookup = e.eval ⟨lookup, members⟩)
          ∧ ((∀ e, ¬ (parts = [([], e)] ∧ last = [])) →
              eval ⟨segmentsOf parts last, members⟩ lookup
                = (render ⟨segmentsOf parts last, members⟩ lookup).map Value.str)) := by
  obtain ⟨pieces, parts, rest, hpieces, hparts, hrest⟩ := exists_pieces s d src.toList
  refine ⟨?_, ?_, ?_, ?_, ?_⟩
  . intro t
    constructor
    . intro ht
      rcases hrest with hlast | hfails
      . rw [compile_of_pieces hpieces hparts hlast] at ht
        exact ⟨pieces, parts, rest, hpieces, hlast, hparts, by simpa using ht.symm⟩
      . obtain ⟨err, herr⟩ := hfails (written d pieces).length
        rw [compile_of_fails hpieces hparts herr] at ht
        simp at ht
    . rintro ⟨pieces, parts, last, hpieces, hlast, hparts, rfl⟩
      exact compile_of_pieces hpieces hparts hlast
  . intro pieces rest h
    exact h.eq_written
  . intro pieces last pieces' last' h hlast h' hlast'
    exact h.unique hlast h' hlast'
  . intro err
    constructor
    . intro herr
      rcases hrest with hlast | hfails
      . rw [compile_of_pieces hpieces hparts hlast] at herr
        simp at herr
      . obtain ⟨err', herr'⟩ := hfails (written d pieces).length
        rw [compile_of_fails hpieces hparts herr'] at herr
        simp only [Except.error.injEq] at herr
        exact ⟨pieces, parts, rest, hpieces, hparts, herr ▸ herr'⟩
    . rintro ⟨pieces, parts, rest, hpieces, hparts, herr⟩
      exact compile_of_fails hpieces hparts herr
  . intro parts last members lookup
    refine ⟨?_, ?_, ?_, ?_⟩
    . intro text
      rw [render]
      exact renderSegments_eq_ok
    . intro err
      rw [render]
      exact renderSegments_eq_error
    . rintro e rfl rfl
      apply eval_segmentsOf_singleton
    . intro h
      exact eval_segmentsOf_eq_render h members lookup

end Template

end Stencil
