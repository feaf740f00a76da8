import Stencil.Proofs.Template
import Stencil.Proofs.Parser.Progress

/-!
This module contains the proof that the errors of expressions and templates point at what they
complain about.
-/

namespace Stencil

open Stencil.Parser Text

variable {H : Type}

section

variable [HostObject H]

theorem satisfies_source (classes : ClassLookup H) (limit : Nat) (src : List Char) :
    Satisfies (source classes src.length) (Cursor.start src limit)
      (fun e c' => e.isValuer = true ∧ c'.Reached src limit 1 0)
      (·.PointsInto classes limit 0 src) := by
  have hc := (Cursor.reached_start src limit).skipBlanks
  rw [source, satisfies_bind, satisfies_nextSignificant]
  dsimp only
  split
  . next h =>
    rw [satisfies_bind, satisfies_fail]
    have hrest : src.dropWhile Unicode.isBlank = [] :=
      List.head?_eq_none_iff.mp (Option.isNone_iff_eq_none.mp h)
    exact hc.on.fail ⟨hrest, List.dropWhile_eq_nil_iff.mp hrest⟩
  . rw [satisfies_bind]
    apply ((tracks classes src limit _).expression _).rule hc
    intro e c₁ he hc₁
    rw [satisfies_bind, satisfies_nextSignificant]
    split
    . rw [satisfies_bind, satisfies_unexpected]
      exact hc₁.skipBlanks.on.fail_unexpected
    . exact ⟨he, hc₁.skipBlanks⟩

theorem Expr.pointsInto_of_parse {classes : ClassLookup H} {limit : Nat} {src : String}
    {err : ParseError} (h : Expr.parse classes limit src = .error err) :
    err.PointsInto classes limit 0 src.toList := by
  have hsource := satisfies_source classes limit src.toList
  unfold Satisfies at hsource
  rw [Expr.parse] at h
  dsimp only [StateT.run] at h
  cases hresult : source classes src.toList.length (Cursor.start src.toList limit) with
  | error cause =>
    rw [hresult] at h hsource
    cases h
    exact hsource
  | ok result =>
    rw [hresult] at h
    cases h

end

theorem ParseError.PointsInto.shift {classes : ClassLookup H} {limit offset : Nat}
    {src : List Char} {err : ParseError} (h : err.PointsInto classes limit 0 src) :
    (err.shift offset).PointsInto classes limit offset src := by
  obtain ⟨pos, hle, hpos, hconcerns⟩ := h
  refine ⟨pos, hle, ?_, hconcerns⟩
  simp only [ParseError.shift]
  omega

namespace Template

/--
What an error of a template is about. Either it is about a start delimiter with no stop delimiter
behind it, or it is about something in the source between two delimiters.
-/
inductive Blames (s : Settings H) (d : Delimiters) (text : List Char) (err : ParseError) : Prop where
  | delimiter (front after : List Char) :
      text = front ++ d.start.toList ++ after
        → ¬ d.stop.toList <:+: after
        → err = ⟨front.length, .unterminatedDelimiter d.start⟩
        → Blames s d text err
  | source (front source after : List Char) :
      text = front ++ d.start.toList ++ source ++ d.stop.toList ++ after
        → IsFirst d.stop.toList source after
        → err.PointsInto s.classes s.maxDepth (front ++ d.start.toList).length source
        → Blames s d text err

theorem Blames.pos_le {s : Settings H} {d : Delimiters} {text : List Char} {err : ParseError}
    (h : Blames s d text err) : err.pos ≤ text.length := by
  cases h with
  | delimiter front after htext _ herr =>
    rw [htext, herr]
    simp
  | source front source after htext _ herr =>
    obtain ⟨pos, hle, hpos, _⟩ := herr
    rw [htext, hpos]
    simp only [List.length_append]
    omega

variable [HostObject H]

theorem blames_of_fails {s : Settings H} {d : Delimiters} {front rest : List Char}
    {err : ParseError} (h : Fails s d front.length rest err) : Blames s d (front ++ rest) err := by
  cases h with
  | @unterminated literal after _ hstop =>
    apply Blames.delimiter (front ++ literal) after
    . simp
    . exact hstop
    . simp
  | @source literal source after cause _ hstop hparse =>
    apply Blames.source (front ++ literal) source after
    . simp
    . exact hstop
    . have hlength : (front ++ literal ++ d.start.toList).length
          = front.length + (literal ++ d.start.toList).length := by
        rw [List.append_assoc, List.length_append]
      have hcause := Expr.pointsInto_of_parse hparse
      rw [String.toList_ofList] at hcause
      rw [hlength]
      exact hcause.shift

theorem blames_of_compile {s : Settings H} {d : Delimiters} {src : String} {err : ParseError}
    (h : compile s d src = .error err) : Blames s d src.toList err := by
  obtain ⟨pieces, parts, rest, hpieces, hparts, hrest⟩ := exists_pieces s d src.toList
  rcases hrest with hlast | hfails
  . rw [compile_of_pieces hpieces hparts hlast] at h
    cases h
  . obtain ⟨err', herr'⟩ := hfails (written d pieces).length
    rw [compile_of_fails hpieces hparts herr'] at h
    cases h
    rw [hpieces.eq_written]
    exact blames_of_fails herr'

/--
The error of a source that is no expression points at what it complains about in the source, and the
error of a template points at what it complains about in the text of the template.
-/
theorem errors_point_at_causes (s : Settings H) (d : Delimiters) (src : String) :
    (∀ (classes : ClassLookup H) (limit : Nat) (err : ParseError),
        Expr.parse classes limit src = .error err →
          err.pos ≤ src.toList.length
            ∧ err.problem.Concerns classes limit src.toList (src.toList.drop err.pos))
      ∧ (∀ err, compile s d src = .error err →
          err.pos ≤ src.toList.length ∧ Blames s d src.toList err) := by
  constructor
  . intro classes limit err h
    obtain ⟨pos, hle, hpos, hconcerns⟩ := Expr.pointsInto_of_parse h
    rw [Nat.zero_add] at hpos
    rw [hpos]
    exact ⟨hle, hconcerns⟩
  . intro err h
    have hblames := blames_of_compile h
    exact ⟨hblames.pos_le, hblames⟩

end Template

end Stencil
