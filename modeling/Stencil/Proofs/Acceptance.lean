import Mathlib
import Stencil.Proofs.Parser.Soundness

/-!
This module contains the proof that the parser accepts nothing but the expressions of the grammar: what
it reads of a source are the tokens of an expression with blanks between them, and the tree that it
returns is what this expression folds to.
-/

namespace Stencil

variable {H : Type} [HostObject H]

namespace Parser

open Cursor

theorem source_accepts (classes : ClassLookup H) (src : List Char) (limit : Nat) :
    Satisfies (source classes src.length) (start src limit)
      (fun r _ => ∃ ts n, Derives classes 0 r ts n ∧ n ≤ limit ∧ Scans ts src [])
      (fun _ => True) := by
  have hstart := behind_start src limit
  have hread (c : Cursor) (hc : c.Behind [] src 0 limit) :
      Satisfies (do
        let e ← expression classes (callBound src.length)
        if (← nextSignificant).isSome then unexpected
        return e) c
        (fun r _ => ∃ ts n, Derives classes 0 r ts n ∧ n ≤ limit ∧ Scans ts src [])
        (fun _ => True) := by
    rw [satisfies_bind]
    apply ((sound classes (callBound src.length)).expression c).rule hc
    intro e ts n c₁ he hn hc₁
    rw [satisfies_bind, satisfies_nextSignificant, satisfies_ite]
    split
    . rw [satisfies_bind, satisfies_unexpected]
      trivial
    . next hend =>
      rw [Bool.not_eq_true, Option.isSome_eq_false_iff, Option.isNone_iff_eq_none] at hend
      have hscans := hc₁.skipBlanks.scans
      rw [List.head?_eq_none_iff.mp hend] at hscans
      exact ⟨ts, n, he, by omega, hscans⟩
  rw [source, satisfies_bind, satisfies_nextSignificant, satisfies_ite]
  split
  . rw [satisfies_bind, satisfies_fail]
    trivial
  . exact hread _ hstart.skipBlanks

end Parser

namespace Expr

theorem derives_of_parse {classes : Parser.ClassLookup H} {limit : Nat} {src : String} {r : Expr H}
    (h : Expr.parse classes limit src = .ok r) :
    ∃ ts n, Derives classes 0 r ts n ∧ n ≤ limit ∧ Scans ts src.toList [] := by
  have hsource := Parser.source_accepts classes src.toList limit
  unfold Expr.parse at h
  simp only [StateT.run] at h
  unfold Parser.Satisfies at hsource
  split at hsource
  . next a c' heq =>
    rw [heq] at h
    cases h
    exact hsource
  . next heq =>
    rw [heq] at h
    cases h

/--
A source that parses is cut into tokens, each as long as it can be, with nothing but blanks around
them. They are what some expression is written as, and the parsed tree is what it folds to.
-/
theorem written_of_parse {classes : Parser.ClassLookup H} {limit : Nat} {src : String} {r : Expr H}
    (h : Expr.parse classes limit src = .ok r) :
    ∃ e ts, Scans ts src.toList [] ∧ Written Lexeme classes (.expr e) ts ∧ e.fold = .ok r := by
  obtain ⟨ts, _, ⟨e, hwritten, _, hfold, _⟩, _, hscans⟩ := derives_of_parse h
  exact ⟨e, ts, hscans, hwritten, hfold⟩

theorem written_of_parse_choice :
    let src := "-a[0x1F]?\t'b':a<b"
    let r : Expr Empty :=
      .ternary (.unary .neg (.chain (.var "a") [.index (.const (.int 31))])) (.const (.str "b"))
        (.binary .lt (.var "a") (.var "b"))
    Expr.parse (fun _ => none) 2 src = .ok r
      ∧ ∃ e ts, Scans ts src.toList [] ∧ Written Lexeme (fun _ => none) (.expr e) ts
        ∧ e.fold = .ok r := by
  intro src r
  have hparse : Expr.parse (fun _ => none) 2 src = .ok r := by
    cbv
  exact ⟨hparse, written_of_parse hparse⟩

end Expr

end Stencil
