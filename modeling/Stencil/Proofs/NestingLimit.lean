import Stencil.Proofs.ErrorPosition
import Stencil.Proofs.Parser.Room
import Stencil.Proofs.Parser.Stable

/-!
This module contains the proof that the nesting limit only ever cuts off: it decides whether a source
is read to its end, but not what it is read as, and no source is too deep for its own length.
-/

namespace Stencil

variable {H : Type} [HostObject H]

namespace Parser

open Cursor

theorem stable_source (classes : ClassLookup H) (length : Nat) : Stable (source classes length) := by
  have hread : Stable (do
      let e ← expression classes (callBound length)
      if (← nextSignificant).isSome then unexpected
      return e) := by
    apply stable_bind (allStable classes _).expression
    intro e
    apply stable_bind stable_nextSignificant
    intro next
    apply stable_ite _ (stable_pure _)
    exact stable_bind stable_unexpected fun _ => stable_pure _
  apply stable_bind stable_nextSignificant
  intro next
  exact stable_ite (stable_fail_bind _ _) hread

theorem shallow_source (classes : ClassLookup H) (limit : Nat) (src : List Char) :
    Satisfies (source classes src.length) (start src limit) (fun _ _ => True)
      (·.Shallow limit) := by
  have hc := (room_start src limit).skipBlanks
  have hcalls : 16 * src.length + 6 ≤ callBound src.length := by
    unfold callBound
    omega
  rw [source, satisfies_bind, satisfies_nextSignificant, satisfies_ite]
  split
  . exact shallow_fail (by simp)
  . rw [satisfies_bind]
    apply (allManage classes limit _).expression.rule hc hcalls
    intro e c₁ _
    rw [satisfies_bind, satisfies_nextSignificant, satisfies_ite]
    split
    . exact shallow_unexpected
    . trivial

end Parser

namespace Expr

theorem parse_eq (classes : Parser.ClassLookup H) (limit : Nat) (src : String) :
    Expr.parse classes limit src
      = (Parser.source classes src.toList.length (Cursor.start src.toList limit)).map Prod.fst := by
  unfold Expr.parse
  simp only [StateT.run]
  cases Parser.source classes src.toList.length (Cursor.start src.toList limit) with
  | error e => rfl
  | ok result => rfl

theorem shallow_of_parse {classes : Parser.ClassLookup H} {limit : Nat} {src : String}
    {err : ParseError} (h : Expr.parse classes limit src = .error err) : err.Shallow limit := by
  have hsource := Parser.shallow_source classes limit src.toList
  rw [parse_eq] at h
  unfold Parser.Satisfies at hsource
  split at hsource
  . next heq =>
    rw [heq] at h
    cases h
  . next heq =>
    rw [heq] at h
    cases h
    exact hsource

theorem parse_of_limit_le {classes : Parser.ClassLookup H} {limit limit' : Nat}
    (h : limit ≤ limit') (src : String) :
    (∃ pos, Expr.parse classes limit src = .error ⟨pos, .tooDeep limit⟩)
      ∨ Expr.parse classes limit src = Expr.parse classes limit' src := by
  have hstable := Parser.stable_source classes src.toList.length
    (Cursor.start src.toList limit) limit' h
  have hstart : (Cursor.start src.toList limit).withLimit limit'
      = Cursor.start src.toList limit' := rfl
  simp only [parse_eq]
  rw [hstart] at hstable
  unfold Parser.Satisfies at hstable
  split at hstable
  . next e c' heq =>
    right
    rw [heq, hstable.2]
    rfl
  . next err heq =>
    rw [heq]
    rcases hstable with hdeep | herr
    . left
      obtain ⟨pos, problem⟩ := err
      cases hdeep
      exact ⟨pos, rfl⟩
    . right
      rw [herr]

/--
Under a lower limit a source is either too deep or read as under a higher one, with the same tree or
the same error. It is never too deep for a limit that is as large as its length.
-/
theorem limit_only_cuts (classes : Parser.ClassLookup H) (limit : Nat) (src : String) :
    (∀ limit', limit ≤ limit' →
        (∃ pos, Expr.parse classes limit src = .error ⟨pos, .tooDeep limit⟩)
          ∨ Expr.parse classes limit src = Expr.parse classes limit' src)
      ∧ (src.toList.length ≤ limit →
        ∀ pos depth, Expr.parse classes limit src ≠ .error ⟨pos, .tooDeep depth⟩) := by
  constructor
  . intro limit' h
    exact parse_of_limit_le h src
  . intro hlength pos depth hparse
    have hdeep : limit < pos := shallow_of_parse hparse depth rfl
    obtain ⟨pos', hle, hpos, _⟩ := pointsInto_of_parse hparse
    simp only [Nat.zero_add] at hpos
    omega

theorem limit_only_cuts_nested :
    let parse (limit : Nat) (src : String) : Except ParseError (Expr Empty) :=
      Expr.parse (fun _ => none) limit src
    1 ≤ 2
      ∧ ((∃ pos, parse 1 "([x])" = .error ⟨pos, .tooDeep 1⟩) ∨ parse 1 "([x])" = parse 2 "([x])")
      ∧ "(-[x".toList.length ≤ 4
      ∧ ∀ pos depth, parse 4 "(-[x" ≠ .error ⟨pos, .tooDeep depth⟩ := by
  intro parse
  have hlength : "(-[x".toList.length ≤ 4 := by
    decide
  exact ⟨by decide, (limit_only_cuts _ 1 "([x])").1 2 (by decide), hlength,
    (limit_only_cuts _ 4 "(-[x").2 hlength⟩

end Expr

end Stencil
