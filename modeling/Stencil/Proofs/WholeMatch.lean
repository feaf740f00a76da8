import Stencil.Members.Text
import Stencil.Proofs.Pattern.Anchored

/-!
This module contains what the method `matches` of a text finds out. It puts the pattern into a group
between the tests for both ends of the text, so that the whole text must match. That fails for
patterns that reach out of their group: those that close it, and those that end in a comment.
-/

namespace Stencil

namespace Regex

def WithinLimits (pattern : List Char) : Prop :=
  Regex.ofText pattern ≠ .error .tooDeep ∧ Regex.ofText pattern ≠ .error .tooLarge

variable {pattern : List Char} {tree : Pattern} {groups : Pattern.Groups}

theorem withinLimits_of_isOk (h : (Regex.ofText pattern).isOk) : WithinLimits pattern := by
  constructor
  . intro herror
    rw [herror] at h
    cases h
  . intro herror
    rw [herror] at h
    cases h

theorem ofText_of_error {e : PatternError} (h : Pattern.read pattern = .error e) :
    Regex.ofText pattern = .error e := by
  rw [ofText, h]
  rfl

theorem ofText_of_read (h : Pattern.read pattern = .ok (tree, groups)) :
    (∃ r, Regex.ofText pattern = .ok r) ∨ Regex.ofText pattern = .error .tooLarge := by
  rw [ofText, h, Outcome.ok_bind]
  cases hsize : tree.isTooLarge with
  | true => simp [Automaton.ofPattern, hsize]
  | false => simp [Automaton.ofPattern, hsize]

theorem ofText_anchored (h : Pattern.read pattern = .ok (tree, groups))
    (hcomment : ¬ Pattern.EndsInComment pattern) (hlimits : WithinLimits (anchored pattern)) :
    ∃ r, Regex.ofText (anchored pattern) = .ok r ∧ ∀ text, r.isMatch text ↔ tree.Describes text := by
  obtain ⟨hdepth, hsize⟩ := hlimits
  obtain hread | hdeep := Pattern.read_anchored h hcomment
  . obtain ⟨r, hr⟩ | hlarge := ofText_of_read hread
    . exact ⟨r, hr, fun text => (isMatch_iff hr hread text).trans Pattern.occursIn_whole⟩
    . exact absurd hlarge hsize
  . exact absurd (ofText_of_error hdeep) hdepth

theorem ofText_anchored_of_error {e : PatternError} (h : Pattern.read pattern = .error e)
    (hopened : e ≠ .unopenedGroup) : ∃ e, Regex.ofText (anchored pattern) = .error e := by
  cases hread : Pattern.read (anchored pattern) with
  | error e => exact ⟨e, ofText_of_error hread⟩
  | ok r =>
    obtain ⟨r, hr⟩ := Pattern.read_of_anchored hread (by simpa [h] using hopened)
    rw [h] at hr
    cases hr

end Regex

namespace Members

variable {H : Type} [HostObject H] (s p : String)

theorem matches_of_error {e : PatternError}
    (h : Regex.ofText (Regex.anchored p.toList) = .error e) :
    textMethod s "matches" [(.str p : Value H)]
      = some (.error (.callResolution "matches" (.pattern e.message))) := by
  simp [textMethod, Arguments.oneText, Arguments.one, Arguments.text, pattern, h]

theorem matches_of_ok {r : Regex} (h : Regex.ofText (Regex.anchored p.toList) = .ok r) :
    textMethod s "matches" [(.str p : Value H)] = some (.ok (.bool (r.isMatch s.toList))) := by
  simp [textMethod, Arguments.oneText, Arguments.one, Arguments.text, pattern, h]

variable {p}

/--
For a pattern that stays in its group, the method fails if and only if there is something wrong with
the pattern itself, and otherwise it tells whether the text as a whole belongs to its language.
-/
theorem matches_whole (hopened : Pattern.read p.toList ≠ .error .unopenedGroup)
    (hcomment : ¬ Pattern.EndsInComment p.toList)
    (hlimits : Regex.WithinLimits (Regex.anchored p.toList)) :
    ((∃ reason, textMethod s "matches" [(.str p : Value H)]
          = some (.error (.callResolution "matches" reason)))
        ↔ ∃ e, Pattern.read p.toList = .error e)
      ∧ ∀ tree groups, Pattern.read p.toList = .ok (tree, groups) →
        ∃ b, textMethod s "matches" [(.str p : Value H)] = some (.ok (.bool b))
          ∧ (b ↔ tree.Describes s.toList) := by
  cases hread : Pattern.read p.toList with
  | error e =>
    obtain ⟨e', he'⟩ := Regex.ofText_anchored_of_error hread (by simpa [hread] using hopened)
    refine ⟨?_, ?_⟩
    . exact iff_of_true ⟨_, matches_of_error s p he'⟩ ⟨e, rfl⟩
    . rintro tree groups h
      cases h
  | ok r =>
    obtain ⟨tree, groups⟩ := r
    obtain ⟨r, hr, hmatch⟩ := Regex.ofText_anchored hread hcomment hlimits
    have hresult := matches_of_ok (H := H) s p hr
    refine ⟨iff_of_false ?_ ?_, ?_⟩
    . rintro ⟨reason, h⟩
      rw [hresult] at h
      cases h
    . rintro ⟨e, h⟩
      cases h
    . rintro _ _ h
      cases h
      exact ⟨_, hresult, hmatch s.toList⟩

theorem matches_whole_alternatives :
    ∃ tree groups, Pattern.read "a|bc".toList = .ok (tree, groups)
      ∧ textMethod "ab" "matches" [(.str "a|bc" : Value Empty)] = some (.ok (.bool false))
      ∧ ¬ tree.Describes "ab".toList := by
  have hcomment : ¬ Pattern.EndsInComment "a|bc".toList := by
    rintro ⟨r, -, h⟩
    cases h
  have hlimits : Regex.WithinLimits (Regex.anchored "a|bc".toList) :=
    Regex.withinLimits_of_isOk rfl
  have hopened : Pattern.read "a|bc".toList ≠ .error .unopenedGroup := by
    rintro h
    cases h
  have hresult : textMethod "ab" "matches" [(.str "a|bc" : Value Empty)] = some (.ok (.bool false)) :=
    rfl
  obtain ⟨tree, groups, hread⟩ :
      ∃ tree groups, Pattern.read "a|bc".toList = .ok (tree, groups) := ⟨_, _, rfl⟩
  obtain ⟨b, hb, hdescribes⟩ :=
    (matches_whole (H := Empty) "ab" hopened hcomment hlimits).2 tree groups hread
  rw [hresult] at hb
  cases hb
  exact ⟨tree, groups, hread, hresult, fun h => Bool.false_ne_true (hdescribes.mpr h)⟩

/--
A pattern that closes a group it has not opened is not one, but it is accepted: the group that was
put around it takes its place.
-/
theorem matches_stray_parenthesis :
    Regex.ofText "a)(b".toList = .error .unopenedGroup
      ∧ textMethod "ab" "matches" [(.str "a)(b" : Value Empty)] = some (.ok (.bool true)) := by
  constructor
  . rfl
  . rfl

theorem matches_of_comment (h : Pattern.EndsInComment p.toList) :
    textMethod s "matches" [(.str p : Value H)]
      = some (.error (.callResolution "matches" (.pattern PatternError.unclosedGroup.message))) :=
  matches_of_error s p (Regex.ofText_of_error (Pattern.read_anchored_of_comment h))

example : Pattern.EndsInComment "(?x)a#c".toList :=
  ⟨(.char (.range 'a' 'a'), {}), by cbv, by cbv⟩

end Members

end Stencil
