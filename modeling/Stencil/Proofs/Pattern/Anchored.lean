import Stencil.Proofs.Pattern.Group
import Stencil.Proofs.Pattern.Language
import Stencil.Proofs.Pattern.Search

/-!
This module contains how a pattern is read as a group between the tests for both ends of the text:
the group is what the pattern is on its own, unless the pattern closes a group it has not opened, or
ends in a comment.
-/

namespace Stencil

open Outcome

namespace Pattern

open Reader

theorem read_of_nil {cs : List Char} {part : Part} {groups : Groups}
    (h : alternatives {} {} [] [] (4 * cs.length + 4) cs = .ok ((part, groups), [])) :
    read cs = if part.depth ≤ nestLimit then .ok (part.tree.getD .empty, groups)
      else .error .tooDeep := by
  rw [read, h]
  by_cases hdepth : part.depth ≤ nestLimit
  . rw [if_pos hdepth, ok_bind]
    simp only [List.isEmpty_nil, Bool.not_true, Bool.false_eq_true, if_false,
      if_neg (Nat.not_lt.mpr hdepth)]
    rfl
  . rw [if_neg hdepth, ok_bind]
    simp only [List.isEmpty_nil, Bool.not_true, Bool.false_eq_true, if_false,
      if_pos (Nat.not_le.mp hdepth)]
    rfl

theorem read_of_ne_nil {cs rest : List Char} {r : Part × Groups}
    (h : alternatives {} {} [] [] (4 * cs.length + 4) cs = .ok (r, rest)) (hrest : rest ≠ []) :
    read cs = .error .unopenedGroup := by
  -- A parenthesis that is left closes a group that was not opened.
  rw [read, h]
  cases rest with
  | nil => exact absurd rfl hrest
  | cons => rfl

theorem alternatives_of_read {cs : List Char} {tree : Pattern} {groups : Groups}
    (h : read cs = .ok (tree, groups)) :
    ∃ part, alternatives {} {} [] [] (4 * cs.length + 4) cs = .ok ((part, groups), [])
      ∧ part.depth ≤ nestLimit ∧ tree = part.tree.getD .empty := by
  obtain ⟨⟨⟨part, groups'⟩, rest⟩, hread, -⟩ := bind_eq_ok.mp (read.eq_def cs ▸ h)
  by_cases hrest : rest = []
  . subst hrest
    rw [read_of_nil hread] at h
    split at h
    . next hdepth =>
      cases h
      exact ⟨part, hread, hdepth, rfl⟩
    . cases h
  . rw [read_of_ne_nil hread hrest] at h
    cases h

/--
The pattern ends in a comment: a parenthesis after it belongs to that, and nothing else is read.
-/
def EndsInComment (cs : List Char) : Prop :=
  ∃ r, read cs = .ok r ∧ read (cs ++ [')', '$']) = .ok r

def whole (part : Part) : Part :=
  joinAlternatives
    [joinParts [⟨some (.look .startOfText), 0⟩, ⟨part.tree, part.depth + 1⟩,
      ⟨some (.look .endOfText), 0⟩]]

theorem whole_depth (part : Part) : (whole part).depth = part.depth + 2 := by
  simp [whole, joinAlternatives, joinParts]

theorem choice_single (pattern : Pattern) : choice [pattern] = pattern := by
  unfold choice
  cases charSets? [pattern] <;> rfl

theorem whole_tree (part : Part) :
    (whole part).tree = some
      (sequence [.look .startOfText, part.tree.getD .empty, .look .endOfText]) := by
  cases h : part.tree with
  | none => simp [whole, joinAlternatives, joinParts, choice_single, h, sequence, isEmpty]
  | some tree => simp [whole, joinAlternatives, joinParts, choice_single, h]

theorem skip_plain (cs : List Char) : Flags.skip {} cs = cs := by
  rfl

theorem setting_colon (groups : Groups) (fuel : Nat) (cs : List Char) :
    setting {} groups fuel (':' :: cs)
      = enclosed {} groups fuel (fun part after => (⟨part.tree, part.depth + 1⟩, {}, after)) cs := by
  rfl

theorem alternatives_anchored (cs : List Char) (n : Nat) :
    alternatives {} {} [] [] (n + 3) (Regex.anchored cs)
      = alternatives {} {} [] [] n (cs ++ [')', '$']) >>= fun ((part, after), rest) =>
        closing (⟨part.tree, part.depth + 1⟩, {}, after) rest >>= fun ((part, flags, groups), rest) =>
          alternatives flags groups [] [part, ⟨some (.look .startOfText), 0⟩] (n + 1) rest := by
  have hgroup : group {} {} (n + 1) ('?' :: ':' :: (cs ++ [')', '$']))
      = enclosed {} {} n (fun part after => (⟨part.tree, part.depth + 1⟩, {}, after))
        (cs ++ [')', '$']) := by
    rw [group_succ]
    simp only [skip_plain, ifHead_cons, Char.reduceEq, if_false, if_true, setting_colon]
  rw [alternatives_succ, Regex.anchored]
  simp only [nextPart, skip_plain, List.cons_append, stop_cons, ifHead_cons, Char.reduceEq, if_false,
    if_true]
  rw [alternatives_succ]
  simp only [nextPart, skip_plain, stop_cons, ifHead_cons, Char.reduceEq, if_false, if_true, hgroup,
    enclosed, bind_assoc]
  rfl

variable {cs : List Char} {part : Part} {groups : Groups} {n : Nat}

theorem alternatives_anchored_of_closed
    (h : alternatives {} {} [] [] (n + 1) (cs ++ [')', '$']) = .ok ((part, groups), [')', '$'])) :
    alternatives {} {} [] [] (n + 4) (Regex.anchored cs) = .ok ((whole part, groups), []) := by
  rw [alternatives_anchored, h]
  rfl

theorem alternatives_anchored_of_comment
    (h : alternatives {} {} [] [] n (cs ++ [')', '$']) = .ok ((part, groups), [])) :
    alternatives {} {} [] [] (n + 3) (Regex.anchored cs) = .error .unclosedGroup := by
  rw [alternatives_anchored, h]
  rfl

theorem alternatives_of_anchored {r : (Part × Groups) × List Char}
    (h : alternatives {} {} [] [] (n + 3) (Regex.anchored cs) = .ok r) :
    ∃ part groups rest,
      alternatives {} {} [] [] n (cs ++ [')', '$']) = .ok ((part, groups), rest ++ [')', '$']) := by
  rw [alternatives_anchored] at h
  obtain ⟨⟨⟨part, groups⟩, rest⟩, hinner, h⟩ := bind_eq_ok.mp h
  obtain ⟨_, hclosing, -⟩ := bind_eq_ok.mp h
  obtain ⟨after, rfl⟩ : ∃ after, rest = ')' :: after := by
    cases rest with
    | nil => cases hclosing
    | cons c after =>
      by_cases hc : c = ')'
      . exact ⟨after, by rw [hc]⟩
      . simp only [closing, take_cons, if_neg hc] at hclosing
        cases hclosing
  have hsuffix := (shortens_groups n).1 {} {} [] [] _ _ _ hinner
  obtain ⟨rest, hrest⟩ | ⟨rest, hrest⟩ := List.suffix_or_suffix_of_suffix hsuffix
    (List.suffix_append cs [')', '$'])
  . -- Of the trailer only the whole starts with a parenthesis.
    cases rest with
    | nil => exact ⟨part, groups, [], by rw [hinner, ← hrest]; rfl⟩
    | cons c after => cases after <;> simp at hrest
  . exact ⟨part, groups, rest, by rw [hinner, hrest]⟩

variable {tree : Pattern}

theorem alternatives_of_read_append (h : read cs = .ok (tree, groups)) :
    ∃ part rest, alternatives {} {} [] [] (4 * (cs ++ [')', '$']).length + 4) (cs ++ [')', '$'])
        = .ok ((part, groups), rest)
      ∧ part.depth ≤ nestLimit ∧ tree = part.tree.getD .empty
      ∧ (rest = [')', '$'] ∨ rest = []) := by
  obtain ⟨part, hread, hdepth, htree⟩ := alternatives_of_read h
  have hagrees : Agrees never cs.length (alternatives {} {} [] [] (4 * cs.length + 4))
      (alternatives {} {} [] [] (4 * (cs ++ [')', '$']).length + 4)) :=
    agrees_alternatives {} {} [] [] (by omega) (by rw [List.length_append]; omega)
  obtain ⟨rest, hok, hrest⟩ := hagrees.extend (Nat.le_refl _) .closing hread
  exact ⟨part, rest, hok, hdepth, htree, hrest⟩

theorem alternatives_of_le {text rest : List Char} {r : Part × Groups}
    (h : alternatives {} {} [] [] (4 * text.length + 4) text = .ok (r, rest))
    (hn : 4 * text.length + 4 ≤ n) : alternatives {} {} [] [] n text = .ok (r, rest) :=
  (agrees_alternatives {} {} [] [] (k := text.length) (by omega) hn).eq_ok (Nat.le_refl _) h

theorem anchored_fuel (cs : List Char) :
    4 * (Regex.anchored cs).length + 4 = 4 * cs.length + 24 + 4 := by
  simp [Regex.anchored]
  omega

theorem read_anchored (h : read cs = .ok (tree, groups)) (hcomment : ¬ EndsInComment cs) :
    read (Regex.anchored cs)
        = .ok (sequence [.look .startOfText, tree, .look .endOfText], groups)
      ∨ read (Regex.anchored cs) = .error .tooDeep := by
  obtain ⟨part, rest, hok, hdepth, rfl, rfl | rfl⟩ := alternatives_of_read_append h
  . have hwhole : alternatives {} {} [] [] (4 * (Regex.anchored cs).length + 4) (Regex.anchored cs)
        = .ok ((whole part, groups), []) := by
      rw [anchored_fuel]
      exact alternatives_anchored_of_closed (alternatives_of_le hok (by simp; omega))
    rw [read_of_nil hwhole, whole_tree]
    split
    . exact .inl rfl
    . exact .inr rfl
  . refine absurd ⟨_, h, ?_⟩ hcomment
    rw [read_of_nil hok, if_pos hdepth]

theorem read_anchored_of_comment (h : EndsInComment cs) :
    read (Regex.anchored cs) = .error .unclosedGroup := by
  obtain ⟨⟨tree, groups⟩, -, h⟩ := h
  obtain ⟨part, hok, -, -⟩ := alternatives_of_read h
  have hanchored : alternatives {} {} [] [] (4 * (Regex.anchored cs).length + 4) (Regex.anchored cs)
      = .error .unclosedGroup := by
    rw [anchored_fuel]
    exact alternatives_anchored_of_comment (n := 4 * cs.length + 25)
      (alternatives_of_le hok (by simp; omega))
  rw [read, hanchored]
  rfl

theorem read_of_anchored {r : Pattern × Groups} (h : read (Regex.anchored cs) = .ok r)
    (hopened : read cs ≠ .error .unopenedGroup) : ∃ r, read cs = .ok r := by
  obtain ⟨tree, groups⟩ := r
  obtain ⟨outer, houter, hdepth, -⟩ := alternatives_of_read h
  rw [anchored_fuel] at houter
  obtain ⟨part, groups', rest, hinner⟩ := alternatives_of_anchored (n := 4 * cs.length + 25) houter
  have hagrees : Agrees never cs.length (alternatives {} {} [] [] (4 * cs.length + 4))
      (alternatives {} {} [] [] (4 * cs.length + 25)) :=
    agrees_alternatives {} {} [] [] (by omega) (by omega)
  obtain hread | hnever := hagrees.retract (Nat.le_refl _) .closing hinner
  . by_cases hrest : rest = []
    . subst hrest
      have hwhole := alternatives_anchored_of_closed hinner
      rw [houter] at hwhole
      cases hwhole
      rw [whole_depth] at hdepth
      exact ⟨_, (read_of_nil hread).trans (if_pos (by omega))⟩
    . exact absurd (read_of_ne_nil hread hrest) hopened
  . exact hnever.elim

end Pattern

end Stencil
