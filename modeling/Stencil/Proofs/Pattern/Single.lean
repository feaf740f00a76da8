import Stencil.Proofs.Pattern.Anchored

/-!
This module contains the proof that a character which is no operator of patterns is a pattern for
itself, and that splitting a text by that pattern cuts the text at every place where the character
stands.
-/

namespace Stencil

namespace Pattern

open Reader

/--
The characters that mean something else than themselves, or nothing, when they stand alone.
-/
def operators : List Char :=
  ['\\', '.', '+', '*', '?', '(', ')', '|', '[', '\x7b', '^', '$']

variable {c : Char}

theorem read_single (h : c ∉ operators) : read [c] = .ok (.char (.single c), {}) := by
  simp only [operators, List.mem_cons, List.not_mem_nil, or_false, not_or] at h
  obtain ⟨hslash, hdot, hplus, hstar, hoption, hopen, hclose, hbar, hclass, hbrace, hhat, hdollar⟩
    := h
  have hread : alternatives {} {} [] [] 8 [c]
      = .ok ((⟨some (.char (.single c)), 0⟩, {}), []) := by
    rw [alternatives_succ]
    simp only [nextPart, skip_plain, stop_cons, ifHead_cons, take_cons, hslash, hdot, hplus, hstar,
      hoption, hopen, hclose, hbar, hclass, hbrace, hhat, hdollar, if_false]
    rw [alternatives_succ]
    rfl
  rw [read_of_nil hread, if_pos (Nat.zero_le _)]
  rfl

theorem isTooLarge_single (c : Char) : (Pattern.char (.single c)).isTooLarge = false := by
  have hlayout : Layout.ofPattern (.char (.single c)) = .fixed c.utf8Size 0 := by
    simp [Layout.ofPattern, Layout.ofSet, CharSet.single]
  have hbytes := c.utf8Size_le_four
  simp [isTooLarge, size, hlayout, startsAtStart, endsAtEnd, Layout.add, Layout.add.way,
    Construction.grow, Construction.bytes, sizeLimit]
  omega

end Pattern

namespace Automaton

def single (c : Char) : Automaton :=
  ⟨#[.matched, .char (.single c) 0], 1⟩

variable {c : Char} {pos : Nat} {marks : Array Nat}

theorem Fresh.not_reached {a : Automaton} (h : Fresh a pos marks) (pc : Nat) :
    marks[pc]? ≠ some (pos + 1) := by
  intro hpc
  have := h.le _ (Array.mem_of_getElem? hpc)
  omega

theorem arrive_single (h : Fresh (single c) pos marks) (before after : Option Char) :
    (single c).arrive pos before after marks [] none
      = ⟨marks.setIfInBounds 1 (pos + 1), [⟨1, pos, []⟩], none⟩ := by
  have hone := h.not_reached 1
  simp [arrive, single, follow, hone]

theorem arrive_single_matched (h : Fresh (single c) pos marks) (start : Nat)
    (before after : Option Char) :
    (single c).arrive pos before after marks [⟨0, start, []⟩] none
      = ⟨marks.setIfInBounds 0 (pos + 1), [], some ⟨start, pos, []⟩⟩ := by
  have hzero := h.not_reached 0
  simp [arrive, single, follow, hzero]

theorem step_single (d : Char) (start : Nat) :
    step (single c).program d [⟨1, start, []⟩] = if d = c then [⟨0, start, []⟩] else [] := by
  have hcontains : (CharSet.single c).contains d = decide (d = c) := by
    rw [CharSet.single, CharSet.contains, ← Bool.decide_and]
    exact decide_eq_decide.mpr ⟨fun h => Char.le_antisymm h.2 h.1, by rintro rfl; simp⟩
  rw [step, List.filterMap_cons, List.filterMap_nil]
  by_cases hd : d = c
  . subst hd
    simp [single, hcontains]
  . simp [single, hcontains, hd]

theorem searchFrom_single_cons (h : Fresh (single c) pos marks) (before : Option Char) (d : Char)
    (rest : List Char) :
    ∃ marks', Fresh (single c) (pos + 1) marks'
      ∧ (single c).searchFrom pos before marks [] none (d :: rest)
        = (single c).searchFrom (pos + 1) (some d) marks' (if d = c then [⟨0, pos, []⟩] else []) none
          rest := by
  have hfresh := h.arrive ⟨before, d :: rest⟩ [] none
  simp only [List.head?_cons, arrive_single h] at hfresh
  refine ⟨_, hfresh, ?_⟩
  rw [searchFrom, arrive_single h]
  simp only [Option.isSome_none, Bool.and_false, Bool.false_eq_true, if_false,
    List.reverse_singleton, step_single]

theorem searchFrom_single_matched (h : Fresh (single c) pos marks) (before : Option Char)
    (start : Nat) (cs : List Char) :
    (single c).searchFrom pos before marks [⟨0, start, []⟩] none cs = some ⟨start, pos, []⟩ := by
  cases cs with
  | nil => rw [searchFrom, arrive_single_matched h]
  | cons d rest =>
    rw [searchFrom, arrive_single_matched h]
    rfl

theorem searchFrom_single (h : Fresh (single c) pos marks) (before : Option Char)
    {cs : List Char} (hcs : c ∉ cs) :
    (single c).searchFrom pos before marks [] none cs = none := by
  induction cs generalizing pos before marks with
  | nil => rw [searchFrom, arrive_single h]
  | cons d rest ih =>
    rw [List.mem_cons, not_or] at hcs
    obtain ⟨hd, hrest⟩ := hcs
    obtain ⟨marks', hfresh, hstep⟩ := searchFrom_single_cons h before d rest
    rw [hstep, if_neg (Ne.symm hd)]
    exact ih hfresh _ hrest

theorem searchFrom_single_append (h : Fresh (single c) pos marks) (before : Option Char)
    {xs : List Char} (hxs : c ∉ xs) (ys : List Char) :
    (single c).searchFrom pos before marks [] none (xs ++ c :: ys)
      = some ⟨pos + xs.length, pos + xs.length + 1, []⟩ := by
  induction xs generalizing pos before marks with
  | nil =>
    obtain ⟨marks', hfresh, hstep⟩ := searchFrom_single_cons h before c ys
    rw [List.nil_append, hstep, if_pos rfl, searchFrom_single_matched hfresh]
    rfl
  | cons d rest ih =>
    rw [List.mem_cons, not_or] at hxs
    obtain ⟨hd, hrest⟩ := hxs
    obtain ⟨marks', hfresh, hstep⟩ := searchFrom_single_cons h before d (rest ++ c :: ys)
    rw [List.cons_append, hstep, if_neg (Ne.symm hd), ih hfresh _ hrest, List.length_cons,
      Nat.add_assoc pos 1, Nat.add_comm 1]

theorem fresh_replicate (a : Automaton) (pos : Nat) :
    Fresh a pos (Array.replicate a.program.size 0) :=
  ⟨by simp, by simp⟩

theorem matchesFrom_single (fuel : Nat) (before : Option Char) (last : Option Nat)
    {cs : List Char} (hcs : c ∉ cs) : (single c).matchesFrom fuel pos before cs last = [] := by
  cases fuel with
  | zero => rfl
  | succ fuel =>
    simp only [matchesFrom, search, searchFrom_single (fresh_replicate _ pos) before hcs]

theorem matchesFrom_single_append (fuel : Nat) (before : Option Char) (last : Option Nat)
    {xs : List Char} (hxs : c ∉ xs) (ys : List Char) :
    ∃ before', (single c).matchesFrom (fuel + 1) pos before (xs ++ c :: ys) last
      = ⟨pos + xs.length, pos + xs.length + 1, []⟩
        :: (single c).matchesFrom fuel (pos + xs.length + 1) before' ys
          (some (pos + xs.length + 1)) := by
  have hdrop : (xs ++ c :: ys).drop (pos + xs.length + 1 - pos) = ys := by
    rw [Nat.add_assoc, Nat.add_sub_cancel_left, List.drop_append]
    simp
  simp only [matchesFrom, search, searchFrom_single_append (fresh_replicate _ pos) before hxs, hdrop]
  have hne : (pos + xs.length == pos + xs.length + 1) = false := by simp
  simp only [hne, Bool.false_and, Bool.false_eq_true, if_false]
  exact ⟨_, rfl⟩

end Automaton

theorem Regex.ofText_single {c : Char} (h : c ∉ Pattern.operators) :
    Regex.ofText [c] = .ok ⟨.single c, []⟩ := by
  rw [Regex.ofText, Pattern.read_single h, Outcome.ok_bind]
  simp [Automaton.ofPattern, Pattern.isTooLarge_single, Pattern.compile, Automaton.single]

namespace Regex

variable {c : Char}

theorem go_matchesFrom_single (fuel pos : Nat) (before : Option Char) (last : Option Nat)
    {cs : List Char} (hfuel : cs.length < fuel) :
    split.go pos cs ((Automaton.single c).matchesFrom fuel pos before cs last) = cs.splitOn c := by
  induction fuel generalizing pos before last cs with
  | zero => cases hfuel
  | succ fuel ih =>
    by_cases hcs : c ∈ cs
    . obtain ⟨xs, ys, rfl, hxs⟩ := List.eq_append_cons_of_mem hcs
      obtain ⟨before', hmatches⟩ :=
        Automaton.matchesFrom_single_append fuel (c := c) before last hxs ys
      have htake : (xs ++ c :: ys).take (pos + xs.length - pos) = xs := by
        rw [Nat.add_sub_cancel_left, List.take_left]
      have hdrop : (xs ++ c :: ys).drop (pos + xs.length + 1 - pos) = ys := by
        rw [Nat.add_assoc, Nat.add_sub_cancel_left, List.drop_append]
        simp
      rw [List.length_append, List.length_cons] at hfuel
      rw [hmatches, split.go, htake, hdrop, ih _ _ _ (by omega),
        List.splitOn_append_cons_self_of_not_mem hxs]
    . rw [Automaton.matchesFrom_single _ _ _ hcs, split.go, List.splitOn_eq_singleton hcs]

theorem split_single (names : List (String × Nat)) (text : List Char) :
    (Regex.mk (.single c) names).split text = text.splitOn c := by
  rw [split, Automaton.matchesIn]
  exact go_matchesFrom_single _ 0 none none (by omega)

end Regex

end Stencil
