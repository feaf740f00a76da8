import Mathlib.Data.List.TakeDrop
import Mathlib.Data.List.TakeWhile
import Stencil.Text.Search

/-!
This module contains what it means to find a part of a text: a text is cut at the first place where
the part stands, and it is not cut if and only if the part stands nowhere in it.
-/

namespace Stencil

namespace Text

/--
No `part` begins in `before ++ part ++ after` in front of the one that stands behind `before`.
-/
def IsFirst (part before after : List Char) : Prop :=
  ∀ b a, before ++ part ++ after = b ++ part ++ a → before.length ≤ b.length

theorem IsFirst.unique {part before after b a : List Char}
    (h : before ++ part ++ after = b ++ part ++ a) (hfirst : IsFirst part before after)
    (hfirst' : IsFirst part b a) : before = b ∧ after = a := by
  have hlength : before.length = b.length := by
    apply Nat.le_antisymm
    . exact hfirst b a h
    . exact hfirst' before after h.symm
  simp only [List.append_assoc] at h
  obtain ⟨hb, ha⟩ := List.append_inj h hlength
  exact ⟨hb, List.append_cancel_left ha⟩

theorem isFirst_nil (part after : List Char) : IsFirst part [] after := by
  intro b a h
  simp

theorem dropPrefix?_eq_some {part cs rest : List Char} :
    dropPrefix? part cs = some rest ↔ cs = part ++ rest := by
  fun_induction dropPrefix? part cs with
  | case1 cs => simp
  | case2 p part => simp
  | case3 p part c cs h ih => simp_all
  | case4 p part c cs h =>
    simp only [reduceCtorEq, List.cons_append, List.cons.injEq, false_iff, not_and]
    intro hc
    simp_all

theorem startsWith_iff {part cs : List Char} : startsWith part cs ↔ part <+: cs := by
  simp only [startsWith, Option.isSome_iff_exists, dropPrefix?_eq_some, List.IsPrefix]
  constructor
  all_goals
    intro ⟨rest, h⟩
    exact ⟨rest, h.symm⟩

theorem splitOnce?_nil (part : List Char) :
    splitOnce? part [] = if part.isEmpty then some ([], []) else none := by
  simp only [splitOnce?, find?]
  split <;> simp_all

theorem splitOnce?_cons (part rest : List Char) (c : Char) :
    splitOnce? part (c :: rest)
      = if startsWith part (c :: rest) then some ([], (c :: rest).drop part.length)
        else (splitOnce? part rest).map fun (before, after) => (c :: before, after) := by
  simp only [splitOnce?, find?]
  split
  . simp
  . cases find? part rest with
    | none => rfl
    | some i => simp [Nat.add_right_comm]

theorem splitOnce?_eq_none_iff {part cs : List Char} :
    splitOnce? part cs = none ↔ ¬ part <:+: cs := by
  induction cs with
  | nil => simp [splitOnce?_nil]
  | cons c rest ih =>
    rw [splitOnce?_cons, List.infix_cons_iff, ← startsWith_iff]
    split <;> simp_all

theorem splitOnce?_spec {part cs before after : List Char}
    (h : splitOnce? part cs = some (before, after)) :
    cs = before ++ part ++ after ∧ IsFirst part before after := by
  induction cs generalizing before with
  | nil =>
    rw [splitOnce?_nil] at h
    split at h
    . simp_all [isFirst_nil]
    . simp at h
  | cons c rest ih =>
    rw [splitOnce?_cons] at h
    split at h
    . next hpart =>
      obtain ⟨after', hafter⟩ := startsWith_iff.mp hpart
      simp only [Option.some.injEq, Prod.mk.injEq] at h
      obtain ⟨rfl, rfl⟩ := h
      constructor
      . simp [← hafter]
      . apply isFirst_nil
    . next hpart =>
      simp only [Option.map_eq_some_iff, Prod.mk.injEq, Prod.exists] at h
      obtain ⟨before', after', hrest, rfl, rfl⟩ := h
      obtain ⟨hcs, hfirst⟩ := ih hrest
      constructor
      . simp [hcs]
      . intro b a hba
        cases b with
        | nil =>
          exfalso
          apply hpart
          rw [startsWith_iff, hcs]
          exact ⟨a, by simpa using hba.symm⟩
        | cons d b =>
          simp only [List.cons_append, List.cons.injEq] at hba
          have := hfirst b a hba.2
          simpa using this

theorem splitOnce?_eq_some_iff {part cs before after : List Char} :
    splitOnce? part cs = some (before, after)
      ↔ cs = before ++ part ++ after ∧ IsFirst part before after := by
  constructor
  . exact splitOnce?_spec
  . intro ⟨hcs, hfirst⟩
    cases h : splitOnce? part cs with
    | none =>
      rw [splitOnce?_eq_none_iff] at h
      exact absurd ⟨before, after, hcs.symm⟩ h
    | some cut =>
      obtain ⟨hcs', hfirst'⟩ := splitOnce?_spec h
      obtain ⟨hb, ha⟩ := hfirst.unique (hcs.symm.trans hcs') hfirst'
      rw [hb, ha]

theorem splitOnceBy?_append {p : Char → Bool} {before : List Char} {sign : Char}
    (hbefore : ∀ c ∈ before, p c = false) (hsign : p sign = true) (after : List Char) :
    splitOnceBy? p (before ++ sign :: after) = some (before, after) := by
  have hnot : ∀ c ∈ before, (!p c) = true := fun c hc => by rw [hbefore c hc, Bool.not_false]
  rw [splitOnceBy?, List.span_eq_takeWhile_dropWhile, List.takeWhile_append_of_pos hnot,
    List.dropWhile_append_of_pos hnot, List.takeWhile_cons_of_neg (by simp [hsign]),
    List.dropWhile_cons_of_neg (by simp [hsign]), List.append_nil]

theorem splitOnceBy?_of_not {p : Char → Bool} {cs : List Char} (h : ∀ c ∈ cs, p c = false) :
    splitOnceBy? p cs = none := by
  have hnot : ∀ c ∈ cs, (!p c) = true := by
    intro c hc
    rw [h c hc, Bool.not_false]
  rw [splitOnceBy?, List.span_eq_takeWhile_dropWhile, List.dropWhile_eq_nil_iff.mpr hnot]

theorem trimBy_append {p : Char → Bool} {blanks : List Char} (h : ∀ c ∈ blanks, p c = true)
    (cs : List Char) : trimBy p (cs ++ blanks) = trimBy p cs := by
  have hreverse : ∀ c ∈ blanks.reverse, p c = true := fun c hc => h c (List.mem_reverse.mp hc)
  rw [trimBy, trimBy, List.dropWhile_append]
  split
  . next hnil =>
    rw [List.isEmpty_iff] at hnil
    rw [List.dropWhile_eq_nil_iff.mpr h, hnil]
  . rw [List.reverse_append, List.dropWhile_append_of_pos hreverse]

theorem trimBy_eq_self {p : Char → Bool} {cs : List Char}
    (hfirst : ∀ c, cs.head? = some c → p c = false)
    (hlast : ∀ c, cs.getLast? = some c → p c = false) : trimBy p cs = cs := by
  have hkeep {cs : List Char} (h : ∀ c, cs.head? = some c → p c = false) : cs.dropWhile p = cs := by
    cases cs with
    | nil => rfl
    | cons c rest => exact List.dropWhile_cons_of_neg (by simp [h c rfl])
  rw [trimBy, hkeep hfirst, hkeep (fun c hc => hlast c (by rwa [List.head?_reverse] at hc)),
    List.reverse_reverse]

theorem trimBy_padded {p : Char → Bool} {before cs after : List Char}
    (hbefore : ∀ c ∈ before, p c = true) (hafter : ∀ c ∈ after, p c = true)
    (hcs : ∀ c ∈ cs, p c = false) : trimBy p (before ++ cs ++ after) = cs := by
  have hfirst : trimBy p (before ++ cs) = trimBy p cs := by
    rw [trimBy, List.dropWhile_append_of_pos hbefore, ← trimBy]
  rw [trimBy_append hafter, hfirst]
  exact trimBy_eq_self (fun c hc => hcs c (List.mem_of_mem_head? hc))
    (fun c hc => hcs c (List.mem_of_getLast? hc))

end Text

end Stencil
