import Stencil.Proofs.Text.Search

/-!
This module contains where a part stands in a text: the search for it finds the first of these
places, and the characters from there on, as many as the part has, are the part.
-/

namespace Stencil

namespace Text

variable {part cs : List Char} {i j k : Nat}

theorem find?_eq_none_iff : find? part cs = none ↔ ¬ part <:+: cs := by
  rw [← splitOnce?_eq_none_iff, splitOnce?, Option.map_eq_none_iff]

theorem find?_eq_some_iff :
    find? part cs = some i ↔ part <+: cs.drop i ∧ ∀ j, part <+: cs.drop j → i ≤ j := by
  induction cs generalizing i with
  | nil =>
    simp only [find?, List.isEmpty_iff, List.drop_nil, List.prefix_nil]
    split
    . next hpart =>
      constructor
      . intro h
        cases h
        exact ⟨hpart, fun _ _ => Nat.zero_le _⟩
      . intro h
        rw [Nat.le_zero.mp (h.2 0 hpart)]
    . next hpart => simp [hpart]
  | cons c rest ih =>
    rw [find?]
    split
    . next hpart =>
      rw [startsWith_iff] at hpart
      constructor
      . intro h
        cases h
        exact ⟨hpart, fun _ _ => Nat.zero_le _⟩
      . intro h
        rw [Nat.le_zero.mp (h.2 0 hpart)]
    . next hpart =>
      rw [startsWith_iff] at hpart
      rw [Option.map_eq_some_iff]
      cases i with
      | zero => simp [hpart]
      | succ i =>
        simp only [Nat.succ_inj, exists_eq_right, List.drop_succ_cons]
        rw [ih]
        apply and_congr_right
        intro _
        constructor
        . intro h j hj
          cases j with
          | zero => exact absurd hj hpart
          | succ j => exact Nat.succ_le_succ (h j hj)
        . intro h j hj
          exact Nat.le_of_succ_le_succ (h (j + 1) hj)

theorem slice_eq_iff :
    (cs.take (i + part.length)).drop i = part ↔ part <+: cs.drop i := by
  rw [List.drop_take, Nat.add_sub_cancel_left, List.prefix_iff_eq_take, eq_comm]

theorem add_length_le_of_prefix (h : part <+: cs.drop i) (hi : i ≤ cs.length) :
    i + part.length ≤ cs.length := by
  have := h.length_le
  rw [List.length_drop] at this
  omega

theorem le_length_of_find? (h : find? part cs = some i) : i ≤ cs.length := by
  rw [find?_eq_some_iff] at h
  by_contra hlt
  have hnil : cs.drop i = [] := List.drop_eq_nil_of_le (by omega)
  -- Behind the end there is only the empty text, which stands at the end, too.
  have hend : part <+: cs.drop cs.length := by
    rw [List.drop_length, ← hnil]
    exact h.1
  exact hlt (h.2 cs.length hend)

theorem slice_append (hij : i ≤ j) (hjk : j ≤ k) (hk : k ≤ cs.length) :
    (cs.take j).drop i ++ (cs.take k).drop j = (cs.take k).drop i := by
  have htake : cs.take j = (cs.take k).take j := by
    rw [List.take_take, Nat.min_eq_left hjk]
  have hlength : i ≤ ((cs.take k).take j).length := by
    rw [List.length_take, List.length_take]
    omega
  rw [htake, ← List.drop_append_of_le_length hlength, List.take_append_drop]

theorem slice_succ (h : i < cs.length) : (cs.take (i + 1)).drop i = [cs[i]] := by
  rw [List.drop_take, Nat.add_sub_cancel_left, List.drop_eq_getElem_cons h]
  rfl

theorem startsWith_iff_find? : startsWith part cs ↔ find? part cs = some 0 := by
  rw [startsWith_iff, find?_eq_some_iff, List.drop_zero]
  simp

theorem endsWith_iff :
    endsWith part cs ↔ part.length ≤ cs.length ∧ cs.drop (cs.length - part.length) = part := by
  simp [endsWith]

end Text

end Stencil
