import Stencil.Text.Search

/-!
This module contains the lines of a text together with their endings. Some of them can be taken out
of a text, and what is left are the lines of a text again.
-/

namespace Stencil

namespace Text

/--
The lines of a text as they stand in it, each with the line feed at its end. The last one may lack it.
-/
def rawLines : List Char → List (List Char)
  | [] => []
  | c :: rest =>
    if c == '\n' then ['\n'] :: rawLines rest
    else
      match rawLines rest with
      | [] => [[c]]
      | line :: others => (c :: line) :: others

def chomp : List Char → List Char
  | [] => []
  | ['\n'] => []
  | ['\r', '\n'] => []
  | c :: rest => c :: chomp rest

theorem rawLines_flatten (cs : List Char) : (rawLines cs).flatten = cs := by
  induction cs with
  | nil => rfl
  | cons c rest ih =>
    rw [rawLines]
    split
    . next h => rw [List.flatten_cons, ih, eq_of_beq h, List.singleton_append]
    . split
      . next hraw =>
        rw [hraw] at ih
        rw [← ih]
        rfl
      . next line others hraw =>
        rw [hraw] at ih
        rw [← ih]
        rfl

theorem chomp_cons {c : Char} {raw : List Char} (hc : c ≠ '\n') (h : c = '\r' → raw ≠ ['\n']) :
    chomp (c :: raw) = c :: chomp raw := by
  rw [chomp]
  . exact fun hnil => absurd hnil hc
  . exact fun hr => h hr

theorem exists_chomp {line : List Char} (h : '\n' ∉ line) :
    ∃ ending, (ending = [] ∨ ending = ['\r']) ∧ line = chomp (line ++ ['\n']) ++ ending := by
  induction line with
  | nil => exact ⟨[], .inl rfl, rfl⟩
  | cons c rest ih =>
    rw [List.mem_cons, not_or] at h
    by_cases hend : c = '\r' ∧ rest = []
    . obtain ⟨rfl, rfl⟩ := hend
      exact ⟨['\r'], .inr rfl, rfl⟩
    . obtain ⟨ending, hending, hrest⟩ := ih h.2
      refine ⟨ending, hending, ?_⟩
      have hraw : c = '\r' → rest ++ ['\n'] ≠ ['\n'] := by
        intro hc hnil
        exact hend ⟨hc, by simpa using hnil⟩
      rw [List.cons_append, chomp_cons (Ne.symm h.1) hraw, List.cons_append, ← hrest]

theorem eq_newline_iff_of_rawLines {cs raw : List Char} {others : List (List Char)}
    (h : rawLines cs = raw :: others) : raw = ['\n'] ↔ cs.head? = some '\n' := by
  cases cs with
  | nil => cases h
  | cons c rest =>
    rw [rawLines] at h
    split at h
    . next hc =>
      cases h
      simp [eq_of_beq hc]
    . next hc =>
      have hne : c ≠ '\n' := by simpa using hc
      split at h <;> cases h <;> simp [hne]

theorem lines_eq (cs : List Char) : lines cs = (rawLines cs).map chomp := by
  induction cs with
  | nil => rfl
  | cons c rest ih =>
    rw [lines, rawLines, ih]
    split
    . rfl
    . next hc =>
      have hne : c ≠ '\n' := by simpa using hc
      cases hraw : rawLines rest with
      | nil => simp [chomp_cons hne, chomp]
      | cons raw others =>
        simp only [List.map_cons]
        split
        . next hr =>
          simp only [Bool.and_eq_true, beq_iff_eq, ← eq_newline_iff_of_rawLines hraw] at hr
          rw [hr.1.1, hr.2]
          rfl
        . next hr =>
          rw [chomp_cons hne]
          intro hcr hnl
          apply hr
          rw [← eq_newline_iff_of_rawLines hraw |>.mp hnl]
          simp [hcr, hnl, chomp]

-- What is left of the lines of a text when some are taken out.

inductive Complete : List (List Char) → Prop where
  | nil : Complete []
  | last {line : List Char} : line ≠ [] → '\n' ∉ line → Complete [line]
  | cons (line : List Char) {rest : List (List Char)} :
    '\n' ∉ line → Complete rest → Complete ((line ++ ['\n']) :: rest)

theorem complete_rawLines (cs : List Char) : Complete (rawLines cs) := by
  induction cs with
  | nil => exact .nil
  | cons c rest ih =>
    rw [rawLines]
    split
    . exact .cons [] List.not_mem_nil ih
    . next hc =>
      have hne : '\n' ≠ c := fun h => hc (beq_iff_eq.mpr h.symm)
      split
      . exact .last (by simp) (by simpa using hne)
      . next hraw =>
        rw [hraw] at ih
        cases ih with
        | last _ hline => exact .last (by simp) (by simp [hne, hline])
        | cons _ hline hrest => exact .cons (c :: _) (by simp [hne, hline]) hrest

theorem Complete.sublist {raws left : List (List Char)} (h : Complete raws) (hleft : left.Sublist raws) :
    Complete left := by
  induction h generalizing left with
  | nil =>
    rw [List.sublist_nil.mp hleft]
    exact .nil
  | last hne hline =>
    cases hleft with
    | cons _ h =>
      rw [List.sublist_nil.mp h]
      exact .nil
    | cons_cons _ h =>
      rw [List.sublist_nil.mp h]
      exact .last hne hline
  | cons line hline hrest ih =>
    cases hleft with
    | cons _ h => exact ih h
    | cons_cons _ h => exact .cons line hline (ih h)

theorem rawLines_of_not_mem {line : List Char} (hne : line ≠ []) (h : '\n' ∉ line) :
    rawLines line = [line] := by
  induction line with
  | nil => exact absurd rfl hne
  | cons c rest ih =>
    rw [List.mem_cons, not_or] at h
    have hc : (c == '\n') = false := beq_false_of_ne (Ne.symm h.1)
    rw [rawLines, hc]
    cases rest with
    | nil => rfl
    | cons d rest =>
      rw [ih (by simp) h.2]
      rfl

theorem rawLines_append {line : List Char} (h : '\n' ∉ line) (rest : List Char) :
    rawLines (line ++ '\n' :: rest) = (line ++ ['\n']) :: rawLines rest := by
  induction line with
  | nil => rfl
  | cons c others ih =>
    rw [List.mem_cons, not_or] at h
    have hc : (c == '\n') = false := beq_false_of_ne (Ne.symm h.1)
    rw [List.cons_append, rawLines, hc, ih h.2]
    rfl

theorem chomp_of_not_mem {line : List Char} (h : '\n' ∉ line) : chomp line = line := by
  induction line with
  | nil => rfl
  | cons c rest ih =>
    rw [List.mem_cons, not_or] at h
    rw [chomp_cons (Ne.symm h.1), ih h.2]
    rintro - rfl
    exact h.2 (List.mem_singleton_self _)

theorem lines_of_not_mem {line : List Char} (hne : line ≠ []) (h : '\n' ∉ line) :
    lines line = [line] := by
  rw [lines_eq, rawLines_of_not_mem hne h, List.map_singleton, chomp_of_not_mem h]

theorem lines_append {line : List Char} (h : '\n' ∉ line) (hlast : line.getLast? ≠ some '\r')
    (rest : List Char) : lines (line ++ '\n' :: rest) = line :: lines rest := by
  obtain ⟨ending, hending, hchomp⟩ := exists_chomp h
  rcases hending with rfl | rfl
  . rw [List.append_nil] at hchomp
    rw [lines_eq, lines_eq, rawLines_append h, List.map_cons, ← hchomp]
  . rw [hchomp, List.getLast?_concat] at hlast
    exact absurd rfl hlast

theorem Complete.rawLines_flatten {raws : List (List Char)} (h : Complete raws) :
    rawLines raws.flatten = raws := by
  induction h with
  | nil => rfl
  | last hne hline =>
    rw [List.flatten_singleton]
    exact rawLines_of_not_mem hne hline
  | cons line hline hrest ih =>
    rw [List.flatten_cons, List.append_assoc, List.singleton_append, rawLines_append hline, ih]

theorem lines_flatten_of_sublist {cs : List Char} {left : List (List Char)}
    (h : left.Sublist (rawLines cs)) : lines left.flatten = left.map chomp := by
  rw [lines_eq, ((complete_rawLines cs).sublist h).rawLines_flatten]

def retain {α : Type} (keep : Nat → Bool) (n : Nat) : List α → List α
  | [] => []
  | a :: rest => if keep n then a :: retain keep (n + 1) rest else retain keep (n + 1) rest

theorem retain_sublist {α : Type} (keep : Nat → Bool) (n : Nat) (items : List α) :
    (retain keep n items).Sublist items := by
  induction items generalizing n with
  | nil => exact .slnil
  | cons a rest ih =>
    rw [retain]
    split
    . exact (ih (n + 1)).cons_cons a
    . exact (ih (n + 1)).cons a

theorem retain_map {α β : Type} (f : α → β) (keep : Nat → Bool) (n : Nat) (items : List α) :
    retain keep n (items.map f) = (retain keep n items).map f := by
  induction items generalizing n with
  | nil => rfl
  | cons a rest ih =>
    rw [List.map_cons, retain, retain, ih]
    split <;> rfl

def retainLines (keep : Nat → Bool) (text : String) : String :=
  String.ofList (retain keep 1 (rawLines text.toList)).flatten

theorem retainLines_true (text : String) : retainLines (fun _ => true) text = text := by
  have hretain (n : Nat) (items : List (List Char)) : retain (fun _ => true) n items = items := by
    induction items generalizing n with
    | nil => rfl
    | cons a rest ih => rw [retain, if_pos rfl, ih]
  rw [retainLines, hretain, rawLines_flatten, String.ofList_toList]

theorem lines_retainLines (keep : Nat → Bool) (text : String) :
    lines (retainLines keep text).toList = retain keep 1 (lines text.toList) := by
  rw [retainLines, String.toList_ofList, lines_flatten_of_sublist (retain_sublist _ _ _), lines_eq,
    retain_map]

end Text

end Stencil
