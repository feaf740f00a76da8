import Mathlib
import Stencil.Proofs.MethodCall
import Stencil.Proofs.Pattern.Single

/-!
This module contains the proof that a text which is split at a character and joined again is the text
without the separators at its end. Empty pieces are kept at the start and in between, but not at the
end, where only the single piece of the empty text may be empty.
-/

namespace Stencil

namespace Text

variable {α : Type} [BEq α] [LawfulBEq α] {c : α} {cs : List α}

theorem induction_on_first {motive : List α → Prop} (cs : List α)
    (plain : ∀ xs, c ∉ xs → motive xs)
    (cut : ∀ xs ys, c ∉ xs → motive ys → motive (xs ++ c :: ys)) : motive cs := by
  induction hn : cs.length using Nat.strongRecOn generalizing cs with
  | ind n ih =>
    by_cases hc : c ∈ cs
    . obtain ⟨xs, ys, rfl, hxs⟩ := List.eq_append_cons_of_mem hc
      rw [List.length_append, List.length_cons] at hn
      exact cut xs ys hxs (ih ys.length (by omega) ys rfl)
    . exact plain cs hc

theorem not_mem_of_mem_splitOn : ∀ piece ∈ cs.splitOn c, c ∉ piece := by
  induction cs using induction_on_first (c := c) with
  | plain xs hxs => simpa [List.splitOn_eq_singleton hxs] using hxs
  | cut xs ys hxs ih =>
    rw [List.splitOn_append_cons_self_of_not_mem hxs, List.forall_mem_cons]
    exact ⟨hxs, ih⟩

theorem length_splitOn : (cs.splitOn c).length = cs.count c + 1 := by
  induction cs using induction_on_first (c := c) with
  | plain xs hxs =>
    rw [List.splitOn_eq_singleton hxs, List.count_eq_zero_of_not_mem hxs, List.length_singleton]
  | cut xs ys hxs ih =>
    rw [List.splitOn_append_cons_self_of_not_mem hxs, List.length_cons, ih, List.count_append,
      List.count_eq_zero_of_not_mem hxs, List.count_cons_self, Nat.zero_add]

theorem splitOn_replicate (n : Nat) : (List.replicate n c).splitOn c = List.replicate (n + 1) [] := by
  induction n with
  | zero => rfl
  | succ n ih =>
    have hcut := List.splitOn_append_cons_self (a := c) [] (List.replicate n c)
    rw [List.replicate_succ, List.replicate_succ, ← ih]
    exact hcut

theorem splitOn_append_replicate (n : Nat) :
    (cs ++ List.replicate n c).splitOn c = cs.splitOn c ++ List.replicate n [] := by
  cases n with
  | zero => simp
  | succ n => rw [List.replicate_succ, List.splitOn_append_cons_self, splitOn_replicate]

theorem getLast_splitOn_ne_nil (hne : cs ≠ []) (hlast : cs.getLast hne ≠ c) :
    (cs.splitOn c).getLast (List.splitOn_ne_nil c cs) ≠ [] := by
  induction cs using induction_on_first (c := c) with
  | plain xs hxs => simpa [List.splitOn_eq_singleton hxs] using hne
  | cut xs ys hxs ih =>
    have hys : ys ≠ [] := by
      rintro rfl
      simp at hlast
    simp only [List.splitOn_append_cons_self_of_not_mem hxs]
    rw [List.getLast_cons (List.splitOn_ne_nil c ys)]
    apply ih hys
    rwa [List.getLast_append_of_ne_nil _ (List.cons_ne_nil c ys), List.getLast_cons hys] at hlast

theorem exists_trailing (c : α) (cs : List α) :
    ∃ n, cs = cs.rdropWhile (· == c) ++ List.replicate n c := by
  refine ⟨(cs.rtakeWhile (· == c)).length, ?_⟩
  have hall : ∀ d ∈ cs.rtakeWhile (· == c), d = c := fun d hd => by
    simpa using List.mem_rtakeWhile_imp hd
  rw [← List.eq_replicate_of_mem hall, List.rdropWhile_append_rtakeWhile]

end Text

namespace Members

variable {c : Char} {cs : List Char} {pieces : List (List Char)}

theorem dropTrailing_eq :
    dropTrailing pieces = if 1 < pieces.length then pieces.rdropWhile List.isEmpty else pieces := by
  rfl

theorem rdropWhile_append_replicate (n : Nat) (hne : pieces ≠ [])
    (hlast : pieces.getLast hne ≠ []) :
    (pieces ++ List.replicate n []).rdropWhile List.isEmpty = pieces := by
  induction n with
  | zero =>
    rw [List.replicate_zero, List.append_nil, List.rdropWhile_eq_self_iff]
    simpa using fun _ => hlast
  | succ n ih =>
    rw [List.replicate_succ', ← List.append_assoc, List.rdropWhile_concat_pos _ _ _ rfl, ih]

theorem dropTrailing_splitOn_of_ne_nil (hbody : cs.rdropWhile (· == c) ≠ []) :
    dropTrailing (cs.splitOn c) = (cs.rdropWhile (· == c)).splitOn c := by
  obtain ⟨n, hcs⟩ := Text.exists_trailing c cs
  have hend : (cs.rdropWhile (· == c)).getLast hbody ≠ c := by
    simpa using List.rdropWhile_last_not (· == c) cs hbody
  generalize cs.rdropWhile (· == c) = body at hbody hcs hend ⊢
  have hlast := Text.getLast_splitOn_ne_nil hbody hend
  have hlength : 0 < (body.splitOn c).length := List.length_pos_iff.mpr (List.splitOn_ne_nil c body)
  rw [hcs, Text.splitOn_append_replicate, dropTrailing_eq]
  split
  . exact rdropWhile_append_replicate n (List.splitOn_ne_nil c body) hlast
  . next hone =>
    rw [List.length_append, List.length_replicate] at hone
    obtain rfl : n = 0 := by omega
    rw [List.replicate_zero, List.append_nil]

theorem dropTrailing_splitOn_of_eq_nil (hbody : cs.rdropWhile (· == c) = []) :
    dropTrailing (cs.splitOn c) = if cs = [] then [[]] else [] := by
  obtain ⟨n, hcs⟩ := Text.exists_trailing c cs
  rw [hbody, List.nil_append] at hcs
  rw [hcs, Text.splitOn_replicate, dropTrailing_eq, List.length_replicate]
  cases n with
  | zero => rfl
  | succ n =>
    rw [if_pos (by omega), if_neg (by simp), List.rdropWhile_eq_nil_iff]
    simp

/--
The pieces are what stands between the characters `c` of a text, but for those at its end.
-/
structure IsSplit (c : Char) (cs : List Char) (pieces : List (List Char)) : Prop where
  join_eq : [c].intercalate pieces = cs.rdropWhile (· == c)
  not_mem : ∀ piece ∈ pieces, c ∉ piece
  last_eq_nil : ∀ piece, pieces.getLast? = some piece → piece = [] → cs = []
  length_eq : pieces.length
    = if cs ≠ [] ∧ ∀ d ∈ cs, d = c then 0 else (cs.rdropWhile (· == c)).count c + 1

theorem isSplit_dropTrailing (c : Char) (cs : List Char) :
    IsSplit c cs (dropTrailing (cs.splitOn c)) := by
  have hall : cs.rdropWhile (· == c) = [] ↔ ∀ d ∈ cs, d = c := by
    simp [List.rdropWhile_eq_nil_iff]
  by_cases hbody : cs.rdropWhile (· == c) = []
  . rw [dropTrailing_splitOn_of_eq_nil hbody]
    by_cases hcs : cs = []
    . rw [if_pos hcs]
      constructor
      . simp [hbody]
      . simp
      . exact fun _ _ _ => hcs
      . simp [hcs]
    . rw [if_neg hcs]
      constructor
      . simp [hbody]
      . simp
      . simp
      . rw [if_pos ⟨hcs, hall.mp hbody⟩, List.length_nil]
  . have hend : (cs.rdropWhile (· == c)).getLast hbody ≠ c := by
      simpa using List.rdropWhile_last_not (· == c) cs hbody
    rw [dropTrailing_splitOn_of_ne_nil hbody]
    constructor
    . exact List.intercalate_splitOn c
    . exact Text.not_mem_of_mem_splitOn
    . intro piece hlast hnil
      rw [List.getLast?_eq_some_getLast (List.splitOn_ne_nil c _), Option.some.injEq, hnil] at hlast
      exact absurd hlast (Text.getLast_splitOn_ne_nil hbody hend)
    . rw [if_neg fun h => hbody (hall.mpr h.2), Text.length_splitOn]

end Members

namespace Value

variable {H : Type} [HostObject H] {c : Char}

theorem call_split_eq (s p : String) :
    (str s : Value H).call "split" [str p] = Members.pattern "split" p.toList >>= fun r =>
      .ok (list ((Members.dropTrailing (r.split s.toList)).map Members.ofChars)) := by
  rfl

theorem call_split (h : c ∉ Pattern.operators) (s : String) :
    (str s : Value H).call "split" [str (String.singleton c)]
      = .ok (list ((Members.dropTrailing (s.toList.splitOn c)).map Members.ofChars)) := by
  rw [call_split_eq, String.toList_singleton, Members.pattern, Regex.ofText_single h, Outcome.ok_bind,
    Regex.split_single]

theorem call_join (now : Int64) (separator : String) (items : List (Value H)) :
    Classes.call now "String" "join" [str separator, list items]
      = .ok (str (separator.intercalate (items.map toText))) := by
  rfl

theorem call_join_ofChars (now : Int64) (pieces : List (List Char)) :
    Classes.call now "String" "join" [str (String.singleton c), list (pieces.map Members.ofChars)]
      = .ok (str (String.ofList ([c].intercalate pieces)) : Value H) := by
  have htexts : (pieces.map (Members.ofChars : List Char → Value H)).map toText
      = pieces.map String.ofList := by
    rw [List.map_map]
    rfl
  have hlists : (pieces.map String.ofList).map String.toList = pieces := by
    simp
  rw [call_join, htexts, Except.ok.injEq, str.injEq, ← String.toList_inj,
    String.toList_intercalate, hlists, String.toList_singleton, String.toList_ofList]

/--
A character that is no operator of patterns splits a text at every place where it stands, and joining
the pieces gives back the text up to the separators at its end.
-/
theorem split_and_join (now : Int64) (s : String) (h : c ∉ Pattern.operators) :
    ∃ pieces, Members.IsSplit c s.toList pieces
      ∧ (str s : Value H).call "split" [str (String.singleton c)]
        = .ok (list (pieces.map Members.ofChars))
      ∧ (do Classes.call now "String" "join" [str (String.singleton c),
            ← (str s : Value H).call "split" [str (String.singleton c)]])
        = .ok (str (String.ofList (s.toList.rdropWhile (· == c)))) := by
  have hsplit := Members.isSplit_dropTrailing c s.toList
  refine ⟨_, hsplit, call_split h s, ?_⟩
  rw [call_split h, Outcome.ok_bind, call_join_ofChars, hsplit.join_eq]

theorem split_and_join_runs :
    ',' ∉ Pattern.operators
      ∧ (∃ pieces, Members.IsSplit ',' ",,añ,,b,,".toList pieces
        ∧ pieces.map Members.ofChars = [str "", str "", str "añ", str "", (str "b" : Value Empty)])
      ∧ (do Classes.call 0 "String" "join" [str ",",
            ← (str ",,añ,,b,," : Value Empty).call "split" [str ","]])
        = .ok (str ",,añ,,b") := by
  have hplain : ',' ∉ Pattern.operators := by decide
  have hcall : (str ",,añ,,b,," : Value Empty).call "split" [str (String.singleton ',')]
      = .ok (list [str "", str "", str "añ", str "", str "b"]) := by rfl
  obtain ⟨pieces, hpieces, hsplit, hjoin⟩ := split_and_join (H := Empty) 0 ",,añ,,b,," hplain
  rw [hcall, Except.ok.injEq, list.injEq] at hsplit
  exact ⟨hplain, ⟨pieces, hpieces, hsplit.symm⟩, hjoin⟩

end Value

end Stencil
