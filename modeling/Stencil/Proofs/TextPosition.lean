import Stencil.Proofs.Indexing
import Stencil.Proofs.Text.Occurrence

/-!
This module contains the proof that all methods of a text, and its index, mean the same characters by
the same positions.
-/

namespace Stencil

variable {H : Type}

namespace Integer

variable {i j n : Int64}

theorem toInt_add_of_add_le (hi : 0 ≤ i.toInt) (hj : 0 ≤ j.toInt)
    (h : i.toInt + j.toInt ≤ n.toInt) : (i + j).toInt = i.toInt + j.toInt := by
  have hlt := n.toInt_lt
  rw [Int64.toInt_add]
  exact Int.bmod_eq_of_le (by omega) (by omega)

theorem toInt_sub_of_le (hi : 0 ≤ i.toInt) (h : i.toInt ≤ j.toInt) :
    (j - i).toInt = j.toInt - i.toInt := by
  have hlt := j.toInt_lt
  rw [Int64.toInt_sub]
  exact Int.bmod_eq_of_le (by omega) (by omega)

theorem toInt_add_of_le (hj : 0 ≤ j.toInt) (h : i.toInt ≤ (i + j).toInt) :
    (i + j).toInt = i.toInt + j.toInt := by
  have hi := i.toInt_lt
  have hj' := j.toInt_lt
  have hi' := i.le_toInt
  rw [Int64.toInt_add, Int.bmod_def] at h ⊢
  split at h <;> omega

end Integer

namespace Value

theorem ofLength_eq {n : Int64} {k : Nat} (h : n.toInt = k) : (ofLength k : Value H) = int n := by
  have hlt := n.toInt_lt
  have hle : ¬ k > Integer.greatest := by
    simp only [Integer.greatest]
    omega
  rw [ofLength, if_neg hle, Integer.ofNat_eq_of_toInt h]

end Value

namespace Members

theorem indexOf_eq_iff {s t : String} {n i : Int64} (hn : n.toInt = s.length) :
    (indexOf t.toList s.toList : Value H) = .int i
      ↔ (∃ k : Nat, i.toInt = k ∧ Text.find? t.toList s.toList = some k)
        ∨ i = -1 ∧ Text.find? t.toList s.toList = none := by
  have hlt := n.toInt_lt
  rw [indexOf]
  split
  . next k hk =>
    have hle := Text.le_length_of_find? hk
    rw [String.length_toList] at hle
    have hoften : (Int64.ofNat k).toInt = k := Int64.toInt_ofNat_of_lt (by omega)
    rw [Value.ofLength_eq hoften, Value.int.injEq, ← Int64.toInt_inj, hoften, hk]
    simp [eq_comm]
  . next hnone =>
    rw [Value.int.injEq, hnone]
    simp [eq_comm]

end Members

namespace Value

variable [HostObject H]

open Members

theorem call_length (s : String) :
    (str s : Value H).call "length" [] = .ok (ofLength s.length) := by
  rw [← String.length_toList]
  rfl

theorem call_concat (s : String) (v : Value H) :
    (str s).call "concat" [v] = .ok (str (s ++ v.toText)) := by
  rfl

theorem call_indexOf (s t : String) :
    (str s : Value H).call "indexOf" [str t] = .ok (indexOf t.toList s.toList) := by
  rfl

theorem call_contains (s t : String) :
    (str s : Value H).call "contains" [str t] = .ok (bool (contains t.toList s.toList)) := by
  rfl

theorem call_startsWith (s t : String) :
    (str s : Value H).call "startsWith" [str t]
      = .ok (bool (Text.startsWith t.toList s.toList)) := by
  rfl

theorem call_endsWith (s t : String) :
    (str s : Value H).call "endsWith" [str t] = .ok (bool (Text.endsWith t.toList s.toList)) := by
  rfl

variable {s t : String} {n m i j k : Int64}

theorem call_substring_eq_ok_iff {part : List Char} :
    (str s : Value H).call "substring" [int i, int j] = .ok (ofChars part)
      ↔ ∃ a b : Nat, i.toInt = a ∧ j.toInt = b ∧ a ≤ b ∧ b ≤ s.length
        ∧ (s.toList.take b).drop a = part := by
  rw [call_substring, Outcome.map_eq_ok, substring_eq, String.length_toList]
  simp only [ofChars, str.injEq, String.ofList_inj]
  split
  . next h =>
    simp only [Except.ok.injEq, exists_eq_left']
    constructor
    . intro hpart
      exact ⟨_, _, (Int.toNat_of_nonneg h.1).symm, (Int.toNat_of_nonneg (by omega)).symm, by omega,
        by omega, hpart⟩
    . rintro ⟨a, b, hi, hj, -, -, hpart⟩
      rwa [hi, hj, Int.toNat_natCast, Int.toNat_natCast]
  . next h =>
    simp only [reduceCtorEq, false_and, exists_false, false_iff]
    rintro ⟨a, b, hi, hj, hab, hle, -⟩
    omega

theorem call_substring_eq_iff (hn : n.toInt = s.length) (hm : m.toInt = t.length) :
    (str s : Value H).call "substring" [int i, int (i + m)] = .ok (str t)
      ↔ ∃ k : Nat, i.toInt = k ∧ k ≤ s.length ∧ t.toList <+: s.toList.drop k := by
  have ht : (str t : Value H) = ofChars t.toList := by
    rw [ofChars, String.ofList_toList]
  rw [ht, call_substring_eq_ok_iff]
  constructor
  . rintro ⟨a, b, hi, hj, hab, hle, hpart⟩
    have hadd := Integer.toInt_add_of_le (i := i) (j := m) (by omega) (by omega)
    obtain rfl : b = a + t.toList.length := by
      rw [String.length_toList]
      omega
    exact ⟨a, hi, by omega, Text.slice_eq_iff.mp hpart⟩
  . rintro ⟨k, hi, hle, hpart⟩
    have hend := Text.add_length_le_of_prefix hpart (by rwa [String.length_toList])
    rw [String.length_toList, String.length_toList] at hend
    have hadd := Integer.toInt_add_of_add_le (i := i) (j := m) (n := n) (by omega) (by omega)
      (by omega)
    refine ⟨k, k + t.toList.length, hi, ?_, by omega, ?_, Text.slice_eq_iff.mpr hpart⟩
    . rw [String.length_toList]
      omega
    . rwa [String.length_toList]

abbrev part (s : String) (i j : Int64) : Eval (Value H) :=
  (str s).call "substring" [int i, int j]

/--
What the places and the characters of a text of `n` characters are: parts that touch make a larger
part, and one character is the part that reaches up to the next place.
-/
structure Positions (H : Type) [HostObject H] (s : String) (n : Int64) : Prop where
  length_eq : (str s : Value H).call "length" [] = .ok (int n)
  concat_part (i j k : Int64) : 0 ≤ i → i ≤ j → j ≤ k → k ≤ n →
    (do (← part s i j : Value H).call "concat" [← part s j k]) = part s i k
  length_part (i j : Int64) : 0 ≤ i → i ≤ j → j ≤ n →
    (do (← part s i j : Value H).call "length" []) = .ok (int (j - i))
  part_to_end (i : Int64) : (str s : Value H).call "substring" [int i] = part s i n
  whole : (str s : Value H).call "substring" [int 0] = .ok (str s)
  character (i : Int64) : 0 ≤ i → i < n → ∃ c, s.toList[i.toInt.toNat]? = some c
    ∧ (str s : Value H).call "charAt" [int i] = .ok (str (String.singleton c))
    ∧ index (str s : Value H) (int i) = .ok (str (String.singleton c))
    ∧ part s i (i + 1) = .ok (str (String.singleton c) : Value H)

def Tells (r : Eval (Value H)) (p : Prop) : Prop :=
  ∃ b : Bool, r = .ok (bool b) ∧ (b = true ↔ p)

/--
What the places are where a text `t` of `m` characters stands in a text of `n` characters.
-/
structure Occurrences (H : Type) [HostObject H] (s t : String) (n m : Int64) : Prop where
  contains : Tells ((str s : Value H).call "contains" [str t])
    (∃ i, part s i (i + m) = .ok (str t : Value H))
  absent : (str s : Value H).call "indexOf" [str t] = .ok (int (-1))
    ↔ (str s : Value H).call "contains" [str t] = .ok (bool false)
  first : (str s : Value H).call "contains" [str t] ≠ .ok (bool false) →
    ∃ i, (str s : Value H).call "indexOf" [str t] = .ok (int i)
      ∧ part s i (i + m) = .ok (str t : Value H)
      ∧ ∀ j, part s j (j + m) = .ok (str t : Value H) → i ≤ j
  startsWith : Tells ((str s : Value H).call "startsWith" [str t])
    ((str s : Value H).call "indexOf" [str t] = .ok (int 0))
  endsWith : Tells ((str s : Value H).call "endsWith" [str t])
    (m ≤ n ∧ (str s : Value H).call "substring" [int (n - m)] = .ok (str t))

theorem part_of_le {a b : Nat} (hi : i.toInt = a) (hj : j.toInt = b) (hab : a ≤ b)
    (hle : b ≤ s.length) : (part s i j : Eval (Value H)) = .ok (ofChars ((s.toList.take b).drop a)) :=
  call_substring_eq_ok_iff.mpr ⟨a, b, hi, hj, hab, hle, rfl⟩

theorem part_to_end (hn : n.toInt = s.length) (i : Int64) :
    (str s : Value H).call "substring" [int i] = part s i n := by
  rw [part, call_substring, call_substring_from, Integer.ofNat_eq_of_toInt hn]

theorem concat_part {a b c : Nat} (hi : i.toInt = a) (hj : j.toInt = b) (hk : k.toInt = c)
    (hab : a ≤ b) (hbc : b ≤ c) (hle : c ≤ s.length) :
    (do (← part s i j : Value H).call "concat" [← part s j k]) = part s i k := by
  have hslices := Text.slice_append hab hbc (by rwa [String.length_toList])
  rw [part_of_le hi hj hab (by omega), part_of_le hj hk hbc hle, part_of_le hi hk (by omega) hle,
    Outcome.ok_bind, Outcome.ok_bind, ← hslices]
  simp only [ofChars, call_concat, toText, String.ofList_append]

theorem length_part {a b : Nat} (hi : i.toInt = a) (hj : j.toInt = b) (hab : a ≤ b)
    (hle : b ≤ s.length) :
    (do (← part s i j : Value H).call "length" []) = .ok (int (j - i)) := by
  have hlength : (String.ofList ((s.toList.take b).drop a)).length = b - a := by
    rw [String.length_ofList, List.length_drop, List.length_take, String.length_toList]
    omega
  have hsub := Integer.toInt_sub_of_le (i := i) (j := j) (by omega) (by omega)
  rw [part_of_le hi hj hab hle, Outcome.ok_bind, ofChars, call_length, hlength,
    ofLength_eq (n := j - i) (by omega)]

theorem part_whole (hn : n.toInt = s.length) : part s 0 n = .ok (str s : Value H) := by
  rw [part_of_le Int64.toInt_zero hn (Nat.zero_le _) (Nat.le_refl _), List.drop_zero, ofChars,
    ← String.length_toList, List.take_length, String.ofList_toList]

theorem part_succ {a : Nat} (hi : i.toInt = a) (h : a < s.toList.length) (hn : n.toInt = s.length) :
    part s i (i + 1) = .ok (str (String.singleton s.toList[a]) : Value H) := by
  rw [String.length_toList] at h
  have hone : (1 : Int64).toInt = 1 := by decide
  have hadd := Integer.toInt_add_of_add_le (i := i) (j := 1) (n := n) (by omega) (by omega) (by omega)
  rw [part_of_le (b := a + 1) hi (by omega) (Nat.le_succ a) h, Text.slice_succ]
  rfl

theorem positions (hn : n.toInt = s.length) : Positions H s n := by
  constructor
  . rw [call_length, ofLength_eq hn]
  . intro i j k hi hij hjk hk
    simp only [Int64.le_iff_toInt_le, Int64.toInt_zero] at hi hij hjk hk
    obtain ⟨a, ha⟩ := Int.eq_ofNat_of_zero_le hi
    obtain ⟨b, hb⟩ := Int.eq_ofNat_of_zero_le (Int.le_trans hi hij)
    obtain ⟨c, hc⟩ := Int.eq_ofNat_of_zero_le (Int.le_trans hi (Int.le_trans hij hjk))
    exact concat_part ha hb hc (by omega) (by omega) (by omega)
  . intro i j hi hij hj
    simp only [Int64.le_iff_toInt_le, Int64.toInt_zero] at hi hij hj
    obtain ⟨a, ha⟩ := Int.eq_ofNat_of_zero_le hi
    obtain ⟨b, hb⟩ := Int.eq_ofNat_of_zero_le (Int.le_trans hi hij)
    exact length_part ha hb (by omega) (by omega)
  . exact part_to_end hn
  . rw [part_to_end hn, part_whole hn]
  . intro i hi hlt
    rw [Int64.le_iff_toInt_le, Int64.toInt_zero] at hi
    rw [Int64.lt_iff_toInt_lt] at hlt
    obtain ⟨a, ha⟩ := Int.eq_ofNat_of_zero_le hi
    have hlength : a < s.toList.length := by
      rw [String.length_toList]
      omega
    refine ⟨s.toList[a], ?_, ?_, ?_, part_succ ha hlength hn⟩
    . rw [ha, Int.toNat_natCast, List.getElem?_eq_getElem hlength]
    . rw [call_charAt, elementAt_of_lt ha hlength]
      rfl
    . rw [index, elementAt_of_lt ha hlength]
      rfl

theorem exists_place {k : Nat} (hn : n.toInt = s.length)
    (hk : Text.find? t.toList s.toList = some k) : ∃ i : Int64, i.toInt = k ∧ k ≤ s.length := by
  have hlt := n.toInt_lt
  have hle := Text.le_length_of_find? hk
  rw [String.length_toList] at hle
  exact ⟨Int64.ofNat k, Int64.toInt_ofNat_of_lt (by omega), hle⟩

theorem call_indexOf_eq_iff (hn : n.toInt = s.length) :
    (str s : Value H).call "indexOf" [str t] = .ok (int i)
      ↔ (∃ k : Nat, i.toInt = k ∧ Text.find? t.toList s.toList = some k)
        ∨ i = -1 ∧ Text.find? t.toList s.toList = none := by
  rw [call_indexOf, Except.ok.injEq, indexOf_eq_iff hn]

theorem call_contains_eq_iff {b : Bool} :
    (str s : Value H).call "contains" [str t] = .ok (bool b)
      ↔ (Text.find? t.toList s.toList).isSome = b := by
  rw [call_contains, Except.ok.injEq, bool.injEq, contains]

theorem tells_contains (hn : n.toInt = s.length) (hm : m.toInt = t.length) :
    Tells ((str s : Value H).call "contains" [str t])
      (∃ i, part s i (i + m) = .ok (str t : Value H)) := by
  refine ⟨_, call_contains_eq_iff.mpr rfl, ?_⟩
  simp only [part, call_substring_eq_iff hn hm, Option.isSome_iff_exists]
  constructor
  . rintro ⟨k, hk⟩
    obtain ⟨i, hi, hle⟩ := exists_place hn hk
    exact ⟨i, k, hi, hle, (Text.find?_eq_some_iff.mp hk).1⟩
  . rintro ⟨i, k, -, -, hpart⟩
    rw [← Option.isSome_iff_exists, Option.isSome_iff_ne_none]
    intro hnone
    rw [Text.find?_eq_none_iff] at hnone
    exact hnone (hpart.isInfix.trans (List.drop_suffix k _).isInfix)

theorem absent_iff (hn : n.toInt = s.length) :
    (str s : Value H).call "indexOf" [str t] = .ok (int (-1))
      ↔ (str s : Value H).call "contains" [str t] = .ok (bool false) := by
  have hnegative : (-1 : Int64).toInt = -1 := by decide
  rw [call_indexOf_eq_iff hn, call_contains_eq_iff, Option.isSome_eq_false_iff,
    Option.isNone_iff_eq_none, hnegative]
  constructor
  . rintro (⟨k, hk, -⟩ | ⟨-, hnone⟩)
    . omega
    . exact hnone
  . intro hnone
    exact .inr ⟨rfl, hnone⟩

theorem exists_first (hn : n.toInt = s.length) (hm : m.toInt = t.length)
    (h : (str s : Value H).call "contains" [str t] ≠ .ok (bool false)) :
    ∃ i, (str s : Value H).call "indexOf" [str t] = .ok (int i)
      ∧ part s i (i + m) = .ok (str t : Value H)
      ∧ ∀ j, part s j (j + m) = .ok (str t : Value H) → i ≤ j := by
  rw [Ne, call_contains_eq_iff, Bool.not_eq_false, Option.isSome_iff_exists] at h
  obtain ⟨k, hk⟩ := h
  obtain ⟨i, hi, hle⟩ := exists_place hn hk
  have hindex := (call_indexOf_eq_iff (H := H) hn).mpr (.inl ⟨k, hi, hk⟩)
  rw [Text.find?_eq_some_iff] at hk
  refine ⟨i, hindex, ?_, ?_⟩
  . rw [part, call_substring_eq_iff hn hm]
    exact ⟨k, hi, hle, hk.1⟩
  . intro j hj
    rw [part, call_substring_eq_iff hn hm] at hj
    obtain ⟨k', hj, -, hpart⟩ := hj
    have hleast := hk.2 k' hpart
    rw [Int64.le_iff_toInt_le]
    omega

theorem tells_startsWith (hn : n.toInt = s.length) :
    Tells ((str s : Value H).call "startsWith" [str t])
      ((str s : Value H).call "indexOf" [str t] = .ok (int 0)) := by
  have hne : (0 : Int64) ≠ -1 := by decide
  refine ⟨_, call_startsWith s t, ?_⟩
  rw [call_indexOf_eq_iff hn, Text.startsWith_iff_find?, Int64.toInt_zero]
  constructor
  . intro h
    exact .inl ⟨0, rfl, h⟩
  . rintro (⟨k, hk, h⟩ | ⟨hzero, -⟩)
    . obtain rfl : k = 0 := by omega
      exact h
    . exact absurd hzero hne

theorem tells_endsWith (hn : n.toInt = s.length) (hm : m.toInt = t.length) :
    Tells ((str s : Value H).call "endsWith" [str t])
      (m ≤ n ∧ (str s : Value H).call "substring" [int (n - m)] = .ok (str t)) := by
  refine ⟨_, call_endsWith s t, ?_⟩
  rw [Text.endsWith_iff, Int64.le_iff_toInt_le, hn, hm, String.length_toList, String.length_toList,
    Int.ofNat_le]
  apply and_congr_right
  intro hle
  have hsub := Integer.toInt_sub_of_le (i := m) (j := n) (by omega) (by omega)
  have htake : s.toList.take s.length = s.toList := by
    rw [← String.length_toList, List.take_length]
  rw [part_to_end hn, part_of_le (a := s.length - t.length) (by omega) hn (by omega) (Nat.le_refl _),
    htake, Except.ok.injEq, ofChars, str.injEq, ← String.toList_inj, String.toList_ofList]

theorem occurrences (hn : n.toInt = s.length) (hm : m.toInt = t.length) :
    Occurrences H s t n m := by
  constructor
  . exact tells_contains hn hm
  . exact absent_iff hn
  . exact exists_first hn hm
  . exact tells_startsWith hn
  . exact tells_endsWith hn hm

/--
All methods of a text, and its index, mean the same by a position. A text has no more characters than
integers can count.
-/
theorem positions_agree (s t : String) {n m : Int64} (hn : n.toInt = s.length)
    (hm : m.toInt = t.length) : Positions H s n ∧ Occurrences H s t n m := by
  constructor
  . exact positions hn
  . exact occurrences hn hm

theorem positions_agree_overlapping :
    (6 : Int64).toInt = "xñañañ".length ∧ (3 : Int64).toInt = "ñañ".length
      ∧ Positions Empty "xñañañ" 6 ∧ Occurrences Empty "xñañañ" "ñañ" 6 3
      ∧ (str "xñañañ" : Value Empty).call "indexOf" [str "ñañ"] = .ok (int 1)
      ∧ (str "xñañañ" : Value Empty).call "substring" [int (6 - 3)] = .ok (str "ñañ") := by
  have hn : (6 : Int64).toInt = "xñañañ".length := by decide
  have hm : (3 : Int64).toInt = "ñañ".length := by decide
  obtain ⟨hpositions, hoccurrences⟩ := positions_agree (H := Empty) "xñañañ" "ñañ" hn hm
  exact ⟨hn, hm, hpositions, hoccurrences, rfl, rfl⟩

end Value

end Stencil
