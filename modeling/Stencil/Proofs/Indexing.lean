import Stencil.Proofs.Outcome
import Stencil.Members.Builtin

/-!
This module contains when positions in lists and texts are refused, and which one is named then. A
look-up of one element names the position that it was asked for. A part of a text has two ends, and
it is the larger one that is named, also where only the smaller one is bad.
-/

namespace Stencil

namespace Integer

theorem toInt_max (a b : Int64) : (max a b).toInt = max a.toInt b.toInt := by
  rw [show max a b = if a ≤ b then b else a from rfl, Int.max_def]
  simp only [Int64.le_iff_toInt_le]
  split <;> rfl

theorem ofNat_eq_of_toInt {n : Int64} {k : Nat} (h : n.toInt = k) : Int64.ofNat k = n := by
  have hlt := n.toInt_lt
  rw [← Int64.toInt_inj, Int64.toInt_ofNat_of_lt (by omega), h]

end Integer

variable {H : Type} [HostObject H]

namespace Value

def call (v : Value H) (name : String) (args : List (Value H)) : Eval (Value H) :=
  Expr.orMissing (.unresolvedMember name v.typeName) (Members.builtin.method v name args)

/--
The integer is a place in a text where a part can begin or end: between two characters, or at one of
the ends.
-/
def IsPlace (length : Nat) (i : Int64) : Prop :=
  0 ≤ i.toInt ∧ i.toInt ≤ length

instance (length : Nat) (i : Int64) : Decidable (IsPlace length i) :=
  inferInstanceAs (Decidable (_ ∧ _))

structure LooksUp {α : Type} (length : Nat) (i : Int64) (r : Eval α) : Prop where
  fails_iff : (∃ e, r = .error e) ↔ ¬ (0 ≤ i.toInt ∧ i.toInt < length)
  error_eq (e : EvalError) : r = .error e → e = .indexOutOfBounds i length

/--
Cutting a part out of a text fails if and only if its ends are not places of the text in this order,
and then it names one of them. If they are not both places of the text, it names one that is none; but
it does not if one of them lies before the text and the other one is a place of it.
-/
structure Cuts {α : Type} (length : Nat) (start stop : Int64) (r : Eval α) : Prop where
  fails_iff : (∃ e, r = .error e)
    ↔ ¬ (0 ≤ start.toInt ∧ start.toInt ≤ stop.toInt ∧ stop.toInt ≤ length)
  error_eq (e : EvalError) : r = .error e → ∃ i, e = .indexOutOfBounds i length
    ∧ (i = start ∨ i = stop)
    ∧ (¬ IsPlace length start ∨ ¬ IsPlace length stop →
      (¬ IsPlace length i ↔ ¬ (start.toInt < 0 ∧ IsPlace length stop
        ∨ stop.toInt < 0 ∧ IsPlace length start)))

section

variable {α β : Type} {items : List α} {i start stop : Int64} {length : Nat} {r : Eval α}

theorem elementAt_of_lt {k : Nat} (hi : i.toInt = k) (h : k < items.length) :
    elementAt items i = .ok items[k] := by
  have hnonneg : ¬ i < 0 := by
    rw [Int64.lt_iff_toInt_lt, hi, Int64.toInt_zero]
    omega
  rw [elementAt, if_neg hnonneg, hi, Int.toNat_natCast, List.getElem?_eq_getElem h]

theorem elementAt_of_not_lt (h : ¬ (0 ≤ i.toInt ∧ i.toInt < items.length)) :
    elementAt items i = .error (.indexOutOfBounds i items.length) := by
  rw [elementAt]
  split
  . next a ha =>
    split at ha
    . cases ha
    . next hnonneg =>
      rw [Int64.lt_iff_toInt_lt, Int64.toInt_zero] at hnonneg
      have := (List.getElem?_eq_some_iff.mp ha).1
      omega
  . rfl

theorem looksUp_elementAt (items : List α) (i : Int64) :
    LooksUp items.length i (elementAt items i) := by
  by_cases h : 0 ≤ i.toInt ∧ i.toInt < items.length
  . have hlt : i.toInt.toNat < items.length := by omega
    have hok := elementAt_of_lt (Int.toNat_of_nonneg h.1).symm hlt
    constructor
    . simp [hok, h]
    . simp [hok]
  . have herror := elementAt_of_not_lt h
    constructor
    . exact iff_of_true ⟨_, herror⟩ h
    . intro e he
      rw [herror] at he
      cases he
      rfl

theorem LooksUp.map (h : LooksUp length i r) (f : α → β) : LooksUp length i (r.map f) := by
  constructor
  . simpa only [Outcome.map_eq_error] using h.fails_iff
  . simpa only [Outcome.map_eq_error] using h.error_eq

theorem Cuts.map (h : Cuts length start stop r) (f : α → β) :
    Cuts length start stop (r.map f) := by
  constructor
  . simpa only [Outcome.map_eq_error] using h.fails_iff
  . simpa only [Outcome.map_eq_error] using h.error_eq

end

end Value

namespace Members

open Value

variable {cs : List Char} {start stop : Int64}

theorem substring_eq (cs : List Char) (start stop : Int64) :
    substring cs start stop
      = if 0 ≤ start.toInt ∧ start.toInt ≤ stop.toInt ∧ stop.toInt ≤ cs.length then
          .ok ((cs.take stop.toInt.toNat).drop start.toInt.toNat)
        else .error (.indexOutOfBounds (max start stop) cs.length) := by
  have hmax : (if start < stop then stop else start) = max start stop := by
    rw [← Int64.toInt_inj, Integer.toInt_max, apply_ite Int64.toInt]
    simp only [Int64.lt_iff_toInt_lt]
    omega
  rw [substring, hmax]
  simp only [Bool.or_eq_true, decide_eq_true_eq, Int64.lt_iff_toInt_lt, Int64.toInt_zero]
  split <;> split
  . omega
  . rfl
  . rfl
  . omega

theorem cuts_substring (cs : List Char) (start stop : Int64) :
    Cuts cs.length start stop (substring cs start stop) := by
  rw [substring_eq]
  split
  . next h =>
    constructor
    . simp [h]
    . simp
  . next h =>
    constructor
    . exact iff_of_true ⟨_, rfl⟩ h
    . intro e he
      cases he
      refine ⟨max start stop, rfl, ?_, ?_⟩
      . simp only [← Int64.toInt_inj, Integer.toInt_max]
        omega
      . simp only [IsPlace, Integer.toInt_max]
        omega

end Members

namespace Value

open Members

theorem call_get (items : List (Value H)) (i : Int64) :
    (list items).call "get" [int i] = elementAt items i := by
  rfl

theorem call_charAt (s : String) (i : Int64) :
    (str s : Value H).call "charAt" [int i]
      = (elementAt s.toList i).map fun c => str (String.singleton c) := by
  rfl

theorem call_substring (s : String) (start stop : Int64) :
    (str s : Value H).call "substring" [int start, int stop]
      = (substring s.toList start stop).map ofChars := by
  rfl

theorem call_substring_from (s : String) (start : Int64) :
    (str s : Value H).call "substring" [int start]
      = (substring s.toList start (Int64.ofNat s.length)).map ofChars := by
  rfl

/--
In lists and texts of every length, exactly the bad positions are refused. A text has no more
characters than integers can count.
-/
theorem bad_positions_refused (items : List (Value H)) (s : String) (i start stop : Int64) {n : Int64}
    (hn : n.toInt = s.length) :
    LooksUp items.length i (index (list items) (int i))
      ∧ LooksUp items.length i ((list items).call "get" [int i])
      ∧ LooksUp s.length i (index (str s : Value H) (int i))
      ∧ LooksUp s.length i ((str s : Value H).call "charAt" [int i])
      ∧ Cuts s.length start n ((str s : Value H).call "substring" [int start])
      ∧ Cuts s.length start stop ((str s : Value H).call "substring" [int start, int stop]) := by
  have hitems := looksUp_elementAt items i
  have hchars := looksUp_elementAt s.toList i
  have hfrom := cuts_substring s.toList start n
  have hpart := cuts_substring s.toList start stop
  rw [String.length_toList] at hchars hfrom hpart
  refine ⟨hitems, ?_, hchars.map _, ?_, ?_, ?_⟩
  . rw [call_get]
    exact hitems
  . rw [call_charAt]
    exact hchars.map _
  . rw [call_substring_from, Integer.ofNat_eq_of_toInt hn]
    exact hfrom.map _
  . rw [call_substring]
    exact hpart.map _

theorem bad_positions_refused_behind :
    (3 : Int64).toInt = "añb".length
      ∧ LooksUp 2 3 (index (list [null, str "a"] : Value Empty) (int 3))
      ∧ LooksUp 2 3 ((list [null, str "a"] : Value Empty).call "get" [int 3])
      ∧ LooksUp 3 3 (index (str "añb" : Value Empty) (int 3))
      ∧ LooksUp 3 3 ((str "añb" : Value Empty).call "charAt" [int 3])
      ∧ Cuts 3 4 3 ((str "añb" : Value Empty).call "substring" [int 4])
      ∧ Cuts 3 4 2 ((str "añb" : Value Empty).call "substring" [int 4, int 2]) := by
  have hn : (3 : Int64).toInt = "añb".length := by decide
  exact ⟨hn, bad_positions_refused [null, str "a"] "añb" 3 4 2 hn⟩

/--
A part that begins before the text is refused for where it ends, though it ends within.
-/
theorem substring_names_good_place :
    (str "abc" : Value Empty).call "substring" [int (-1)] = .error (.indexOutOfBounds 3 3)
      ∧ ¬ IsPlace 3 (-1) ∧ IsPlace 3 3 := by
  refine ⟨rfl, ?_, ?_⟩
  . decide
  . decide

end Value

end Stencil
