import Mathlib
import Stencil.Value.Basic

/-!
This module contains the laws of the equality of values. A value that contains a decimal which is no
number is not equal to itself, but equality is symmetric and transitive, if the identity of host
objects is.
-/

namespace Stencil

instance equivBEqEmpty : @EquivBEq Empty HostObject.toBEq where
  symm {a} := a.elim
  trans {a} := a.elim
  rfl {a} := a.elim

namespace Value

variable {H : Type} [BEq H]

-- What is equal to a value has the same constructor, and equal parts.

theorem eq_null_of_beq {v : Value H} (h : beq null v = true) : v = null := by
  cases v with
  | null => rfl
  | _ => cases h

theorem eq_bool_of_beq {a : Bool} {v : Value H} (h : beq (bool a) v = true) : v = bool a := by
  cases v with
  | bool b => rw [eq_of_beq (a := a) h]
  | _ => cases h

theorem eq_int_of_beq {a : Int64} {v : Value H} (h : beq (int a) v = true) : v = int a := by
  cases v with
  | int b => rw [eq_of_beq (a := a) h]
  | _ => cases h

theorem eq_decimal_of_beq {a : Float} {v : Value H} (h : beq (decimal a) v = true) :
    ∃ b, v = decimal b ∧ (a == b) = true := by
  cases v with
  | decimal b => exact ⟨b, rfl, h⟩
  | _ => cases h

theorem eq_str_of_beq {a : String} {v : Value H} (h : beq (str a) v = true) : v = str a := by
  cases v with
  | str b => rw [eq_of_beq (a := a) h]
  | _ => cases h

theorem eq_list_of_beq {a : List (Value H)} {v : Value H} (h : beq (list a) v = true) :
    ∃ b, v = list b ∧ beqItems a b = true := by
  cases v with
  | list b => exact ⟨b, rfl, h⟩
  | _ => cases h

theorem eq_map_of_beq {a : List (Value H × Value H)} {v : Value H} (h : beq (map a) v = true) :
    ∃ b, v = map b ∧ beqEntries a b = true := by
  cases v with
  | map b => exact ⟨b, rfl, h⟩
  | _ => cases h

theorem eq_object_of_beq {a : H} {v : Value H} (h : beq (object a) v = true) :
    ∃ b, v = object b ∧ (a == b) = true := by
  cases v with
  | object b => exact ⟨b, rfl, h⟩
  | _ => cases h

theorem eq_nil_of_beqItems {a : List (Value H)} (h : beqItems [] a = true) : a = [] := by
  cases a with
  | nil => rfl
  | cons w c => cases h

theorem eq_cons_of_beqItems {v : Value H} {a b : List (Value H)}
    (h : beqItems (v :: a) b = true) :
    ∃ w c, b = w :: c ∧ beq v w = true ∧ beqItems a c = true := by
  cases b with
  | nil => cases h
  | cons w c => exact ⟨w, c, rfl, (Bool.and_eq_true_iff).mp h⟩

theorem eq_nil_of_beqEntries {a : List (Value H × Value H)} (h : beqEntries [] a = true) :
    a = [] := by
  cases a with
  | nil => rfl
  | cons entry c => cases h

theorem eq_cons_of_beqEntries {k v : Value H} {a b : List (Value H × Value H)}
    (h : beqEntries ((k, v) :: a) b = true) :
    ∃ l w c, b = (l, w) :: c ∧ beq k l = true ∧ beq v w = true ∧ beqEntries a c = true := by
  cases b with
  | nil => simp [beqEntries] at h
  | cons entry c =>
    simp only [beqEntries, Bool.and_eq_true] at h
    exact ⟨entry.1, entry.2, c, rfl, h.1.1, h.1.2, h.2⟩

mutual
theorem beq_symm [PartialEquivBEq H] : ∀ a b : Value H, beq a b = true → beq b a = true
  | null, b, h => by
    obtain rfl := eq_null_of_beq h
    exact h
  | bool a, b, h => by
    obtain rfl := eq_bool_of_beq h
    exact h
  | int a, b, h => by
    obtain rfl := eq_int_of_beq h
    exact h
  | decimal a, b, h => by
    obtain ⟨b, rfl, hb⟩ := eq_decimal_of_beq h
    simp only [beq]
    exact BEq.symm hb
  | str a, b, h => by
    obtain rfl := eq_str_of_beq h
    exact h
  | list a, b, h => by
    obtain ⟨b, rfl, hb⟩ := eq_list_of_beq h
    simp only [beq]
    exact beqItems_symm a b hb
  | map a, b, h => by
    obtain ⟨b, rfl, hb⟩ := eq_map_of_beq h
    simp only [beq]
    exact beqEntries_symm a b hb
  | object a, b, h => by
    obtain ⟨b, rfl, hb⟩ := eq_object_of_beq h
    simp only [beq]
    exact BEq.symm hb

theorem beqItems_symm [PartialEquivBEq H] :
    ∀ a b : List (Value H), beqItems a b = true → beqItems b a = true
  | [], b, h => by
    obtain rfl := eq_nil_of_beqItems h
    exact h
  | v :: a, b, h => by
    obtain ⟨w, b, rfl, hv, ha⟩ := eq_cons_of_beqItems h
    simp only [beqItems, beq_symm v w hv, beqItems_symm a b ha, Bool.and_self]

theorem beqEntries_symm [PartialEquivBEq H] :
    ∀ a b : List (Value H × Value H), beqEntries a b = true → beqEntries b a = true
  | [], b, h => by
    obtain rfl := eq_nil_of_beqEntries h
    exact h
  | (k, v) :: a, b, h => by
    obtain ⟨l, w, b, rfl, hk, hv, ha⟩ := eq_cons_of_beqEntries h
    simp only [beqEntries, beq_symm k l hk, beq_symm v w hv, beqEntries_symm a b ha, Bool.and_self]
end

mutual
theorem beq_trans [PartialEquivBEq H] :
    ∀ a b c : Value H, beq a b = true → beq b c = true → beq a c = true
  | null, b, c, h, h' => by
    obtain rfl := eq_null_of_beq h
    exact h'
  | bool a, b, c, h, h' => by
    obtain rfl := eq_bool_of_beq h
    exact h'
  | int a, b, c, h, h' => by
    obtain rfl := eq_int_of_beq h
    exact h'
  | decimal a, b, c, h, h' => by
    obtain ⟨b, rfl, hb⟩ := eq_decimal_of_beq h
    obtain ⟨c, rfl, hc⟩ := eq_decimal_of_beq h'
    simp only [beq]
    exact BEq.trans hb hc
  | str a, b, c, h, h' => by
    obtain rfl := eq_str_of_beq h
    exact h'
  | list a, b, c, h, h' => by
    obtain ⟨b, rfl, hb⟩ := eq_list_of_beq h
    obtain ⟨c, rfl, hc⟩ := eq_list_of_beq h'
    simp only [beq]
    exact beqItems_trans a b c hb hc
  | map a, b, c, h, h' => by
    obtain ⟨b, rfl, hb⟩ := eq_map_of_beq h
    obtain ⟨c, rfl, hc⟩ := eq_map_of_beq h'
    simp only [beq]
    exact beqEntries_trans a b c hb hc
  | object a, b, c, h, h' => by
    obtain ⟨b, rfl, hb⟩ := eq_object_of_beq h
    obtain ⟨c, rfl, hc⟩ := eq_object_of_beq h'
    simp only [beq]
    exact BEq.trans hb hc

theorem beqItems_trans [PartialEquivBEq H] : ∀ a b c : List (Value H),
    beqItems a b = true → beqItems b c = true → beqItems a c = true
  | [], b, c, h, h' => by
    obtain rfl := eq_nil_of_beqItems h
    exact h'
  | u :: a, b, c, h, h' => by
    obtain ⟨v, b, rfl, hu, ha⟩ := eq_cons_of_beqItems h
    obtain ⟨w, c, rfl, hv, hb⟩ := eq_cons_of_beqItems h'
    simp only [beqItems, beq_trans u v w hu hv, beqItems_trans a b c ha hb, Bool.and_self]

theorem beqEntries_trans [PartialEquivBEq H] : ∀ a b c : List (Value H × Value H),
    beqEntries a b = true → beqEntries b c = true → beqEntries a c = true
  | [], b, c, h, h' => by
    obtain rfl := eq_nil_of_beqEntries h
    exact h'
  | (j, u) :: a, b, c, h, h' => by
    obtain ⟨k, v, b, rfl, hj, hu, ha⟩ := eq_cons_of_beqEntries h
    obtain ⟨l, w, c, rfl, hk, hv, hb⟩ := eq_cons_of_beqEntries h'
    simp only [beqEntries, beq_trans j k l hj hk, beq_trans u v w hu hv,
      beqEntries_trans a b c ha hb, Bool.and_self]
end

instance [PartialEquivBEq H] : PartialEquivBEq (Value H) where
  symm := beq_symm _ _
  trans := beq_trans _ _ _

theorem beq_str_iff {key : Value H} {name : String} :
    (key == .str name) = true ↔ key = .str name := by
  have hbeq : (key == .str name) = beq key (.str name) := rfl
  rw [hbeq]
  cases key <;> simp [beq]

end Value

end Stencil
