import Stencil.Proofs.Value.Equality

/-!
This module contains the parts of a value: the values that a list or a map holds, and from these
everything that occurs in it. A value is equal to itself unless a decimal that is no number occurs in
it.
-/

namespace Stencil

namespace Value

variable {H : Type}

def children : Value H → List (Value H)
  | list items => items
  | map entries => entries.flatMap fun entry => [entry.1, entry.2]
  | null | bool _ | int _ | decimal _ | str _ | object _ => []

/--
A value occurs in another one: as an item of a list, as a key or a value of a map, or deeper.
-/
inductive Part (s : Value H) : Value H → Prop where
  | refl : Part s s
  | child {v w : Value H} : v ∈ w.children → Part s v → Part s w

theorem part_iff {s v : Value H} : Part s v ↔ s = v ∨ ∃ w ∈ v.children, Part s w := by
  constructor
  . intro h
    cases h with
    | refl => exact .inl rfl
    | child hw h => exact .inr ⟨_, hw, h⟩
  . rintro (rfl | ⟨w, hw, h⟩)
    . exact .refl
    . exact .child hw h

def HasNaN (v : Value H) : Prop :=
  ∃ x : Float, (x == x) = false ∧ Part (decimal x) v

theorem hasNaN_iff {v : Value H} :
    v.HasNaN ↔ (∃ x : Float, (x == x) = false ∧ v = decimal x) ∨ ∃ w ∈ v.children, w.HasNaN := by
  constructor
  . rintro ⟨x, hx, h⟩
    rw [part_iff] at h
    rcases h with h | ⟨w, hw, h⟩
    . exact .inl ⟨x, hx, h.symm⟩
    . exact .inr ⟨w, hw, x, hx, h⟩
  . rintro (⟨x, hx, rfl⟩ | ⟨w, hw, x, hx, h⟩)
    . exact ⟨x, hx, .refl⟩
    . exact ⟨x, hx, .child hw h⟩

def HostFree (v : Value H) : Prop :=
  ∀ o, ¬ Part (object o) v

theorem hostFree_iff {v : Value H} :
    v.HostFree ↔ (∀ o, v ≠ object o) ∧ ∀ w ∈ v.children, w.HostFree := by
  constructor
  . intro h
    exact ⟨fun o ho => h o (ho ▸ .refl), fun w hw o ho => h o (.child hw ho)⟩
  . rintro ⟨h, hchildren⟩ o ho
    rw [part_iff] at ho
    rcases ho with ho | ⟨w, hw, ho⟩
    . exact h o ho.symm
    . exact hchildren w hw o ho

@[simp]
theorem hostFree_scalar :
    (null : Value H).HostFree ∧ (∀ b, (bool b : Value H).HostFree) ∧ (∀ n, (int n : Value H).HostFree)
      ∧ (∀ x, (decimal x : Value H).HostFree) ∧ ∀ s, (str s : Value H).HostFree := by
  refine ⟨?_, ?_, ?_, ?_, ?_⟩ <;> intros <;> rw [hostFree_iff] <;> simp [children]

@[simp]
theorem hostFree_ofLength (n : Nat) : (ofLength n : Value H).HostFree := by
  simp [ofLength]

@[simp]
theorem hostFree_list {items : List (Value H)} :
    (list items).HostFree ↔ ∀ v ∈ items, v.HostFree := by
  rw [hostFree_iff]
  simp [children]

@[simp]
theorem hostFree_map {entries : List (Value H × Value H)} :
    (map entries).HostFree ↔ ∀ entry ∈ entries, entry.1.HostFree ∧ entry.2.HostFree := by
  rw [hostFree_iff]
  simp only [children, List.mem_flatMap]
  constructor
  . rintro ⟨-, h⟩ entry hentry
    exact ⟨h _ ⟨entry, hentry, by simp⟩, h _ ⟨entry, hentry, by simp⟩⟩
  . intro h
    refine ⟨by simp, ?_⟩
    rintro w ⟨entry, hentry, hw⟩
    simp only [List.mem_cons, List.not_mem_nil, or_false] at hw
    rcases hw with rfl | rfl
    . exact (h entry hentry).1
    . exact (h entry hentry).2

@[simp]
theorem not_hostFree_object (o : H) : ¬ (object o : Value H).HostFree :=
  fun h => h o .refl

variable [BEq H]

mutual
theorem beq_self [ReflBEq H] : ∀ v : Value H, beq v v = true ↔ ¬ v.HasNaN
  | null | bool _ | int _ | decimal _ | str _ | object _ => by
    rw [hasNaN_iff]
    simp [beq, children]
  | list items => by
    rw [hasNaN_iff, beq, beqItems_self]
    simp [children]
  | map entries => by
    rw [hasNaN_iff, beq, beqEntries_self]
    simp [children]

theorem beqItems_self [ReflBEq H] : ∀ items : List (Value H),
    beqItems items items = true ↔ ∀ v ∈ items, ¬ v.HasNaN
  | [] => by
    simp [beqItems]
  | v :: rest => by
    rw [beqItems, Bool.and_eq_true, beq_self, beqItems_self, List.forall_mem_cons]

theorem beqEntries_self [ReflBEq H] : ∀ entries : List (Value H × Value H),
    beqEntries entries entries = true
      ↔ ∀ v ∈ entries.flatMap fun entry => [entry.1, entry.2], ¬ v.HasNaN
  | [] => by
    simp [beqEntries]
  | (k, v) :: rest => by
    rw [beqEntries, Bool.and_eq_true, Bool.and_eq_true, beq_self, beq_self, beqEntries_self,
      List.flatMap_cons, List.forall_mem_append]
    simp
end

theorem beq_self_eq_false_iff [ReflBEq H] {v : Value H} : (v == v) = false ↔ v.HasNaN := by
  have hself := beq_self v
  rw [← Bool.not_eq_true]
  exact (not_congr hself).trans not_not

end Value

end Stencil
