import Mathlib
import Stencil.Engine

/-!
This module contains what holds of a cache whose values are made from their keys: a value is the same
whether it is found or made, and which keys there are is told by what the cache was asked for before.
-/

namespace Stencil

namespace Cache

inductive Request (K : Type) where
  | value (key : K)
  | clear

variable {K V E : Type} [DecidableEq K]

def recentStep (make : K → Except E V) (capacity : Nat) (keys : List K) : Request K → List K
  | .clear => []
  | .value key =>
    match make key with
    | .error _ => keys
    | .ok _ =>
      if capacity = 0 then []
      else if capacity < (key :: keys).dedup.length then [key]
      else key :: keys

/--
The keys that had a value since the cache was emptied last. It is emptied when it is cleared, and by
a key that is one more than its capacity allows. Without capacity it is always empty.
-/
def recent (make : K → Except E V) (capacity : Nat) (requests : List (Request K)) : List K :=
  requests.foldl (recentStep make capacity) []

/--
How many entries there are after a value was asked for, `n` before and `n'` behind. A value that is
found or cannot be made changes nothing.
-/
structure Counts (capacity : Nat) (found failed : Prop) (n n' : Nat) : Prop where
  kept : found ∨ failed → n' = n
  disabled : ¬ found → ¬ failed → capacity = 0 → n' = 0
  emptied : ¬ found → ¬ failed → 0 < capacity → n = capacity → n' = 1
  grown : ¬ found → ¬ failed → 0 < capacity → n < capacity → n' = n + 1

structure Faithful (make : K → Except E V) (capacity : Nat) (requests : List (Request K))
    (c : Cache K V) : Prop where
  made : ∀ entry ∈ c.entries, make entry.1 = .ok entry.2
  distinct : (c.entries.map Prod.fst).Nodup
  recent_iff : ∀ key, key ∈ c.entries.map Prod.fst ↔ key ∈ recent make capacity requests

variable {make : K → Except E V} {capacity : Nat} {requests : List (Request K)} {c : Cache K V}
  {key : K} {v : V} {e : E}

-- The recent keys

theorem recent_append_singleton (r : Request K) :
    recent make capacity (requests ++ [r])
      = recentStep make capacity (recent make capacity requests) r := by
  rw [recent, List.foldl_append]
  rfl

theorem length_dedup_recent_le (make : K → Except E V) (capacity : Nat)
    (requests : List (Request K)) : (recent make capacity requests).dedup.length ≤ capacity := by
  induction requests using List.reverseRecOn with
  | nil => exact Nat.zero_le _
  | append_singleton requests r ih =>
    rw [recent_append_singleton]
    cases r with
    | clear => exact Nat.zero_le _
    | value key =>
      cases hmake : make key with
      | error e =>
        rw [recentStep, hmake]
        exact ih
      | ok v =>
        rw [recentStep, hmake]
        dsimp only
        split
        . exact Nat.zero_le _
        . split
          . exact Nat.pos_of_ne_zero ‹_›
          . omega

theorem recent_of_error (h : make key = .error e) :
    recent make capacity (requests ++ [.value key]) = recent make capacity requests := by
  rw [recent_append_singleton, recentStep, h]

theorem recent_of_mem (h : make key = .ok v) (hmem : key ∈ recent make capacity requests) :
    recent make capacity (requests ++ [.value key]) = key :: recent make capacity requests := by
  have hle := length_dedup_recent_le make capacity requests
  have hpos := List.length_pos_of_mem (List.mem_dedup.mpr hmem)
  rw [recent_append_singleton, recentStep, h]
  simp only [List.dedup_cons_of_mem hmem]
  rw [if_neg (by omega), if_neg (by omega)]

theorem recent_of_not_mem (h : make key = .ok v) (hmem : key ∉ recent make capacity requests) :
    recent make capacity (requests ++ [.value key])
      = if capacity = 0 then []
        else if capacity ≤ (recent make capacity requests).dedup.length then [key]
        else key :: recent make capacity requests := by
  rw [recent_append_singleton, recentStep, h]
  simp only [List.dedup_cons_of_notMem hmem, List.length_cons, Nat.lt_succ_iff]

theorem counts_recent (make : K → Except E V) (capacity : Nat) (requests : List (Request K))
    (key : K) :
    Counts capacity (key ∈ recent make capacity requests) (∃ e, make key = .error e)
      (recent make capacity requests).dedup.length
      (recent make capacity (requests ++ [.value key])).dedup.length := by
  have hle := length_dedup_recent_le make capacity requests
  cases hmake : make key with
  | error e =>
    rw [recent_of_error hmake]
    constructor <;> simp
  | ok v =>
    by_cases hmem : key ∈ recent make capacity requests
    . rw [recent_of_mem hmake hmem, List.dedup_cons_of_mem hmem]
      constructor <;> simp [hmem]
    . rw [recent_of_not_mem hmake hmem]
      constructor
      . simp [hmem]
      . intro _ _ hzero
        rw [if_pos hzero]
        rfl
      . intro _ _ hpos hfull
        rw [if_neg (by omega), if_pos (by omega)]
        rfl
      . intro _ _ hpos hlt
        rw [if_neg (by omega), if_neg (by omega), List.dedup_cons_of_notMem hmem]
        rfl

-- The entries

theorem find?_eq_none_iff : c.find? key = none ↔ key ∉ c.entries.map Prod.fst := by
  rw [find?, Option.map_eq_none_iff, List.find?_eq_none]
  simp only [decide_eq_true_eq, List.mem_map, not_exists, not_and]

theorem mem_of_find? (h : c.find? key = some v) : (key, v) ∈ c.entries := by
  obtain ⟨entry, hentry, rfl⟩ := Option.map_eq_some_iff.mp h
  have hkey : entry.1 = key := by simpa using List.find?_some hentry
  rw [← hkey]
  exact List.mem_of_find?_eq_some hentry

theorem remember_of_find? (h : c.find? key = none) :
    c.remember capacity key v
      = (v, if capacity = 0 then c
        else if capacity ≤ c.size then ⟨[(key, v)]⟩
        else ⟨(key, v) :: c.entries⟩) := by
  have hempty : (empty : Cache K V).find? key = none := rfl
  unfold remember contains
  by_cases hzero : capacity = 0
  . simp only [hzero, if_true]
  . by_cases hfull : capacity ≤ c.size
    . simp only [hzero, hfull, h, hempty, decide_true, Option.isSome_none, Bool.not_false, Bool.and_self,
        if_true, if_false]
      rfl
    . simp only [hzero, hfull, h, decide_false, Bool.false_and, if_false, Bool.false_eq_true]

namespace Faithful

theorem empty (h : recent make capacity requests = []) :
    (Cache.empty : Cache K V).Faithful make capacity requests where
  made := by simp [Cache.empty]
  distinct := List.nodup_nil
  recent_iff := by simp [Cache.empty, h]

theorem size_eq (h : c.Faithful make capacity requests) :
    c.size = (recent make capacity requests).dedup.length := by
  have hperm : (c.entries.map Prod.fst).Perm (recent make capacity requests).dedup := by
    apply (List.perm_ext_iff_of_nodup h.distinct (List.nodup_dedup _)).mpr
    intro key
    rw [List.mem_dedup, h.recent_iff]
  rw [size, ← List.length_map Prod.fst, hperm.length_eq]

theorem contains_iff (h : c.Faithful make capacity requests) (key : K) :
    c.contains key = true ↔ key ∈ recent make capacity requests := by
  rw [← h.recent_iff, contains, Option.isSome_iff_ne_none, ne_eq, find?_eq_none_iff, not_not]

theorem remember (h : c.Faithful make capacity requests) (hfind : c.find? key = none)
    (hmake : make key = .ok v) :
    (c.remember capacity key v).2.Faithful make capacity (requests ++ [.value key]) := by
  have hkey := find?_eq_none_iff.mp hfind
  have hrecent := recent_of_not_mem hmake (mt (h.recent_iff key).mpr hkey)
  rw [← h.size_eq] at hrecent
  rw [remember_of_find? hfind]
  split
  . next hzero =>
    have hnil : recent make capacity requests = [] := by
      have hle := length_dedup_recent_le make capacity requests
      rw [hzero, Nat.le_zero, List.length_eq_zero_iff, List.dedup_eq_nil] at hle
      rwa [hzero]
    rw [if_pos hzero] at hrecent
    refine ⟨h.made, h.distinct, ?_⟩
    rw [hrecent, ← hnil]
    exact h.recent_iff
  . next hzero =>
    rw [if_neg hzero] at hrecent
    split
    . next hfull =>
      rw [if_pos hfull] at hrecent
      constructor
      . intro entry hentry
        rw [List.mem_singleton.mp hentry]
        exact hmake
      . exact List.nodup_singleton _
      . simp [hrecent]
    . next hroom =>
      rw [if_neg hroom] at hrecent
      constructor
      . rw [List.forall_mem_cons]
        exact ⟨hmake, h.made⟩
      . rw [List.map_cons, List.nodup_cons]
        exact ⟨hkey, h.distinct⟩
      . intro key'
        rw [hrecent, List.map_cons, List.mem_cons, List.mem_cons, h.recent_iff]

theorem fst_compute (h : c.Faithful make capacity requests) (key : K) :
    (c.compute capacity key fun _ => make key).1 = make key := by
  unfold compute
  split
  . next v hfind => exact (h.made _ (mem_of_find? hfind)).symm
  . next hfind =>
    split
    . next v hmake =>
      rw [remember_of_find? hfind]
      exact hmake.symm
    . next hmake => exact hmake.symm

theorem snd_compute (h : c.Faithful make capacity requests) (key : K) :
    (c.compute capacity key fun _ => make key).2.Faithful make capacity
      (requests ++ [.value key]) := by
  unfold compute
  split
  . next v hfind =>
    have hentry := mem_of_find? hfind
    have hmem : key ∈ recent make capacity requests :=
      (h.recent_iff key).mp (List.mem_map_of_mem hentry)
    refine ⟨h.made, h.distinct, ?_⟩
    intro key'
    rw [recent_of_mem (h.made _ hentry) hmem, List.mem_cons, h.recent_iff, or_iff_right_of_imp]
    rintro rfl
    exact hmem
  . next hfind =>
    split
    . next hmake => exact h.remember hfind hmake
    . next hmake =>
      refine ⟨h.made, h.distinct, ?_⟩
      rw [recent_of_error hmake]
      exact h.recent_iff

end Faithful

end Cache

end Stencil
