import Stencil.Proofs.Value.Part

/-!
This module contains the laws of maps. A map comes about by a history of insertions, and all that can
be asked of it is said in terms of this history. Keys are compared by the equality of values, so that
a key which is not equal to itself is never found.
-/

namespace Stencil

namespace ValueMap

variable {H : Type}

section

variable [BEq H] {key value : Value H} {m : ValueMap H}

theorem insert_cons (k v : Value H) (rest : ValueMap H) :
    insert key value ((k, v) :: rest)
      = if k == key then (k, value) :: rest else (k, v) :: insert key value rest := by
  unfold insert
  rw [replace]
  split <;> rfl

theorem fst_replace (key value : Value H) (m : ValueMap H) : (replace key value m).1 = get? key m := by
  induction m with
  | nil => rfl
  | cons entry rest ih =>
    rw [replace, get?]
    split
    . rfl
    . exact ih

theorem get?_eq_none_iff : get? key m = none ↔ ∀ entry ∈ m, (entry.1 == key) = false := by
  induction m with
  | nil => simp [get?]
  | cons entry rest ih =>
    rw [get?, List.forall_mem_cons, ← ih]
    cases entry.1 == key <;> simp

theorem exists_mem_of_get? {v : Value H} (h : get? key m = some v) : ∃ k, (k, v) ∈ m := by
  induction m with
  | nil => cases h
  | cons entry rest ih =>
    obtain ⟨k, w⟩ := entry
    rw [get?] at h
    split at h
    . cases h
      exact ⟨k, List.mem_cons_self⟩
    . obtain ⟨l, hl⟩ := ih h
      exact ⟨l, List.mem_cons_of_mem _ hl⟩

theorem insert_of_get?_eq_none (h : get? key m = none) : insert key value m = m ++ [(key, value)] := by
  induction m with
  | nil => rfl
  | cons entry rest ih =>
    rw [get?_eq_none_iff, List.forall_mem_cons, ← get?_eq_none_iff] at h
    rw [insert_cons, if_neg (by simp [h.1]), ih h.2, List.cons_append]

theorem keys_insert_of_isSome (h : (get? key m).isSome) : keys (insert key value m) = keys m := by
  induction m with
  | nil => simp [get?] at h
  | cons entry rest ih =>
    rw [get?] at h
    rw [insert_cons]
    split
    . rfl
    . next hne =>
      rw [if_neg hne] at h
      simp only [keys, List.map_cons] at ih ⊢
      rw [ih h]

theorem length_insert (key value : Value H) (m : ValueMap H) :
    (insert key value m).length = m.length + if (get? key m).isNone then 1 else 0 := by
  split
  . next h => rw [insert_of_get?_eq_none (Option.isNone_iff_eq_none.mp h), List.length_append]; rfl
  . next h =>
    have hkeys : keys (insert key value m) = keys m :=
      keys_insert_of_isSome (by simpa [Option.isSome_iff_ne_none] using h)
    simpa [keys] using congrArg List.length hkeys

theorem get?_insert_of_fits {other : Value H}
    (h : ∀ k : Value H, (k == key) = true → (k == other) = (key == other))
    (h' : ∀ k : Value H, (k == other) = true → (key == other) = true → (k == key) = true) :
    get? other (insert key value m) = if key == other then some value else get? other m := by
  induction m with
  | nil => rfl
  | cons entry rest ih =>
    obtain ⟨k, v⟩ := entry
    rw [insert_cons]
    split
    . next hk =>
      rw [get?, get?, h k hk]
      split <;> rfl
    . next hk =>
      rw [get?, get?, ih]
      split
      . next hother => rw [if_neg fun hkey => hk (h' k hother hkey)]
      . rfl

theorem get?_insert [PartialEquivBEq H] (key value other : Value H) (m : ValueMap H) :
    get? other (insert key value m) = if key == other then some value else get? other m :=
  get?_insert_of_fits (fun _ hk => BEq.congr_left hk)
    (fun _ hk hkey => BEq.trans hk (BEq.symm hkey))

theorem getText?_eq_get? (name : String) (m : ValueMap H) :
    getText? name m = get? (.str name) m := by
  induction m with
  | nil => rfl
  | cons entry rest ih =>
    obtain ⟨k, v⟩ := entry
    rw [get?, ← ih]
    by_cases hk : k = .str name
    . rw [if_pos (Value.beq_str_iff.mpr hk), hk, getText?, if_pos (beq_self_eq_true name)]
    . rw [if_neg fun h => hk (Value.beq_str_iff.mp h)]
      cases k with
      | str s => rw [getText?, if_neg fun h => hk (congrArg Value.str (eq_of_beq h))]
      | _ => rfl

theorem getText?_insert (name : String) (v : Value H) (other : String) (m : ValueMap H) :
    getText? other (insert (.str name) v m) = if name = other then some v else getText? other m := by
  have hname : ((.str name : Value H) == .str other) = true ↔ name = other := by
    simp [Value.beq_str_iff]
  rw [getText?_eq_get?, getText?_eq_get?, get?_insert_of_fits]
  . simp only [hname]
  . intro k hk
    rw [Value.beq_str_iff.mp hk]
  . intro k hk hother
    rw [Value.beq_str_iff] at hk hother
    rw [hk, Value.beq_str_iff, hother]

theorem hostFree_insert (hkey : key.HostFree) (hvalue : value.HostFree)
    (h : (Value.map m).HostFree) : (Value.map (insert key value m)).HostFree := by
  simp only [Value.hostFree_map] at h ⊢
  induction m with
  | nil => simpa [insert, replace] using ⟨hkey, hvalue⟩
  | cons entry rest ih =>
    rw [List.forall_mem_cons] at h
    rw [insert_cons]
    split
    . exact List.forall_mem_cons.mpr ⟨⟨h.1.1, hvalue⟩, h.2⟩
    . exact List.forall_mem_cons.mpr ⟨h.1, ih h.2⟩

theorem ofEntries_append_singleton (history : List (Value H × Value H)) (key value : Value H) :
    ofEntries (history ++ [(key, value)]) = insert key value (ofEntries history) := by
  simp [ofEntries]

end

-- What a history of insertions has put where.

section

variable [BEq H]

def lastValue? (key : Value H) (history : List (Value H × Value H)) : Option (Value H) :=
  (history.reverse.find? fun entry => entry.1 == key).map Prod.snd

/--
The keys of the insertions that were the first ones under their keys, in order and as they were
written there.
-/
def firstKeys (history : List (Value H × Value H)) : List (Value H) :=
  go [] history
where
  go (earlier : List (Value H)) : List (Value H × Value H) → List (Value H)
    | [] => []
    | (k, _) :: rest =>
      if earlier.any (· == k) then go (k :: earlier) rest else k :: go (k :: earlier) rest

theorem lastValue?_append_singleton (key : Value H) (history : List (Value H × Value H))
    (k v : Value H) :
    lastValue? key (history ++ [(k, v)]) = if k == key then some v else lastValue? key history := by
  unfold lastValue?
  rw [List.reverse_append, List.reverse_singleton, List.singleton_append, List.find?_cons]
  cases k == key <;> rfl

theorem isSome_lastValue? (key : Value H) (history : List (Value H × Value H)) :
    (lastValue? key history).isSome = history.any fun entry => entry.1 == key := by
  rw [lastValue?, Option.isSome_map, Bool.eq_iff_iff, List.find?_isSome, List.any_eq_true]
  simp only [List.mem_reverse]

theorem firstKeys_append_singleton (history : List (Value H × Value H)) (k v : Value H) :
    firstKeys (history ++ [(k, v)])
      = firstKeys history ++ if (lastValue? k history).isSome then [] else [k] := by
  -- The keys that were met before are carried along, so that the statement is about any of them.
  have hgo (earlier : List (Value H)) : firstKeys.go earlier (history ++ [(k, v)])
      = firstKeys.go earlier history
        ++ if earlier.any (· == k) || history.any (·.1 == k) then [] else [k] := by
    induction history generalizing earlier with
    | nil => simp [firstKeys.go]
    | cons entry rest ih =>
      obtain ⟨k', v'⟩ := entry
      have hany : (earlier.any (· == k) || ((k', v') :: rest).any (·.1 == k))
          = ((k' :: earlier).any (· == k) || rest.any (·.1 == k)) := by
        simp only [List.any_cons, Bool.or_left_comm, Bool.or_assoc]
      rw [List.cons_append, firstKeys.go, firstKeys.go, ih, hany]
      split <;> rfl
  rw [isSome_lastValue?]
  exact hgo []

theorem get?_eq_none_of_beq_self [PartialEquivBEq H] {key : Value H} (h : (key == key) = false)
    (m : ValueMap H) : get? key m = none := by
  rw [get?_eq_none_iff]
  intro entry _
  rw [← Bool.not_eq_true] at h ⊢
  exact fun hkey => h (BEq.trans (BEq.symm hkey) hkey)

def Distinct (ks : List (Value H)) : Prop :=
  ks.Pairwise fun k l => (k == l) = false ∧ (l == k) = false

theorem get?_of_distinct {m : ValueMap H} (h : Distinct (keys m)) {i : Nat} {k v : Value H}
    (hi : m[i]? = some (k, v)) (hself : (k == k) = true) : get? k m = some v := by
  induction m generalizing i with
  | nil => simp at hi
  | cons entry rest ih =>
    obtain ⟨k₀, v₀⟩ := entry
    simp only [Distinct, keys, List.map_cons, List.pairwise_cons] at h
    rw [get?]
    cases i with
    | zero =>
      simp only [List.getElem?_cons_zero, Option.some.injEq, Prod.mk.injEq] at hi
      rw [hi.1, hi.2, if_pos hself]
    | succ i =>
      rw [List.getElem?_cons_succ] at hi
      have hk : k ∈ rest.map Prod.fst := List.mem_map_of_mem (List.mem_of_getElem? hi)
      rw [(h.1 k hk).1, ih h.2 hi]
      rfl

variable [PartialEquivBEq H] (history : List (Value H × Value H))

theorem get?_ofEntries (key : Value H) : get? key (ofEntries history) = lastValue? key history := by
  induction history using List.reverseRecOn with
  | nil => rfl
  | append_singleton history entry ih =>
    obtain ⟨k, v⟩ := entry
    rw [ofEntries_append_singleton, get?_insert, lastValue?_append_singleton, ih]

theorem keys_ofEntries : keys (ofEntries history) = firstKeys history := by
  induction history using List.reverseRecOn with
  | nil => rfl
  | append_singleton history entry ih =>
    obtain ⟨k, v⟩ := entry
    rw [ofEntries_append_singleton, firstKeys_append_singleton, ← get?_ofEntries, ← ih]
    split
    . next h => rw [keys_insert_of_isSome h, List.append_nil]
    . next h => rw [insert_of_get?_eq_none (by simpa using h), keys, List.map_append]; rfl

theorem distinct_keys_ofEntries : Distinct (keys (ofEntries history)) := by
  induction history using List.reverseRecOn with
  | nil => exact .nil
  | append_singleton history entry ih =>
    obtain ⟨k, v⟩ := entry
    rw [ofEntries_append_singleton]
    cases h : get? k (ofEntries history) with
    | some w =>
      rw [keys_insert_of_isSome (by rw [h]; rfl)]
      exact ih
    | none =>
      rw [insert_of_get?_eq_none h, keys, List.map_append, Distinct, List.pairwise_append]
      refine ⟨ih, List.pairwise_singleton _ _, ?_⟩
      rw [get?_eq_none_iff] at h
      simp only [List.map_cons, List.map_nil, List.forall_mem_singleton, List.forall_mem_map]
      intro e he
      exact ⟨h e he, by rw [BEq.comm, h e he]⟩

theorem get?_ofEntries_of_lost {key : Value H} (h : (key == key) = false) (value other : Value H)
    (later : List (Value H × Value H)) :
    get? other (ofEntries (history ++ (key, value) :: later))
      = get? other (ofEntries (history ++ later)) := by
  have hother : (key == other) = false := by
    rw [← Bool.not_eq_true] at h ⊢
    exact fun hkey => h (BEq.trans hkey (BEq.symm hkey))
  simp only [get?_ofEntries, lastValue?, List.reverse_append, List.reverse_cons, List.append_assoc,
    List.singleton_append, List.find?_append, List.find?_cons, hother]

end

end ValueMap

end Stencil
