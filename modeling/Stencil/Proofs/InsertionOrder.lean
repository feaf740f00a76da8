import Stencil.Members.Builtin
import Stencil.Proofs.Outcome
import Stencil.Proofs.Value.Map

/-!
This module contains the proof that a map is one in order of insertion, over an equality of keys that
is not reflexive: whatever it is asked, it answers from the history of insertions that has built it.
-/

namespace Stencil

variable {H : Type}

namespace Expr

variable [HostObject H]

def EntriesEval (env : Env H) (entries : List (Expr H × Expr H)) (history : List (Value H × Value H)) :
    Prop :=
  List.Forall₂ (fun e entry => eval env e.1 = .ok entry.1 ∧ eval env e.2 = .ok entry.2) entries history

theorem evalEntries_eq_ok {env : Env H} (entries : List (Expr H × Expr H)) (m m' : ValueMap H) :
    evalEntries env m entries = .ok m' ↔
      ∃ history, EntriesEval env entries history
        ∧ m' = history.foldl (fun m (k, v) => m.insert k v) m := by
  induction entries generalizing m with
  | nil =>
    simp only [evalEntries, EntriesEval, List.forall₂_nil_left_iff, exists_eq_left, List.foldl_nil]
    exact ⟨fun h => (Except.ok.inj h).symm, fun h => h ▸ rfl⟩
  | cons entry rest ih =>
    obtain ⟨k, e⟩ := entry
    simp only [evalEntries, Outcome.bind_eq_ok, ih, EntriesEval, List.forall₂_cons_left_iff]
    constructor
    . rintro ⟨key, hkey, value, hvalue, history, hrest, h⟩
      exact ⟨(key, value) :: history, ⟨_, _, ⟨hkey, hvalue⟩, hrest, rfl⟩, h⟩
    . rintro ⟨_, ⟨⟨key, value⟩, history, ⟨hkey, hvalue⟩, hrest, rfl⟩, h⟩
      exact ⟨key, hkey, value, hvalue, history, hrest, h⟩

theorem eval_map_eq_ok {env : Env H} (entries : List (Expr H × Expr H)) (v : Value H) :
    eval env (.map entries) = .ok v ↔
      ∃ history, EntriesEval env entries history ∧ v = .map (ValueMap.ofEntries history) := by
  simp only [eval, Outcome.bind_pure_eq_ok, evalEntries_eq_ok, ValueMap.ofEntries]
  constructor
  . rintro ⟨_, ⟨history, h, rfl⟩, rfl⟩
    exact ⟨history, h, rfl⟩
  . rintro ⟨history, h, rfl⟩
    exact ⟨_, ⟨history, h, rfl⟩, rfl⟩

theorem eval_chain_singleton {env : Env H} {base : Expr H} {target : Value H} (step : Step H)
    (h : eval env base = .ok target) :
    eval env (.chain base [step]) = evalStep env target step := by
  simp only [eval, h, evalSteps, Outcome.ok_bind]
  cases evalStep env target step <;> rfl

end Expr

namespace ValueMap

variable [HostObject H]

/--
A program that asks the map for the value under a name gets `answer`, in whichever way it asks: as a
property, by an index, or by the method `get`.
-/
structure Answers (m : ValueMap H) (name : String) (answer : Value H) : Prop where
  property (lookup : String → Option (Value H)) (base : Expr H) :
    base.eval ⟨lookup, Members.builtin⟩ = .ok (.map m) →
      (Expr.chain base [.property name]).eval ⟨lookup, Members.builtin⟩ = .ok answer
  index (lookup : String → Option (Value H)) (base key : Expr H) :
    base.eval ⟨lookup, Members.builtin⟩ = .ok (.map m) →
      key.eval ⟨lookup, Members.builtin⟩ = .ok (.str name) →
        (Expr.chain base [.index key]).eval ⟨lookup, Members.builtin⟩ = .ok answer
  method (lookup : String → Option (Value H)) (base key : Expr H) :
    base.eval ⟨lookup, Members.builtin⟩ = .ok (.map m) →
      key.eval ⟨lookup, Members.builtin⟩ = .ok (.str name) →
        (Expr.chain base [.method "get" [key]]).eval ⟨lookup, Members.builtin⟩ = .ok answer

theorem answers_getText? (m : ValueMap H) (name : String) :
    Answers m name ((getText? name m).getD .null) where
  property lookup base hbase := by
    rw [Expr.eval_chain_singleton _ hbase]
    rfl
  index lookup base key hbase hkey := by
    rw [Expr.eval_chain_singleton _ hbase, Expr.evalStep, hkey, getText?_eq_get?]
    rfl
  method lookup base key hbase hkey := by
    rw [Expr.eval_chain_singleton _ hbase, Expr.evalStep, Expr.evalAll, hkey, getText?_eq_get?]
    rfl

/--
The map answers as the history of insertions demands that has built it, and as it goes on.
-/
structure Records (history : List (Value H × Value H)) (m : ValueMap H) : Prop where
  distinct : Distinct (keys m)
  get?_eq (key : Value H) : get? key m = lastValue? key history
  containsKey_eq (key : Value H) : containsKey key m = (lastValue? key history).isSome
  keys_eq : keys m = firstKeys history
  aligned (i : Nat) (k v : Value H) : (keys m)[i]? = some k → (values m)[i]? = some v →
    (k == k) = true → get? k m = some v
  replace_eq (key value : Value H) :
    replace key value m = (get? key m, ofEntries (history ++ [(key, value)]))
  length_replace (key value : Value H) :
    (replace key value m).2.length = m.length + if (get? key m).isNone then 1 else 0
  replace_lost (key value : Value H) : (key == key) = false →
    (replace key value m).2 = m ++ [(key, value)]
  get?_lost (key value : Value H) (later : List (Value H × Value H)) : (key == key) = false →
    get? key (ofEntries (history ++ (key, value) :: later)) = none
      ∧ ∀ other, get? other (ofEntries (history ++ (key, value) :: later))
          = get? other (ofEntries (history ++ later))
  getText?_eq (name : String) : getText? name m = lastValue? (.str name) history
  answers (name : String) : Answers m name ((getText? name m).getD .null)

theorem records_ofEntries [PartialEquivBEq H] (history : List (Value H × Value H)) :
    Records history (ofEntries history) where
  distinct := distinct_keys_ofEntries history
  get?_eq := get?_ofEntries history
  containsKey_eq key := by
    rw [containsKey, get?_ofEntries]
  keys_eq := keys_ofEntries history
  aligned i k v hk hv hself := by
    refine get?_of_distinct (i := i) (distinct_keys_ofEntries history) ?_ hself
    simp only [keys, values, List.getElem?_map, Option.map_eq_some_iff] at hk hv
    obtain ⟨entry, hentry, rfl⟩ := hk
    obtain ⟨entry', hentry', rfl⟩ := hv
    obtain rfl := Option.some.inj (hentry.symm.trans hentry')
    exact hentry
  replace_eq key value := by
    rw [ofEntries_append_singleton, insert, ← fst_replace]
  length_replace := fun key value => length_insert key value (ofEntries history)
  replace_lost key value h := insert_of_get?_eq_none (get?_eq_none_of_beq_self h _)
  get?_lost key value later h :=
    ⟨get?_eq_none_of_beq_self h _, fun other => get?_ofEntries_of_lost history h value other later⟩
  getText?_eq name := by
    rw [getText?_eq_get?, get?_ofEntries]
  answers := answers_getText? (ofEntries history)

/--
A map is insertion-ordered over the equality of values. Each history of insertions is recorded by the
map that it builds, and a map literal builds the map of its entries. The keys that are never found
again are those in which a decimal that is no number occurs.
-/
theorem insertion_ordered [EquivBEq H] :
    (∀ history : List (Value H × Value H), Records history (ofEntries history))
    ∧ (∀ (env : Env H) (entries : List (Expr H × Expr H)) (v : Value H),
        Expr.eval env (.map entries) = .ok v ↔
          ∃ history, Expr.EntriesEval env entries history ∧ v = .map (ofEntries history))
    ∧ ∀ key : Value H, (key == key) = false ↔ key.HasNaN :=
  ⟨records_ofEntries, fun _ => Expr.eval_map_eq_ok, fun _ => Value.beq_self_eq_false_iff⟩

theorem insertion_ordered_decimals :
    let history : List (Value Empty × Value Empty) :=
      [(.decimal 0.0, .int 1), (.decimal (0.0 / 0.0), .int 2), (.str "a", .int 3),
        (.decimal (-0.0), .int 4), (.decimal (0.0 / 0.0), .int 5)]
    keys (ofEntries history)
        = [.decimal 0.0, .decimal (0.0 / 0.0), .str "a", .decimal (0.0 / 0.0)]
      ∧ get? (.decimal (-0.0)) (ofEntries history) = some (.int 4)
      ∧ get? (.decimal (0.0 / 0.0)) (ofEntries history) = none
      ∧ Answers (ofEntries history) "a" (.int 3) := by
  intro history
  obtain ⟨records, -, -⟩ := insertion_ordered (H := Empty)
  have h := records history
  refine ⟨h.keys_eq, h.get?_eq _, h.get?_eq _, ?_⟩
  have ha : getText? "a" (ofEntries history) = some (.int 3) := h.getText?_eq "a"
  have hanswers := h.answers "a"
  rw [ha] at hanswers
  exact hanswers

end ValueMap

end Stencil
