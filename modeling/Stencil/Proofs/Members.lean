import Stencil.Classes.Builtin
import Stencil.Proofs.Outcome
import Stencil.Proofs.Value.Map

/-!
This module contains what the operators, the built-in members and the built-in classes come to where
no object of a host is involved: a value in which none occurs, or an error that is not about a
variable.
-/

namespace Stencil

open Outcome

variable {H : Type}

def EvalError.NoVariable (e : EvalError) : Prop :=
  ∀ name, e ≠ .unresolvedVariable name

open EvalError

abbrev Native (r : Eval (Value H)) : Prop :=
  Ends Value.HostFree NoVariable r

namespace Arguments

@[simp]
theorem native_none {method : String} {args : List (Value H)} {result : Value H}
    (h : result.HostFree) : Native (none method args result) := by
  cases args <;> simp [none, h, wrongNumber, NoVariable]

@[simp]
theorem ends_one {method : String} {args : List (Value H)} {good : Value H → Prop}
    (h : ∀ v ∈ args, good v) : Ends good NoVariable (one method args) := by
  unfold one
  split
  . simpa using h
  . simp [wrongNumber, NoVariable]

@[simp]
theorem ends_two {method : String} {args : List (Value H)} {good : Value H × Value H → Prop}
    (h : ∀ v ∈ args, ∀ w ∈ args, good (v, w)) : Ends good NoVariable (two method args) := by
  unfold two
  split
  . exact h _ (by simp) _ (by simp)
  . simp [wrongNumber, NoVariable]

variable [HostObject H]

@[simp]
theorem ends_text {method : String} {i : Nat} {v : Value H} {good : String → Prop}
    (h : ∀ s, good s) : Ends good NoVariable (text method i v) := by
  cases v <;> simp [text, h, wrongKind, NoVariable]

@[simp]
theorem ends_integer {method : String} {i : Nat} {v : Value H} {good : Int64 → Prop}
    (h : ∀ n, good n) : Ends good NoVariable (integer method i v) := by
  cases v <;> simp [integer, h, wrongKind, NoVariable]

@[simp]
theorem ends_number {method : String} {i : Nat} {v : Value H} {good : Float → Prop}
    (h : ∀ x, good x) : Ends good NoVariable (number method i v) := by
  unfold number
  split <;> simp [h, wrongKind, NoVariable]

end Arguments

open Arguments

namespace Members

@[simp]
theorem hostFree_indexOf (part cs : List Char) : (indexOf part cs : Value H).HostFree := by
  unfold indexOf
  split <;> simp

variable {name : String} {args : List (Value H)} {r : Eval (Value H)}

theorem native_boolMethod {b : Bool} (hr : boolMethod b name args = some r) : Native r := by
  unfold boolMethod at hr
  split at hr <;> cases hr
  simp

theorem native_numberMethod {v : Value H} {n : Int64} {x : Float}
    (hr : numberMethod v n x name args = some r) : Native r := by
  unfold numberMethod at hr
  split at hr <;> cases hr
  case h_5 =>
    apply native_none
    split <;> simp
  all_goals simp

end Members

namespace Classes

theorem native_readInteger (method s : String) : Native (readInteger method s : Eval (Value H)) := by
  unfold readInteger
  split <;> simp [NoVariable]

theorem native_readDecimal (method s : String) : Native (readDecimal method s : Eval (Value H)) := by
  unfold readDecimal
  split <;> simp [NoVariable]

theorem native_systemCall {now : Int64} {method : String} {args : List (Value H)}
    {r : Eval (Value H)} (hr : systemCall now method args = some r) : Native r := by
  unfold systemCall at hr
  split at hr <;> cases hr <;> simp

theorem hostFree_fields (name : String) {v : Value H}
    (h : mathField name = some v ∨ integerField name = some v ∨ doubleField name = some v
      ∨ booleanField name = some v ∨ noField name = some v) : v.HostFree := by
  rcases h with h | h | h | h | h
  . unfold mathField at h
    split at h <;> cases h <;> simp
  . unfold integerField at h
    split at h <;> cases h <;> simp
  . unfold doubleField at h
    split at h <;> cases h <;> simp
  . unfold booleanField at h
    split at h <;> cases h <;> simp
  . cases h

end Classes

variable [HostObject H]

namespace Value

@[simp]
theorem ends_elementAt {α : Type} {items : List α} {i : Int64} {good : α → Prop}
    (h : ∀ a ∈ items, good a) : Ends good NoVariable (elementAt items i) := by
  unfold elementAt
  split
  . next a ha =>
    apply h
    split at ha
    . cases ha
    . exact List.mem_of_getElem? ha
  . simp [NoVariable]

@[simp]
theorem ends_truth {operator : String} {v : Value H} {good : Bool → Prop} (h : ∀ b, good b) :
    Ends good NoVariable (truth operator v) := by
  cases v <;> simp [truth, h, mismatch, NoVariable]

theorem native_applyUnary (op : UnaryOp) (v : Value H) : Native (applyUnary op v) := by
  unfold applyUnary
  split <;> simp [mismatch, NoVariable]

theorem ends_applyInts {op : BinaryOp} {a b : Int64} {good : Int64 → Prop} (h : ∀ n, good n) :
    Ends good NoVariable (op.applyInts a b) := by
  by_cases hb : b = 0 <;> cases op <;> simp [BinaryOp.applyInts, hb, h, NoVariable]

theorem native_arithmetic (op : BinaryOp) (l r : Value H) : Native (arithmetic op l r) := by
  unfold arithmetic
  split
  . simp [ends_applyInts]
  . split <;> simp [mismatch, NoVariable]

theorem native_bitwise (op : BinaryOp) (l r : Value H) : Native (bitwise op l r) := by
  unfold bitwise
  split <;> simp [mismatch, NoVariable]

theorem ends_compare? {op : BinaryOp} {l r : Value H} {good : Option Ordering → Prop}
    (h : ∀ o, good o) : Ends good NoVariable (compare? op l r) := by
  unfold compare?
  split
  . simp [h]
  . simp [h]
  . split <;> simp [h, mismatch, NoVariable]

theorem native_applyBinary (op : BinaryOp) (l r : Value H) : Native (applyBinary op l r) := by
  have harithmetic := native_arithmetic op l r
  have hbitwise := native_bitwise op l r
  cases op
  case add =>
    rw [applyBinary]
    split
    . exact harithmetic
    . simp
  all_goals first
    | exact harithmetic
    | exact hbitwise
    | simp [applyBinary, ends_compare?, logical]

theorem hostFree_getD_get? {m : ValueMap H} (h : (map m).HostFree) (key : Value H) :
    ((ValueMap.get? key m).getD null).HostFree := by
  cases hv : ValueMap.get? key m with
  | none => simp
  | some v =>
    obtain ⟨k, hk⟩ := ValueMap.exists_mem_of_get? hv
    exact (hostFree_map.mp h _ hk).2

theorem native_index {target : Value H} (h : target.HostFree) (key : Value H) :
    Native (index target key) := by
  unfold index
  split
  . exact hostFree_getD_get? h key
  . exact ends_elementAt (hostFree_list.mp h)
  . simp
  . simp [mismatch, NoVariable]

end Value

namespace Members

@[simp]
theorem ends_pattern {method : String} {text : List Char} {good : Regex → Prop} (h : ∀ r, good r) :
    Ends good NoVariable (pattern method text) := by
  unfold pattern
  split <;> simp [h, NoVariable]

@[simp]
theorem ends_substring {cs : List Char} {start stop : Int64} {good : List Char → Prop}
    (h : ∀ part, good part) : Ends good NoVariable (substring cs start stop) := by
  unfold substring
  split <;> simp [h, NoVariable]

variable {name : String} {args : List (Value H)} {r : Eval (Value H)}

theorem native_textMethod {s : String} (hargs : ∀ v ∈ args, v.HostFree)
    (hr : textMethod s name args = some r) : Native r := by
  unfold textMethod at hr
  split at hr <;> cases hr
  case h_8 =>
    -- `substring` alone has two forms.
    split <;> simp [wrongNumber, NoVariable, ofChars]
  all_goals simp [Native, ofChars, oneText, oneInteger, twoTexts]

theorem native_listMethod {items : List (Value H)} (h : (Value.list items).HostFree)
    (hr : listMethod items name args = some r) : Native r := by
  rw [Value.hostFree_list] at h
  unfold listMethod at hr
  split at hr <;> cases hr
  case h_5 =>
    rw [Native, ends_bind]
    apply ends_one
    intro wanted _
    split <;> simp
  all_goals simp [oneInteger, Value.ends_elementAt h]

theorem native_mapMethod {m : ValueMap H} (h : (Value.map m).HostFree)
    (hr : mapMethod m name args = some r) : Native r := by
  have hentries := Value.hostFree_map.mp h
  have hkeys : (Value.list (ValueMap.keys m)).HostFree := by
    rw [Value.hostFree_list, ValueMap.keys, List.forall_mem_map]
    exact fun entry he => (hentries entry he).1
  have hvalues : (Value.list (ValueMap.values m)).HostFree := by
    rw [Value.hostFree_list, ValueMap.values, List.forall_mem_map]
    exact fun entry he => (hentries entry he).2
  unfold mapMethod at hr
  split at hr <;> cases hr
  case h_6 => exact native_none hkeys
  case h_7 => exact native_none hvalues
  all_goals simp [Value.hostFree_getD_get? h]

theorem native_commonMethod {v : Value H} (hr : commonMethod v name args = some r) : Native r := by
  unfold commonMethod at hr
  split at hr <;> cases hr
  all_goals simp

theorem native_builtinMethod {v : Value H} (hv : v.HostFree) (hargs : ∀ v ∈ args, v.HostFree)
    (hr : builtinMethod v name args = some r) : Native r := by
  rw [builtinMethod, Option.or_eq_some_iff] at hr
  rcases hr with hr | ⟨-, hr⟩
  . unfold typeMethod at hr
    split at hr
    . exact native_textMethod hargs hr
    . exact native_listMethod hv hr
    . exact native_mapMethod hv hr
    . exact native_numberMethod hr
    . exact native_numberMethod hr
    . exact native_boolMethod hr
    . exact absurd hv (Value.not_hostFree_object _)
    . cases hr
  . exact native_commonMethod hr

theorem native_builtinProperty {v : Value H} (hv : v.HostFree)
    (hr : builtinProperty v name = some r) : Native r := by
  unfold builtinProperty at hr
  split at hr
  . cases hr
    rw [ValueMap.getText?_eq_get?]
    exact Value.hostFree_getD_get? hv _
  . exact absurd hv (Value.not_hostFree_object _)
  . split at hr <;> cases hr
    simp
  . cases hr

end Members

namespace Classes

variable {method : String} {args : List (Value H)} {r : Eval (Value H)}

theorem native_pick (pickInt : Int64 → Int64 → Int64) (pickDecimal : Float → Float → Float)
    (method : String) (args : List (Value H)) : Native (pick pickInt pickDecimal method args) := by
  rw [pick, Native, ends_bind]
  apply ends_two
  intro v _ w _
  split <;> simp

theorem native_mathCall (hr : mathCall method args = some r) : Native r := by
  unfold mathCall at hr
  split at hr <;> cases hr
  case h_1 | h_2 => exact native_pick ..
  case h_3 =>
    rw [Native, ends_bind]
    apply ends_one
    intro v _
    split <;> simp
  all_goals simp [twoNumbers, oneNumber]

theorem native_integerCall (hr : integerCall method args = some r) : Native r := by
  unfold integerCall at hr
  split at hr <;> cases hr
  . simp [oneText, native_readInteger]
  . rw [Native, ends_bind]
    apply ends_one
    intro v _
    split
    . exact native_readInteger ..
    . split <;> simp [NoVariable]

theorem native_longCall (hr : longCall method args = some r) : Native r := by
  unfold longCall at hr
  split at hr
  . cases hr
    simp [oneText, native_readInteger]
  . exact native_integerCall hr

theorem native_doubleCall (hr : doubleCall method args = some r) : Native r := by
  unfold doubleCall at hr
  split at hr <;> cases hr
  all_goals
    rw [Native, ends_bind]
    apply ends_one
    intro v _
    split
    . exact native_readDecimal ..
    . simp

theorem native_stringCall (hr : stringCall method args = some r) : Native r := by
  unfold stringCall at hr
  split at hr <;> cases hr
  . simp
  . split <;> simp [NoVariable]

theorem native_booleanCall (hr : booleanCall method args = some r) : Native r := by
  unfold booleanCall at hr
  split at hr <;> cases hr
  simp [oneText]

theorem native_objectsCall (hargs : ∀ v ∈ args, v.HostFree) (hr : objectsCall method args = some r) :
    Native r := by
  unfold objectsCall at hr
  split at hr <;> cases hr
  case h_1 =>
    split
    . simp
    . exact hargs _ (by simp)
    . simp
    . simp [wrongNumber, NoVariable]
  case h_5 =>
    rw [Native, ends_bind]
    apply ends_two
    intro v hv w hw
    split
    . next heq =>
      cases heq
      exact hargs _ hw
    . next heq =>
      cases heq
      exact hargs _ hv
  all_goals simp

variable {now : Int64} {cls : StaticClass H}

theorem native_call (hcls : cls ∈ (ClassRegistry.builtin now).classes)
    (hargs : ∀ v ∈ args, v.HostFree) (hr : cls.call method args = some r) : Native r := by
  simp only [ClassRegistry.builtin, builtin, List.mem_cons, List.not_mem_nil, or_false] at hcls
  rcases hcls with rfl | rfl | rfl | rfl | rfl | rfl | rfl | rfl
  . exact native_mathCall hr
  . exact native_integerCall hr
  . exact native_longCall hr
  . exact native_doubleCall hr
  . exact native_stringCall hr
  . exact native_booleanCall hr
  . exact native_objectsCall hargs hr
  . exact native_systemCall hr

theorem hostFree_field {name : String} {v : Value H}
    (hcls : cls ∈ (ClassRegistry.builtin now).classes) (hv : cls.field name = some v) :
    v.HostFree := by
  simp only [ClassRegistry.builtin, builtin, List.mem_cons, List.not_mem_nil, or_false] at hcls
  rcases hcls with rfl | rfl | rfl | rfl | rfl | rfl | rfl | rfl
  all_goals
    apply hostFree_fields name
    tauto

end Classes

end Stencil
