import Stencil.Expr
import Stencil.Members.Text

/-!
This module contains the built-in members of values: the methods of each type, those that all values
share, and the properties of maps, lists and host objects. A host object answers before the shared
methods do.
-/

namespace Stencil

namespace Members

variable {H : Type} [HostObject H]

def absInt (n : Int64) : Int64 :=
  if n < 0 then -n else n

def numberMethod (v : Value H) (n : Int64) (x : Float) (name : String) (args : List (Value H)) :
    Option (Eval (Value H)) :=
  match name with
  | "intValue" | "longValue" => some (Arguments.none name args (.int n))
  | "doubleValue" | "floatValue" => some (Arguments.none name args (.decimal x))
  | "abs" =>
    some (Arguments.none name args
      (match v with
        | .int n => .int (absInt n)
        | _ => .decimal x.abs))
  | _ => none

def boolMethod (b : Bool) (name : String) (args : List (Value H)) : Option (Eval (Value H)) :=
  match name with
  | "booleanValue" => some (Arguments.none name args (.bool b))
  | _ => none

def listMethod (items : List (Value H)) (name : String) (args : List (Value H)) :
    Option (Eval (Value H)) :=
  match name with
  | "size" => some (Arguments.none name args (.ofLength items.length))
  | "isEmpty" => some (Arguments.none name args (.bool items.isEmpty))
  | "get" => some do
    Value.elementAt items (← Arguments.oneInteger name args)
  | "contains" => some do
    let wanted ← Arguments.one name args
    return .bool (items.any fun v => v.looseEq wanted)
  | "indexOf" => some do
    let wanted ← Arguments.one name args
    match items.findIdx? fun v => v.looseEq wanted with
    | some i => return .ofLength i
    | none => return .int (-1)
  | _ => none

def mapMethod (m : ValueMap H) (name : String) (args : List (Value H)) : Option (Eval (Value H)) :=
  match name with
  | "size" => some (Arguments.none name args (.ofLength m.length))
  | "isEmpty" => some (Arguments.none name args (.bool m.isEmpty))
  | "get" => some do
    return (ValueMap.get? (← Arguments.one name args) m).getD .null
  | "containsKey" => some do
    return .bool (ValueMap.containsKey (← Arguments.one name args) m)
  | "containsValue" => some do
    let wanted ← Arguments.one name args
    return .bool ((ValueMap.values m).any fun v => v.looseEq wanted)
  | "keySet" => some (Arguments.none name args (.list (ValueMap.keys m)))
  | "values" => some (Arguments.none name args (.list (ValueMap.values m)))
  | _ => none

def commonMethod (v : Value H) (name : String) (args : List (Value H)) : Option (Eval (Value H)) :=
  match name with
  | "toString" => some (Arguments.none name args (.str v.toText))
  | "equals" => some do
    return .bool (v.looseEq (← Arguments.one name args))
  | "isNull" => some (Arguments.none name args (.bool v.isNull))
  | _ => none

def typeMethod (v : Value H) (name : String) (args : List (Value H)) : Option (Eval (Value H)) :=
  match v with
  | .str s => textMethod s name args
  | .list items => listMethod items name args
  | .map entries => mapMethod entries name args
  | .int n => numberMethod v n (Decimal.ofInt n) name args
  | .decimal x => numberMethod v (Decimal.toInt x) x name args
  | .bool b => boolMethod b name args
  | .object o => HostObject.call o name args
  | .null => none

def builtinMethod (v : Value H) (name : String) (args : List (Value H)) : Option (Eval (Value H)) :=
  (typeMethod v name args).or (commonMethod v name args)

def builtinProperty (v : Value H) (name : String) : Option (Eval (Value H)) :=
  match v with
  | .map entries => some (.ok ((ValueMap.getText? name entries).getD .null))
  | .object o => HostObject.property o name
  | .list items => if name == "length" then some (.ok (.ofLength items.length)) else none
  | _ => none

def builtin : Members H where
  property := builtinProperty
  method := builtinMethod

def nothing : Members H where
  property _ _ := none
  method _ _ _ := none

end Members

end Stencil
