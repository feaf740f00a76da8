import Stencil.Error

/-!
This module contains the values of the language: what they are, their types, when two of them are
equal, and how they are written. Values are dynamically typed; numbers come as integers of 64 bits
and as decimals, collections as lists and maps, and `H` is the type of the objects that a host
brings along.
-/

namespace Stencil

/--
A value. The entries of a map stand in the order in which their keys were first inserted.
-/
inductive Value (H : Type) where
  | null
  | bool (b : Bool)
  | int (n : Int64)
  | decimal (x : Float)
  | str (s : String)
  | list (items : List (Value H))
  | map (entries : List (Value H × Value H))
  | object (o : H)
  deriving Inhabited

abbrev ValueMap (H : Type) := List (Value H × Value H)

abbrev Eval := Except EvalError

/--
Objects of a host: `==` tells whether two of them are the same object, and a member that is `none`
does not exist.
-/
class HostObject (H : Type) extends BEq H where
  typeName : H → String
  text : H → String
  property : H → String → Option (Eval (Value H))
  call : H → String → List (Value H) → Option (Eval (Value H))

instance : HostObject Empty where
  beq _ _ := true
  typeName := Empty.elim
  text := Empty.elim
  property o := o.elim
  call o := o.elim

namespace Value

variable {H : Type}

mutual
/--
Structural equality. Decimals compare as numbers, so that a value which contains no number is not
even equal to itself; objects compare by identity, maps entry by entry.
-/
def beq [BEq H] : Value H → Value H → Bool
  | null, null => true
  | bool a, bool b => a == b
  | int a, int b => a == b
  | decimal a, decimal b => a == b
  | str a, str b => a == b
  | list a, list b => beqItems a b
  | map a, map b => beqEntries a b
  | object a, object b => a == b
  | _, _ => false

def beqItems [BEq H] : List (Value H) → List (Value H) → Bool
  | [], [] => true
  | a :: as, b :: bs => beq a b && beqItems as bs
  | _, _ => false

def beqEntries [BEq H] : List (Value H × Value H) → List (Value H × Value H) → Bool
  | [], [] => true
  | (k, v) :: as, (l, w) :: bs => beq k l && beq v w && beqEntries as bs
  | _, _ => false
end

instance [BEq H] : BEq (Value H) where
  beq := beq

mutual
def toText [HostObject H] : Value H → String
  | null => "null"
  | bool true => "true"
  | bool false => "false"
  | int n => Integer.toText n
  | decimal x => Decimal.toText x
  | str s => s
  | list items => "[" ++ ", ".intercalate (itemTexts items) ++ "]"
  | map entries => "\x7b" ++ ", ".intercalate (entryTexts entries) ++ "\x7d"
  | object o => HostObject.text o

def itemTexts [HostObject H] : List (Value H) → List String
  | [] => []
  | v :: rest => toText v :: itemTexts rest

def entryTexts [HostObject H] : List (Value H × Value H) → List String
  | [] => []
  | (k, v) :: rest => (toText k ++ "=" ++ toText v) :: entryTexts rest
end

def typeName [HostObject H] : Value H → String
  | null => "null"
  | bool _ => "boolean"
  | int _ => "integer"
  | decimal _ => "decimal"
  | str _ => "string"
  | list _ => "list"
  | map _ => "map"
  | object o => HostObject.typeName o

def isNull : Value H → Bool
  | null => true
  | _ => false

def isNumeric : Value H → Bool
  | int _ | decimal _ => true
  | _ => false

def asDecimal? : Value H → Option Float
  | int n => some (Decimal.ofInt n)
  | decimal x => some x
  | _ => none

def asInt? : Value H → Option Int64
  | int n => some n
  | decimal x => some (Decimal.toInt x)
  | _ => none

def asBool? : Value H → Option Bool
  | bool b => some b
  | _ => none

def looseEq [BEq H] : Value H → Value H → Bool
  | int a, decimal b => Decimal.ofInt a == b
  | decimal a, int b => a == Decimal.ofInt b
  | a, b => a == b

def ofLength (n : Nat) : Value H :=
  int (if n > Integer.greatest then Int64.maxValue else Int64.ofNat n)

end Value

namespace ValueMap

variable {H : Type}

/--
Gives `key` the value `value`, and tells the value that it had. A key that is there keeps its place
and its spelling; a new one goes to the end.
-/
def replace [BEq H] (key value : Value H) : ValueMap H → Option (Value H) × ValueMap H
  | [] => (none, [(key, value)])
  | (k, v) :: rest =>
    if k == key then (some v, (k, value) :: rest)
    else
      let (old, rest) := replace key value rest
      (old, (k, v) :: rest)

def insert [BEq H] (key value : Value H) (m : ValueMap H) : ValueMap H :=
  (replace key value m).2

def get? [BEq H] (key : Value H) : ValueMap H → Option (Value H)
  | [] => none
  | (k, v) :: rest => if k == key then some v else get? key rest

def getText? (name : String) : ValueMap H → Option (Value H)
  | [] => none
  | (.str s, v) :: rest => if s == name then some v else getText? name rest
  | _ :: rest => getText? name rest

def containsKey [BEq H] (key : Value H) (m : ValueMap H) : Bool :=
  (get? key m).isSome

def keys (m : ValueMap H) : List (Value H) :=
  m.map Prod.fst

def values (m : ValueMap H) : List (Value H) :=
  m.map Prod.snd

def ofEntries [BEq H] (entries : List (Value H × Value H)) : ValueMap H :=
  entries.foldl (fun m (k, v) => insert k v m) []

end ValueMap

end Stencil
