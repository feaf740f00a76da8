import Stencil.Expr
import Stencil.Members.Builtin
import Stencil.Text.Search

/-!
This module contains the built-in classes: their fields and methods. The time that the class
`System` tells is a parameter.
-/

namespace Stencil

namespace Classes

variable {H : Type} [HostObject H]

def noField (_ : String) : Option (Value H) :=
  none

def readInteger (method s : String) : Eval (Value H) :=
  match Integer.read (Text.trim s.toList) with
  | .ok n => .ok (.int n)
  | .error e => .error (.unreadable method s (.integer e))

def readDecimal (method s : String) : Eval (Value H) :=
  match Decimal.read (Text.trim s.toList) with
  | .ok x => .ok (.decimal x)
  | .error e => .error (.unreadable method s (.decimal e))

def mathField (name : String) : Option (Value H) :=
  match name with
  | "PI" => some (.decimal 3.141592653589793)
  | "E" => some (.decimal 2.718281828459045)
  | _ => none

def round (x : Float) : Int64 :=
  Decimal.toInt (Decimal.floor (x + 0.5))

def pick (pickInt : Int64 → Int64 → Int64) (pickDecimal : Float → Float → Float) (method : String)
    (args : List (Value H)) : Eval (Value H) := do
  match ← Arguments.two method args with
  | (.int a, .int b) => return .int (pickInt a b)
  | (v, w) =>
    return .decimal (pickDecimal (← Arguments.number method 0 v) (← Arguments.number method 1 w))

def mathCall (method : String) (args : List (Value H)) : Option (Eval (Value H)) :=
  match method with
  | "max" => some (pick (fun a b => if a < b then b else a) Decimal.max method args)
  | "min" => some (pick (fun a b => if b < a then b else a) Decimal.min method args)
  | "abs" => some do
    match ← Arguments.one method args with
    | .int n => return .int (Members.absInt n)
    | v => return .decimal (← Arguments.number method 0 v).abs
  | "pow" => some do
    let (x, y) ← Arguments.twoNumbers method args
    return .decimal (x.pow y)
  | "sqrt" => some do
    return .decimal (← Arguments.oneNumber method args).sqrt
  | "floor" => some do
    return .decimal (Decimal.floor (← Arguments.oneNumber method args))
  | "ceil" => some do
    return .decimal (Decimal.ceil (← Arguments.oneNumber method args))
  | "round" => some do
    return .int (round (← Arguments.oneNumber method args))
  | _ => none

def integerField (name : String) : Option (Value H) :=
  match name with
  | "MAX_VALUE" => some (.int Int64.maxValue)
  | "MIN_VALUE" => some (.int Int64.minValue)
  | _ => none

def integerCall (method : String) (args : List (Value H)) : Option (Eval (Value H)) :=
  match method with
  | "parseInt" => some do
    readInteger method (← Arguments.oneText method args)
  | "valueOf" => some do
    match ← Arguments.one method args with
    | .str s => readInteger method s
    | v =>
      match v.asInt? with
      | some n => return .int n
      | none => throw (.callResolution method (.conversion v.typeName))
  | _ => none

def longCall (method : String) (args : List (Value H)) : Option (Eval (Value H)) :=
  match method with
  | "parseLong" => some do
    readInteger method (← Arguments.oneText method args)
  | _ => integerCall method args

def doubleField (name : String) : Option (Value H) :=
  match name with
  | "MAX_VALUE" => some (.decimal (Float.ofBits 0x7fefffffffffffff))
  | "MIN_VALUE" => some (.decimal (Float.ofBits 0x0010000000000000))
  | "NaN" => some (.decimal (0.0 / 0.0))
  | _ => none

def doubleCall (method : String) (args : List (Value H)) : Option (Eval (Value H)) :=
  match method with
  | "parseDouble" | "valueOf" => some do
    match ← Arguments.one method args with
    | .str s => readDecimal method s
    | v => return .decimal (← Arguments.number method 0 v)
  | _ => none

def joined (args : List (Value H)) : List String :=
  match args with
  | [.list items] => items.map Value.toText
  | _ => args.map Value.toText

def stringCall (method : String) (args : List (Value H)) : Option (Eval (Value H)) :=
  match method with
  | "valueOf" => some do
    return .str (← Arguments.one method args).toText
  | "join" => some <|
    match args with
    | .str separator :: rest => .ok (.str (separator.intercalate (joined rest)))
    | _ => .error (.callResolution method .separator)
  | _ => none

def booleanField (name : String) : Option (Value H) :=
  match name with
  | "TRUE" => some (.bool true)
  | "FALSE" => some (.bool false)
  | _ => none

def booleanCall (method : String) (args : List (Value H)) : Option (Eval (Value H)) :=
  match method with
  | "parseBoolean" => some do
    return .bool ((← Arguments.oneText method args).toList.map Char.toLower == "true".toList)
  | _ => none

def objectsCall (method : String) (args : List (Value H)) : Option (Eval (Value H)) :=
  match method with
  | "toString" => some <|
    match args with
    | [v] => .ok (.str v.toText)
    | [.null, default] => .ok default
    | [v, _] => .ok (.str v.toText)
    | _ => .error (Arguments.wrongNumber method .oneOrTwo args)
  | "isNull" => some do
    return .bool (← Arguments.one method args).isNull
  | "nonNull" => some do
    return .bool !(← Arguments.one method args).isNull
  | "equals" => some do
    let (v, w) ← Arguments.two method args
    return .bool (v.looseEq w)
  | "requireNonNullElse" => some do
    match ← Arguments.two method args with
    | (.null, default) => return default
    | (v, _) => return v
  | _ => none

def systemCall (now : Int64) (method : String) (args : List (Value H)) :
    Option (Eval (Value H)) :=
  match method with
  | "currentTimeMillis" => some (Arguments.none method args (.int now))
  | "lineSeparator" => some (.ok (.str "\n"))
  | _ => none

def builtin (now : Int64) : List (StaticClass H) :=
  [⟨"Math", mathField, mathCall⟩, ⟨"Integer", integerField, integerCall⟩,
   ⟨"Long", integerField, longCall⟩, ⟨"Double", doubleField, doubleCall⟩,
   ⟨"String", noField, stringCall⟩, ⟨"Boolean", booleanField, booleanCall⟩,
   ⟨"Objects", noField, objectsCall⟩, ⟨"System", noField, systemCall now⟩]

end Classes

/--
The classes that sources can name. A class that is registered under the name of another one takes
its place.
-/
structure ClassRegistry (H : Type) where
  classes : List (StaticClass H)

namespace ClassRegistry

variable {H : Type}

def empty : ClassRegistry H :=
  ⟨[]⟩

def register (r : ClassRegistry H) (cls : StaticClass H) : ClassRegistry H :=
  ⟨r.classes.filter (·.name != cls.name) ++ [cls]⟩

def resolve (r : ClassRegistry H) (name : String) : Option (StaticClass H) :=
  r.classes.find? (·.name == name)

def contains (r : ClassRegistry H) (name : String) : Bool :=
  (r.resolve name).isSome

def names (r : ClassRegistry H) : List String :=
  r.classes.map StaticClass.name

def builtin [HostObject H] (now : Int64) : ClassRegistry H :=
  ⟨Classes.builtin now⟩

end ClassRegistry

end Stencil
