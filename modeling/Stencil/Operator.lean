import Stencil.Value.Basic

/-!
This module contains the operators: their symbols, how tightly they bind, and what they do to
values. Integers wrap around, division drops the digits after the point, and only an integer
division by zero fails; as soon as a decimal is involved both numbers are decimals.
-/

namespace Stencil

inductive UnaryOp where
  | neg
  | not
  deriving Repr, DecidableEq, Inhabited

namespace UnaryOp

def symbol : UnaryOp → String
  | neg => "-"
  | not => "!"

def all : List UnaryOp :=
  [neg, not]

end UnaryOp

inductive BinaryOp where
  | add
  | sub
  | mul
  | div
  | rem
  | bitAnd
  | bitOr
  | bitXor
  | shl
  | shr
  | eq
  | ne
  | lt
  | le
  | gt
  | ge
  | and
  | or
  deriving Repr, DecidableEq, Inhabited

namespace BinaryOp

def symbol : BinaryOp → String
  | add => "+"
  | sub => "-"
  | mul => "*"
  | div => "/"
  | rem => "%"
  | bitAnd => "&"
  | bitOr => "|"
  | bitXor => "^"
  | shl => "<<"
  | shr => ">>"
  | eq => "=="
  | ne => "!="
  | lt => "<"
  | le => "<="
  | gt => ">"
  | ge => ">="
  | and => "&&"
  | or => "||"

def all : List BinaryOp :=
  [add, sub, mul, div, rem, bitAnd, bitOr, bitXor, shl, shr, eq, ne, lt, le, gt, ge, and, or]

def precedence : BinaryOp → Nat
  | or => 1
  | and => 2
  | eq | ne | lt | le | gt | ge => 3
  | bitOr => 4
  | bitXor => 5
  | bitAnd => 6
  | shl | shr => 7
  | add | sub => 8
  | mul | div | rem => 9

def isLogical : BinaryOp → Bool
  | and | or => true
  | _ => false

def deciding (op : BinaryOp) : Bool :=
  op != and

def applyInts (op : BinaryOp) (a b : Int64) : Eval Int64 :=
  match op with
  | add => .ok (a + b)
  | sub => .ok (a - b)
  | mul => .ok (a * b)
  | div => if b == 0 then .error .divisionByZero else .ok (a / b)
  | _ => if b == 0 then .error .divisionByZero else .ok (a % b)

def applyDecimals (op : BinaryOp) (x y : Float) : Float :=
  match op with
  | add => x + y
  | sub => x - y
  | mul => x * y
  | div => x / y
  | _ => Decimal.rem x y

def applyBits (op : BinaryOp) (a b : Int64) : Int64 :=
  match op with
  | bitAnd => a &&& b
  | bitOr => a ||| b
  | bitXor => a ^^^ b
  | shl => a <<< (b &&& 63)
  | _ => a >>> (b &&& 63)

def holds (op : BinaryOp) : Option Ordering → Bool
  | none => false
  | some o =>
    match op with
    | lt => o == .lt
    | le => o != .gt
    | gt => o == .gt
    | _ => o != .lt

end BinaryOp

def Decimal.compare? (x y : Float) : Option Ordering :=
  if x < y then some .lt
  else if y < x then some .gt
  else if x == y then some .eq
  else none

namespace Value

variable {H : Type} [HostObject H]

def mismatch (operator : String) (left : Value H) (right : Option (Value H)) : EvalError :=
  .typeMismatch operator left.typeName (right.map typeName)

def truth (operator : String) (v : Value H) : Eval Bool :=
  match v with
  | bool b => .ok b
  | _ => .error (mismatch operator v none)

def applyUnary (op : UnaryOp) (v : Value H) : Eval (Value H) :=
  match op, v with
  | .neg, int n => .ok (int (-n))
  | .neg, decimal x => .ok (decimal (-x))
  | .not, bool b => .ok (bool !b)
  | _, _ => .error (mismatch op.symbol v none)

def arithmetic (op : BinaryOp) (l r : Value H) : Eval (Value H) :=
  match l, r with
  | int a, int b => (op.applyInts a b).map int
  | _, _ =>
    match l.asDecimal?, r.asDecimal? with
    | some x, some y => .ok (decimal (op.applyDecimals x y))
    | _, _ => .error (mismatch op.symbol l (some r))

def bitwise (op : BinaryOp) (l r : Value H) : Eval (Value H) :=
  match l, r with
  | int a, int b => .ok (int (op.applyBits a b))
  | _, _ => .error (mismatch op.symbol l (some r))

def compare? (op : BinaryOp) (l r : Value H) : Eval (Option Ordering) :=
  match l, r with
  | str a, str b => .ok (some (compareOfLessAndEq a b))
  | int a, int b => .ok (some (compareOfLessAndEq a b))
  | _, _ =>
    match l.asDecimal?, r.asDecimal? with
    | some x, some y => .ok (Decimal.compare? x y)
    | _, _ => .error (mismatch op.symbol l (some r))

def logical (op : BinaryOp) (l r : Value H) : Eval (Value H) := do
  let a ← l.truth op.symbol
  let b ← r.truth op.symbol
  return bool (if op == .and then a && b else a || b)

def applyBinary (op : BinaryOp) (l r : Value H) : Eval (Value H) :=
  match op with
  | .add =>
    if l.isNumeric && r.isNumeric then arithmetic op l r
    else .ok (str (l.toText ++ r.toText))
  | .sub | .mul | .div | .rem => arithmetic op l r
  | .bitAnd | .bitOr | .bitXor | .shl | .shr => bitwise op l r
  | .eq => .ok (bool (l.looseEq r))
  | .ne => .ok (bool !(l.looseEq r))
  | .lt | .le | .gt | .ge => (compare? op l r).map fun order => bool (op.holds order)
  | .and | .or => logical op l r

def elementAt {α : Type} (items : List α) (i : Int64) : Eval α :=
  match if i < 0 then none else items[i.toInt.toNat]? with
  | some v => .ok v
  | none => .error (.indexOutOfBounds i items.length)

def index (target key : Value H) : Eval (Value H) :=
  match target, key with
  | map entries, _ => .ok ((ValueMap.get? key entries).getD null)
  | list items, int i => elementAt items i
  | str s, int i => (elementAt s.toList i).map fun c => str (String.singleton c)
  | _, _ => .error (mismatch "[]" target (some key))

end Value

end Stencil
