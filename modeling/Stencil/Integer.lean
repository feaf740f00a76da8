import Stencil.Unicode.Properties

/-!
This module contains the written form of integers: decimal digits with a minus sign where needed,
and the reading of digits up to a bound, which names the first thing that is wrong from left to
right.
-/

namespace Stencil

namespace Integer

inductive ReadError where
  | empty
  | invalidDigit
  | tooLarge
  | tooSmall
  deriving Repr, DecidableEq, Inhabited

namespace ReadError

def message : ReadError → String
  | empty => "cannot parse integer from empty string"
  | invalidDigit => "invalid digit found in string"
  | tooLarge => "number too large to fit in target type"
  | tooSmall => "number too small to fit in target type"

end ReadError

def digitValue (c : Char) : Option Nat :=
  if '0' ≤ c && c ≤ '9' then some (c.toNat - '0'.toNat)
  else if 'a' ≤ c && c ≤ 'f' then some (c.toNat - 'a'.toNat + 10)
  else if 'A' ≤ c && c ≤ 'F' then some (c.toNat - 'A'.toNat + 10)
  else none

/--
Reads digits after the number `n`. A number above `bound` is the error `overflow`, at the digit
where it gets too large.
-/
def readDigits (radix bound : Nat) (overflow : ReadError) (n : Nat) :
    List Char → Except ReadError Nat
  | [] => .ok n
  | c :: rest =>
    match digitValue c with
    | none => .error .invalidDigit
    | some d =>
      if d ≥ radix then .error .invalidDigit
      else if radix * n + d > bound then .error overflow
      else readDigits radix bound overflow (radix * n + d) rest

def readNat (radix bound : Nat) (overflow : ReadError) : List Char → Except ReadError Nat
  | [] => .error .invalidDigit
  | cs => readDigits radix bound overflow 0 cs

def greatest : Nat := 0x7fffffffffffffff

def leastMagnitude : Nat := 0x8000000000000000

def greatestCount : Nat := 0xffffffffffffffff

def read (cs : List Char) : Except ReadError Int64 :=
  match cs with
  | [] => .error .empty
  | '-' :: rest =>
    (readNat 10 leastMagnitude .tooSmall rest).map fun n => Int64.ofInt (-(n : Int))
  | '+' :: rest => (readNat 10 greatest .tooLarge rest).map fun n => Int64.ofInt n
  | _ => (readNat 10 greatest .tooLarge cs).map fun n => Int64.ofInt n

def readCount (cs : List Char) : Except ReadError Nat :=
  match cs with
  | [] => .error .empty
  | '+' :: rest => readNat 10 greatestCount .tooLarge rest
  | _ => readNat 10 greatestCount .tooLarge cs

def toText (n : Int64) : String :=
  let magnitude := Nat.toDigits 10 n.toInt.natAbs
  String.ofList (if n < 0 then '-' :: magnitude else magnitude)

end Integer

end Stencil
