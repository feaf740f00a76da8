/-!
This module contains the decimals of the language, binary floating-point numbers of 64 bits, as
exact numbers: a finite one is a sign, a significand and a power of two. What is exact on this
view (remainder, rounding to an integer, conversion to and from 64-bit integers) is computed on
it.
-/

namespace Stencil

/--
A finite decimal: `significand * 2 ^ exponent`, negated if `negative`.
-/
structure Binary where
  negative : Bool
  significand : Nat
  exponent : Int
  deriving Repr, DecidableEq, Inhabited

inductive Decoded where
  | nan
  | infinite (negative : Bool)
  | finite (value : Binary)
  deriving Repr, DecidableEq, Inhabited

namespace Binary

def leastExponent : Int := -1074

def hiddenBit : Nat := 0x10000000000000

def signBit : Nat := 0x8000000000000000

def decode (x : Float) : Decoded :=
  let bits := x.toBits.toNat
  let negative := bits ≥ signBit
  let field := bits / hiddenBit % 2048
  let fraction := bits % hiddenBit
  if field == 2047 then
    if fraction == 0 then .infinite negative else .nan
  else if field == 0 then
    .finite ⟨negative, fraction, leastExponent⟩
  else
    .finite ⟨negative, hiddenBit + fraction, field - 1075⟩

/--
The decimal with the value `b`. It is exact if the significand has no more than 53 bits and the
exponent is in the range of the decimals.
-/
def toFloat (b : Binary) : Float :=
  let sign := if b.negative then signBit else 0
  if b.significand == 0 then Float.ofBits (UInt64.ofNat sign)
  else
    let room := (b.exponent - leastExponent).toNat
    let shift := min (52 - b.significand.log2) room
    let significand := b.significand * Nat.pow 2 shift
    if significand < hiddenBit then Float.ofBits (UInt64.ofNat (sign + significand))
    else
      let field := (b.exponent - shift + 1075).toNat
      Float.ofBits (UInt64.ofNat (sign + field * hiddenBit + (significand - hiddenBit)))

def whole (b : Binary) : Nat × Bool :=
  if b.exponent < 0 then
    let unit := Nat.pow 2 (-b.exponent).toNat
    (b.significand / unit, b.significand % unit != 0)
  else
    (b.significand * Nat.pow 2 b.exponent.toNat, false)

end Binary

namespace Decimal

def ofInt (n : Int64) : Float :=
  if n < 0 then -(UInt64.ofNat n.toInt.natAbs).toFloat
  else (UInt64.ofNat n.toInt.natAbs).toFloat

def toInt (x : Float) : Int64 :=
  match Binary.decode x with
  | .nan => 0
  | .infinite negative => if negative then Int64.minValue else Int64.maxValue
  | .finite b =>
    let magnitude : Int := b.whole.1
    let n := if b.negative then -magnitude else magnitude
    if n < Int64.minValue.toInt then Int64.minValue
    else if n > Int64.maxValue.toInt then Int64.maxValue
    else Int64.ofInt n

/--
A whole decimal near `x`: `up` tells, by the sign of `x`, whether a part cut off is rounded away
from zero. The sign of `x` is kept, also on zero.
-/
def toWhole (up : Bool → Bool) (x : Float) : Float :=
  match Binary.decode x with
  | .finite b =>
    if b.exponent ≥ 0 then x
    else
      let (n, cut) := b.whole
      (⟨b.negative, if cut && up b.negative then n + 1 else n, 0⟩ : Binary).toFloat
  | _ => x

def floor (x : Float) : Float :=
  toWhole (fun negative => negative) x

def ceil (x : Float) : Float :=
  toWhole (fun negative => !negative) x

def isWhole (x : Float) : Bool :=
  match Binary.decode x with
  | .finite b => !b.whole.2
  | _ => false

def rem (x y : Float) : Float :=
  match Binary.decode x, Binary.decode y with
  | .finite a, .finite b =>
    if b.significand == 0 then 0.0 / 0.0
    else
      let exponent := min a.exponent b.exponent
      let scaled (c : Binary) : Nat := c.significand * Nat.pow 2 (c.exponent - exponent).toNat
      (⟨a.negative, scaled a % scaled b, exponent⟩ : Binary).toFloat
  | .finite _, .infinite _ => x
  | _, _ => 0.0 / 0.0

def max (x y : Float) : Float :=
  if x.isNaN then y else if y.isNaN then x else if x < y then y else x

def min (x y : Float) : Float :=
  if x.isNaN then y else if y.isNaN then x else if y < x then y else x

end Decimal

end Stencil
