import Stencil.Decimal.Binary

/-!
This module contains the shortest decimal digits that identify a floating-point number: of all
digit strings that are read back as the number, one of the fewest digits, and of those the nearest.
All tests are exact, on natural numbers.
-/

namespace Stencil

structure Digits where
  digits : Nat
  exponent : Int
  deriving Repr, DecidableEq, Inhabited

namespace Shortest

/--
The numbers that are read as `significand * 2 ^ exponent`, in units of `2 ^ (exponent - 2)`: those
from `low` to `high`, the ends included if the significand is even. Below the least number of a
binade the neighbour is only half as far away.
-/
structure Rounding where
  low : Nat
  value : Nat
  high : Nat
  closed : Bool
  deriving Repr, Inhabited

def rounding (b : Binary) : Rounding :=
  let narrow := b.significand == Binary.hiddenBit && b.exponent != Binary.leastExponent
  { low := 4 * b.significand - if narrow then 1 else 2
    value := 4 * b.significand
    high := 4 * b.significand + 2
    closed := b.significand % 2 == 0 }

def Rounding.holds (r : Rounding) (unit scale n : Nat) : Bool :=
  let point := n * scale
  if r.closed then r.low * unit ≤ point && point ≤ r.high * unit
  else r.low * unit < point && point < r.high * unit

/--
The first grid, from `10 ^ place` downwards, with a point in the interval. The two grid points
around the value are tried; if both fit the nearer one is taken, the upper one if they are equally
near.
-/
def search (r : Rounding) (exponent : Int) (place : Int) : Nat → Digits
  | 0 => ⟨0, 0⟩
  | fuel + 1 =>
    let unit := Nat.pow 2 (exponent - 2).toNat * Nat.pow 10 (-place).toNat
    let scale := Nat.pow 10 place.toNat * Nat.pow 2 (2 - exponent).toNat
    let below := r.value * unit / scale
    let rest := r.value * unit % scale
    let fitsBelow := r.holds unit scale below
    let fitsAbove := r.holds unit scale (below + 1)
    if fitsAbove && (!fitsBelow || 2 * rest ≥ scale) then ⟨below + 1, place⟩
    else if fitsBelow then ⟨below, place⟩
    else search r exponent (place - 1) fuel

/--
The number of decimal digits before the point of a number in binary notation, or an estimate that
is too large by few.
-/
def leadingPlace (b : Binary) : Int :=
  (b.significand.log2 + b.exponent) * 30103 / 100000 + 1

def digits (b : Binary) : Digits :=
  search (rounding b) b.exponent (leadingPlace b) 24

end Shortest

end Stencil
