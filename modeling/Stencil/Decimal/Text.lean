import Stencil.Decimal.Shortest
import Stencil.Unicode.Properties

/-!
This module contains the written form of decimals. A decimal is printed in the shortest digits
that identify it, always positionally: a whole one below `10 ^ 15` keeps one zero after the point,
a larger one has no point. It is read from digits with an optional point, exponent and sign, or
from the name of an infinity or of no number, and rounded to the nearest decimal.
-/

namespace Stencil

namespace Decimal

def pointlessFrom : Float := 1e15

def natText (n : Nat) : List Char :=
  Nat.toDigits 10 n

def positional (d : Digits) : List Char :=
  let text := natText d.digits
  if d.exponent ≥ 0 then
    text ++ List.replicate d.exponent.toNat '0'
  else
    let places := (-d.exponent).toNat
    let padded := List.replicate (places + 1 - text.length) '0' ++ text
    padded.take (padded.length - places) ++ '.' :: padded.drop (padded.length - places)

def shortestDigits (b : Binary) : Digits :=
  trim (Shortest.digits b) 24
where
  trim (d : Digits) : Nat → Digits
    | 0 => d
    | fuel + 1 =>
      if d.digits != 0 && d.digits % 10 == 0 then trim ⟨d.digits / 10, d.exponent + 1⟩ fuel else d

def toText (x : Float) : String :=
  match Binary.decode x with
  | .nan => "NaN"
  | .infinite negative => if negative then "-inf" else "inf"
  | .finite b =>
    let magnitude :=
      if b.significand == 0 then ['0']
      else positional (shortestDigits b)
    let tail := if isWhole x && x.abs < pointlessFrom then ['.', '0'] else []
    String.ofList ((if b.negative then ['-'] else []) ++ magnitude ++ tail)

inductive ReadError where
  | empty
  | invalid
  deriving Repr, DecidableEq, Inhabited

namespace ReadError

def message : ReadError → String
  | empty => "cannot parse float from empty string"
  | invalid => "invalid float literal"

end ReadError

def digitsValue (cs : List Char) : Nat :=
  cs.foldl (fun n c => 10 * n + (c.toNat - '0'.toNat)) 0

/--
The decimal nearest to `digits * 10 ^ exponent`. Far beyond the range of the decimals the power is
not computed.
-/
def ofDigits (digits : Nat) (exponent : Int) : Float :=
  if digits == 0 then 0.0
  else
    let place := (natText digits).length + exponent
    if place > 400 then 1.0 / 0.0
    else if place < -400 then 0.0
    else Float.ofScientific digits (exponent < 0) exponent.natAbs

def exponent? (cs : List Char) : Option Int :=
  let (negative, digits) :=
    match cs with
    | '-' :: rest => (true, rest)
    | '+' :: rest => (false, rest)
    | _ => (false, cs)
  if digits.isEmpty || !digits.all Unicode.isAsciiDigit then none
  else
    let n : Int := digitsValue digits
    some (if negative then -n else n)

def readNumber (cs : List Char) : Option Float :=
  let (whole, rest) := cs.span Unicode.isAsciiDigit
  let (fraction, rest) :=
    match rest with
    | '.' :: rest => rest.span Unicode.isAsciiDigit
    | _ => ([], rest)
  if whole.isEmpty && fraction.isEmpty then none
  else
    let shifted (exponent : Int) : Float :=
      ofDigits (digitsValue (whole ++ fraction)) (exponent - fraction.length)
    match rest with
    | [] => some (shifted 0)
    | c :: rest =>
      if c == 'e' || c == 'E' then (exponent? rest).map shifted else none

def readName (cs : List Char) : Option Float :=
  match cs.map Char.toLower with
  | ['i', 'n', 'f'] => some (1.0 / 0.0)
  | ['i', 'n', 'f', 'i', 'n', 'i', 't', 'y'] => some (1.0 / 0.0)
  | ['n', 'a', 'n'] => some (0.0 / 0.0)
  | _ => none

def read (cs : List Char) : Except ReadError Float :=
  match cs with
  | [] => .error .empty
  | c :: rest =>
    let body := if c == '-' || c == '+' then rest else cs
    match readNumber body <|> readName body with
    | some x => .ok (if c == '-' then -x else x)
    | none => .error .invalid

end Decimal

end Stencil
