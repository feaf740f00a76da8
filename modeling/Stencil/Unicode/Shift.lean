import Stencil.Unicode.RunSet

/-!
This module contains tables of shifts, which map a run of characters by a constant distance:
`41-5a>20` adds hexadecimal `20`, `178<79` subtracts `79`.
-/

namespace Stencil

namespace Unicode

structure Shift where
  run : Run
  distance : Int
  deriving Repr, Inhabited

namespace Shift

def read (cs : List Char) : Shift :=
  let (run, move) := cs.span fun c => c != '>' && c != '<'
  let distance : Int := RunSet.hexValue (move.drop 1)
  { run := RunSet.readRun run
    distance := if move.head? == some '<' then -distance else distance }

def table (text : String) : Array Shift :=
  ((RunSet.pieces [] text.toList).map read).toArray

def apply (shifts : Array Shift) (c : Char) : Char :=
  match shifts.find? (·.run.contains c.toNat) with
  | some s => Char.ofNat ((c.toNat : Int) + s.distance).toNat
  | none => c

end Shift

end Unicode

end Stencil
