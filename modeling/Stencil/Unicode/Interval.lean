import Std.Data.HashSet
import Stencil.Unicode.CharSet

/-!
This module contains the intervals of a set of characters: the pairs of first and last code points
of its gapless pieces, in increasing order. They are what counts when a set has to be spelled out.
-/

namespace Stencil

namespace CharSet

def lastPoint : Nat := 0x10ffff

def join : List (Nat × Nat) → List (Nat × Nat)
  | [] => []
  | (first, last) :: rest => go first last rest
where
  go (first last : Nat) : List (Nat × Nat) → List (Nat × Nat)
    | [] => [(first, last)]
    | (a, b) :: rest =>
      if a ≤ last + 1 then go first (max last b) rest else (first, last) :: go a b rest

def gaps (start : Nat) : List (Nat × Nat) → List (Nat × Nat)
  | [] => if start ≤ lastPoint then [(start, lastPoint)] else []
  | (a, b) :: rest => if start < a then (start, a - 1) :: gaps (b + 1) rest else gaps (b + 1) rest

def joinBoth (a b : List (Nat × Nat)) : List (Nat × Nat) :=
  join (a.merge b fun x y => x.1 ≤ y.1)

def ofPoints (points : List Nat) : List (Nat × Nat) :=
  join ((points.mergeSort (· ≤ ·)).map fun n => (n, n))

def foldedPoints (s : CharSet) : List Nat :=
  let met : Std.HashSet Nat := Unicode.foldPairs.foldl
    (fun met (c, least) =>
      if s.contains c || s.contains least then met.insert least.toNat else met) ∅
  Unicode.foldPairs.flatMap fun (c, least) =>
    if met.contains least.toNat then [c.toNat, least.toNat] else []

def asciiFoldedPoints (s : CharSet) : List Nat :=
  ((List.range 128).map Char.ofNat).filterMap fun c =>
    if (asciiOrbit c).any s.contains then some c.toNat else none

def pieces : CharSet → List (Nat × Nat)
  | empty => []
  | range first last => if first ≤ last then [(first.toNat, last.toNat)] else []
  | table runs => join runs.intervals
  | union a b => joinBoth a.pieces b.pieces
  | inter a b => gaps 0 (joinBoth (gaps 0 a.pieces) (gaps 0 b.pieces))
  | complement a => gaps 0 a.pieces
  | caseless a => joinBoth a.pieces (ofPoints a.foldedPoints)
  | asciiCaseless a => joinBoth a.pieces (ofPoints a.asciiFoldedPoints)

def intervals (s : CharSet) : List (Nat × Nat) :=
  gaps 0 (joinBoth (gaps 0 s.pieces) [(0xd800, 0xdfff)])

def isSingle (s : CharSet) : Bool :=
  match s.intervals with
  | [(first, last)] => first == last
  | _ => false

end CharSet

end Stencil
