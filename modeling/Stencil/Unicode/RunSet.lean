/-!
This module contains sets of code points written as runs. A table of the Unicode standard is one
text of runs in hexadecimal: `41-5a` is every code point from `41` to `5a`, `100-136/2` every second
one, `aa` a single one. The runs of a table stand in increasing order and do not overlap, so that
membership is a binary search.
-/

namespace Stencil

/--
The code points `first`, `first + step`, … up to `last`.
-/
structure Run where
  first : Nat
  last : Nat
  step : Nat := 1
  deriving Repr, DecidableEq, Inhabited

namespace Run

def contains (r : Run) (n : Nat) : Bool :=
  r.first ≤ n && n ≤ r.last && (n - r.first) % r.step == 0

end Run

structure RunSet where
  runs : Array Run
  deriving Repr, DecidableEq, Inhabited

namespace RunSet

def hexValue (cs : List Char) : Nat :=
  cs.foldl (fun n c => 16 * n + digit c) 0
where
  digit (c : Char) : Nat :=
    if '0' ≤ c && c ≤ '9' then c.toNat - '0'.toNat
    else if 'a' ≤ c && c ≤ 'f' then c.toNat - 'a'.toNat + 10
    else 0

def readRun (cs : List Char) : Run :=
  let (bounds, step) := cs.span (· != '/')
  let (low, high) := bounds.span (· != '-')
  let first := hexValue low
  { first
    last := if high.isEmpty then first else hexValue (high.drop 1)
    step := if step.isEmpty then 1 else hexValue (step.drop 1) }

def pieces (piece : List Char) : List Char → List (List Char)
  | [] => if piece.isEmpty then [] else [piece.reverse]
  | c :: rest =>
    if c == ' ' || c == '\n' then
      if piece.isEmpty then pieces [] rest else piece.reverse :: pieces [] rest
    else pieces (c :: piece) rest

def ofText (table : String) : RunSet :=
  ⟨((pieces [] table.toList).map readRun).toArray⟩

/--
The last run that starts at or before `n` decides whether `n` is a member. `low` runs are known to
start at or before `n`, and those from `high` on start after it.
-/
def search (runs : Array Run) (n : Nat) (low high : Nat) : Bool :=
  if low < high then
    let middle := (low + high) / 2
    match runs[middle]? with
    | none => false
    | some r =>
      if r.first ≤ n then search runs n (middle + 1) high else search runs n low middle
  else
    match runs[low - 1]? with
    | none => false
    | some r => r.contains n
termination_by high - low

def contains (s : RunSet) (n : Nat) : Bool :=
  search s.runs n 0 s.runs.size

def intervals (s : RunSet) : List (Nat × Nat) :=
  s.runs.toList.flatMap fun r =>
    if r.step == 1 then [(r.first, r.last)]
    else (List.range ((r.last - r.first) / r.step + 1)).map fun i =>
      (r.first + i * r.step, r.first + i * r.step)

end RunSet

end Stencil
