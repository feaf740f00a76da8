import Stencil.Pattern.Escape

/-!
This module contains the reading of character classes in brackets: characters, ranges, named sets
and nested classes side by side, joined by the set operators `&&`, `--` and `~~`, which all group
to the left.
-/

namespace Stencil

namespace Pattern

inductive SetOp where
  | inter
  | diff
  | symmDiff
  deriving Repr, DecidableEq, Inhabited

namespace SetOp

def apply : SetOp → CharSet → CharSet → CharSet
  | inter => .inter
  | diff => .diff
  | symmDiff => .symmDiff

end SetOp

/--
What was read of a class: the operator with its left operand and the nesting depth of that, if there
is one, the sets side by side since then, their number, and the greatest nesting depth among them.
-/
structure ClassState where
  pending : Option (SetOp × CharSet × Nat) := none
  sides : CharSet := .empty
  count : Nat := 0
  depth : Nat := 0
  deriving Inhabited

namespace ClassState

def push (s : ClassState) (set : CharSet) (depth : Nat) : ClassState :=
  { s with sides := .union s.sides set, count := s.count + 1, depth := max s.depth depth }

def close (flags : Flags) (s : ClassState) : CharSet × Nat :=
  let depth := if s.count > 1 then s.depth + 1 else s.depth
  match s.pending with
  | none => (s.sides, depth)
  | some (op, left, leftDepth) =>
    (op.apply (flags.fold left) (flags.fold s.sides), max leftDepth depth + 1)

def operator (flags : Flags) (s : ClassState) (op : SetOp) : ClassState :=
  { pending := some (op, s.close flags) }

end ClassState

def asciiClass? (name : List Char) : Option CharSet :=
  let lower := CharSet.range 'a' 'z'
  let upper := CharSet.range 'A' 'Z'
  let digit := CharSet.range '0' '9'
  match String.ofList name with
  | "alnum" => some (.union digit (.union upper lower))
  | "alpha" => some (.union upper lower)
  | "ascii" => some (.range (Char.ofNat 0) '\x7f')
  | "blank" => some (.ofChars ['\t', ' '])
  | "cntrl" => some (.union (.range (Char.ofNat 0) '\x1f') (.single '\x7f'))
  | "digit" => some digit
  | "graph" => some (.range '!' '~')
  | "lower" => some lower
  | "print" => some (.range ' ' '~')
  | "punct" =>
    some (.union (.union (.range '!' '/') (.range ':' '@'))
      (.union (.range '[' (Char.ofNat 0x60)) (.range '\x7b' '~')))
  | "space" => some (.ofChars ['\t', '\n', '\x0b', '\x0c', '\r', ' '])
  | "upper" => some upper
  | "word" => some (.union (.union digit upper) (.union lower (.single '_')))
  | "xdigit" => some (.union digit (.union (.range 'A' 'F') (.range 'a' 'f')))
  | _ => none

/--
A set in the form `[:name:]` or `[:^name:]` after its bracket, if there is one. It is negated if the
second result says so.
-/
def readAsciiClass? (cs : List Char) : Option ((CharSet × Bool) × List Char) :=
  match cs with
  | ':' :: rest =>
    let (negated, rest) :=
      match rest with
      | '^' :: rest => (true, rest)
      | _ => (false, rest)
    let (name, rest) := rest.span (· != ':')
    match asciiClass? name, rest with
    | some set, ':' :: ']' :: rest => some ((set, negated), rest)
    | _, _ => none
  | _ => none

def foldAndNegate (flags : Flags) (negated : Bool) (set : CharSet) : Except PatternError CharSet :=
  if negated then flags.complement (flags.fold set) else .ok (flags.fold set)

def classAtom (flags : Flags) (cs : List Char) : Except PatternError (Atom × List Char) := do
  match cs with
  | [] => throw .unclosedClass
  | '\\' :: rest =>
    let (atom, rest) ← escape flags rest
    match atom with
    | .literal c => return (.literal (← check c), rest)
    | _ => return (atom, rest)
  | c :: rest => return (.literal (← check c), rest)
where
  check (c : Char) : Except PatternError Char :=
    if !flags.unicode && c.toNat ≥ 128 then .error .notUnicode else .ok c

/--
The character that tells whether a hyphen makes a range. If comments may be written, blanks and one
mark of a comment are passed over, but not the comment.
-/
def afterHyphen (flags : Flags) (cs : List Char) : Option Char :=
  if flags.verbose then
    match cs.dropWhile Unicode.isBlank with
    | '#' :: rest => (rest.dropWhile Unicode.isBlank).head?
    | rest => rest.head?
  else cs.head?

def classRange (flags : Flags) (cs : List Char) : Except PatternError (CharSet × List Char) := do
  let (first, rest) ← classAtom flags cs
  let rest := flags.skip rest
  let isRange :=
    match rest with
    | '-' :: after => afterHyphen flags after != some ']' && afterHyphen flags after != some '-'
    | _ => false
  if !isRange then
    match first with
    | .literal c => return (.single c, rest)
    | .set s => return (s, rest)
    | .look _ => throw .invalidClass
  else
    let (last, rest) ← classAtom flags (flags.skip (rest.drop 1))
    match first, last with
    | .literal c, .literal d =>
      if c ≤ d then return (.range c d, rest) else throw .invalidClass
    | _, _ => throw .invalidClass

def classStart (flags : Flags) (cs : List Char) : ClassState × List Char :=
  let rec hyphens (s : ClassState) : Nat → List Char → ClassState × List Char
    | fuel + 1, '-' :: rest => hyphens (s.push (.single '-') 0) fuel (flags.skip rest)
    | _, rest => (s, rest)
  match cs with
  | ']' :: rest => (({} : ClassState).push (.single ']') 0, flags.skip rest)
  | _ => hyphens {} cs.length cs

mutual
def bracket (flags : Flags) :
    Nat → List Char → Except PatternError ((CharSet × Nat) × List Char)
  | 0, _ => .error .unclosedClass
  | fuel + 1, cs => do
    let (negated, rest) :=
      match flags.skip cs with
      | '^' :: rest => (true, flags.skip rest)
      | rest => (false, rest)
    let (start, rest) := classStart flags rest
    let ((set, depth), rest) ← bracketRest flags fuel start rest
    return ((← foldAndNegate flags negated set, depth + 1), rest)

def bracketRest (flags : Flags) :
    Nat → ClassState → List Char → Except PatternError ((CharSet × Nat) × List Char)
  | 0, _, _ => .error .unclosedClass
  | fuel + 1, s, cs =>
    match flags.skip cs with
    | [] => .error .unclosedClass
    | '[' :: rest =>
      match readAsciiClass? rest with
      | some ((set, negated), rest) => do
        let set ← foldAndNegate flags negated set
        bracketRest flags fuel (s.push set 0) rest
      | none => do
        let ((set, depth), rest) ← bracket flags fuel rest
        bracketRest flags fuel (s.push set depth) rest
    | ']' :: rest => .ok (s.close flags, rest)
    | '&' :: '&' :: rest => bracketRest flags fuel (s.operator flags .inter) rest
    | '-' :: '-' :: rest => bracketRest flags fuel (s.operator flags .diff) rest
    | '~' :: '~' :: rest => bracketRest flags fuel (s.operator flags .symmDiff) rest
    | rest => do
      let (set, rest) ← classRange flags rest
      bracketRest flags fuel (s.push set 0) rest
end

end Pattern

end Stencil
