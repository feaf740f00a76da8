import Stencil.Pattern.Automaton
import Stencil.Pattern.Reader

/-!
This module contains the search for a pattern in a text. All ways of matching advance together, one
character at a time, in the order in which the pattern prefers them; the leftmost match wins, and of
the matches that start there the one preferred. A way that reaches an instruction at a place where a
preferred one has already been is dropped, so that no place is looked at more than once for each
instruction.
-/

namespace Stencil

namespace Automaton

/--
A way of matching: the instruction to go on with, where it started, and the slots it saved, the
latest first.
-/
structure Thread where
  pc : Nat
  start : Nat
  slots : List (Nat × Nat)
  deriving Inhabited

structure Match where
  start : Nat
  stop : Nat
  slots : List (Nat × Nat)
  deriving Repr, Inhabited

/--
What following the threads at one place has led to. An instruction was reached there if its mark is
the number of the place; the threads that wait for a character are listed last one first.
-/
structure Front where
  marks : Array Nat
  waiting : List Thread
  found : Option Match
  deriving Inhabited

def follow (program : Program) (pos : Nat) (before after : Option Char) :
    Nat → List Thread → Front → Front
  | 0, _, front => front
  | _, [], front => front
  | fuel + 1, t :: rest, front =>
    if front.marks[t.pc]? == some (pos + 1) then follow program pos before after fuel rest front
    else
      let front := { front with marks := front.marks.setIfInBounds t.pc (pos + 1) }
      match program[t.pc]? with
      | none => follow program pos before after fuel rest front
      | some (.char _ _) =>
        follow program pos before after fuel rest { front with waiting := t :: front.waiting }
      | some (.look look next) =>
        if look.holds before after then
          follow program pos before after fuel ({ t with pc := next } :: rest) front
        else follow program pos before after fuel rest front
      | some (.split first second) =>
        follow program pos before after fuel
          ({ t with pc := first } :: { t with pc := second } :: rest) front
      | some (.save slot next) =>
        follow program pos before after fuel
          ({ t with pc := next, slots := (slot, pos) :: t.slots } :: rest) front
      | some .matched => { front with found := some ⟨t.start, pos, t.slots⟩ }

def step (program : Program) (c : Char) (threads : List Thread) : List Thread :=
  threads.filterMap fun (t : Thread) =>
    match program[t.pc]? with
    | some (.char set next) => if set.contains c then some { t with pc := next } else none
    | _ => none

/--
What all threads lead to at the place `pos`. While there is no match a new thread starts at every
place, after all others; `best` is the match that the threads left can only improve on.
-/
def arrive (a : Automaton) (pos : Nat) (before after : Option Char) (marks : Array Nat)
    (threads : List Thread) (best : Option Match) : Front :=
  let threads := if best.isNone then threads ++ [⟨a.start, pos, []⟩] else threads
  follow a.program pos before after (2 * a.program.size + threads.length + 1) threads
    ⟨marks, [], best⟩

def searchFrom (a : Automaton) (pos : Nat) (before : Option Char) (marks : Array Nat)
    (threads : List Thread) (best : Option Match) : List Char → Option Match
  | [] => (arrive a pos before none marks threads best).found
  | c :: rest =>
    let front := arrive a pos before (some c) marks threads best
    if front.waiting.isEmpty && front.found.isSome then front.found
    else
      searchFrom a (pos + 1) (some c) front.marks (step a.program c front.waiting.reverse)
        front.found rest

def search (a : Automaton) (pos : Nat) (before : Option Char) (cs : List Char) : Option Match :=
  searchFrom a pos before (Array.replicate a.program.size 0) [] none cs

/--
All matches from left to right that do not overlap. An empty one right after another match is
skipped; `last` is the end of that.
-/
def matchesFrom (a : Automaton) :
    Nat → Nat → Option Char → List Char → Option Nat → List Match
  | 0, _, _, _, _ => []
  | fuel + 1, pos, before, cs, last =>
    match search a pos before cs with
    | none => []
    | some m =>
      if m.start == m.stop && last == some m.stop then
        match cs with
        | [] => []
        | c :: rest => matchesFrom a fuel (pos + 1) (some c) rest last
      else
        let passed := m.stop - pos
        let before := if passed == 0 then before else cs[passed - 1]?
        m :: matchesFrom a fuel m.stop before (cs.drop passed) (some m.stop)

def matchesIn (a : Automaton) (text : List Char) : List Match :=
  matchesFrom a (2 * text.length + 2) 0 none text none

end Automaton

structure Regex where
  automaton : Automaton
  names : List (String × Nat)
  deriving Inhabited

namespace Regex

def ofText (pattern : List Char) : Except PatternError Regex := do
  let (tree, groups) ← Pattern.read pattern
  return ⟨← Automaton.ofPattern tree, groups.names⟩

def anchored (pattern : List Char) : List Char :=
  '^' :: '(' :: '?' :: ':' :: pattern ++ [')', '$']

def isMatch (r : Regex) (text : List Char) : Bool :=
  (r.automaton.search 0 none text).isSome

def groupText (text : List Char) (m : Automaton.Match) (group : Nat) : List Char :=
  if group == 0 then (text.take m.stop).drop m.start
  else
    match m.slots.lookup (2 * group), m.slots.lookup (2 * group + 1) with
    | some start, some stop => (text.take stop).drop start
    | _, _ => []

inductive Reference where
  | index (n : Nat)
  | name (s : String)
  deriving Repr, DecidableEq, Inhabited

def Reference.ofText (cs : List Char) : Reference :=
  match Integer.readCount cs with
  | .ok n => .index n
  | .error _ => .name (String.ofList cs)

def reference? (cs : List Char) : Option (Reference × List Char) :=
  match cs with
  | '\x7b' :: rest =>
    let (name, rest) := rest.span (· != '\x7d')
    match rest with
    | _ :: rest => some (.ofText name, rest)
    | [] => none
  | _ =>
    let (name, rest) := cs.span fun c =>
      Unicode.isAsciiLetter c || Unicode.isAsciiDigit c || c == '_'
    if name.isEmpty then none else some (.ofText name, rest)

def expand (r : Regex) (text : List Char) (m : Automaton.Match) :
    Nat → List Char → List Char
  | fuel + 1, '$' :: rest =>
    match rest with
    | '$' :: rest => '$' :: expand r text m fuel rest
    | _ =>
      match reference? rest with
      | none => '$' :: expand r text m fuel rest
      | some (reference, rest) =>
        let group :=
          match reference with
          | .index n => some n
          | .name s => r.names.lookup s
        let replaced :=
          match group with
          | some n => groupText text m n
          | none => []
        replaced ++ expand r text m fuel rest
  | fuel + 1, c :: rest => c :: expand r text m fuel rest
  | _, _ => []

def replaceAll (r : Regex) (text replacement : List Char) : List Char :=
  go 0 text (r.automaton.matchesIn text)
where
  go (pos : Nat) (cs : List Char) : List Automaton.Match → List Char
    | [] => cs
    | m :: rest =>
      cs.take (m.start - pos) ++ r.expand text m (replacement.length + 1) replacement
        ++ go m.stop (cs.drop (m.stop - pos)) rest

def split (r : Regex) (text : List Char) : List (List Char) :=
  go 0 text (r.automaton.matchesIn text)
where
  go (pos : Nat) (cs : List Char) : List Automaton.Match → List (List Char)
    | [] => [cs]
    | m :: rest => cs.take (m.start - pos) :: go m.stop (cs.drop (m.stop - pos)) rest

end Regex

end Stencil
