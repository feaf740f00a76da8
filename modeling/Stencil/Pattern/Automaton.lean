import Stencil.Pattern.Size

/-!
This module contains the automaton of a pattern: a program of instructions, each of which knows
where to go on. A `split` prefers its first continuation. A repetition of something that can match
nothing is entered once before it can be left, so that each way through it is tried in the order
of the pattern.
-/

namespace Stencil

inductive Instruction where
  | char (set : CharSet) (next : Nat)
  | look (look : Look) (next : Nat)
  | split (first second : Nat)
  | save (slot next : Nat)
  | matched
  deriving Repr, DecidableEq, Inhabited

abbrev Program := Array Instruction

namespace Pattern

def branch (greedy : Bool) (body next : Nat) : Instruction :=
  if greedy then .split body next else .split next body

def copies (part : Nat → Program → Nat × Program) : Nat → Nat → Program → Nat × Program
  | 0, next, program => (next, program)
  | n + 1, next, program =>
    let (next, program) := part next program
    copies part n next program

def options (part : Nat → Program → Nat × Program) (greedy : Bool) (exit : Nat) :
    Nat → Nat → Program → Nat × Program
  | 0, next, program => (next, program)
  | n + 1, next, program =>
    let (body, program) := part next program
    options part greedy exit n program.size (program.push (branch greedy body exit))

def oneOrMore (part : Nat → Program → Nat × Program) (greedy : Bool) (next : Nat)
    (program : Program) : Nat × Program :=
  let again := program.size
  let (body, program) := part again (program.push .matched)
  (body, program.setIfInBounds again (branch greedy body next))

def zeroOrMore (part : Nat → Program → Nat × Program) (nullable greedy : Bool) (next : Nat)
    (program : Program) : Nat × Program :=
  if nullable then
    let (body, program) := oneOrMore part greedy next program
    (program.size, program.push (branch greedy body next))
  else
    let again := program.size
    let (body, program) := part again (program.push .matched)
    (again, program.setIfInBounds again (branch greedy body next))

def compile : Pattern → Nat → Program → Nat × Program
  | empty, next, program => (next, program)
  | char set, next, program => (program.size, program.push (.char set next))
  | look l, next, program => (program.size, program.push (.look l next))
  | cat first second, next, program =>
    let (next, program) := compile second next program
    compile first next program
  | alt left right, next, program =>
    let (second, program) := compile right next program
    let (first, program) := compile left next program
    (program.size, program.push (.split first second))
  | repeated body least most greedy, next, program =>
    match most with
    | some most =>
      let (rest, program) := options (compile body) greedy next (most - least) next program
      copies (compile body) least rest program
    | none =>
      if least == 0 then zeroOrMore (compile body) body.isNullable greedy next program
      else
        let (last, program) := oneOrMore (compile body) greedy next program
        copies (compile body) (least - 1) last program
  | capture index body, next, program =>
    let close := program.size
    let (body, program) := compile body close (program.push (.save (2 * index + 1) next))
    (program.size, program.push (.save (2 * index) body))

end Pattern

structure Automaton where
  program : Program
  start : Nat
  deriving Inhabited

def Automaton.ofPattern (p : Pattern) : Except PatternError Automaton :=
  if p.isTooLarge then .error .tooLarge
  else
    let (start, program) := p.compile 0 #[.matched]
    .ok ⟨program, start⟩

end Stencil
