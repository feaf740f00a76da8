import Stencil.Error
import Stencil.Symbol

/-!
This module contains the cursor that reads a source from left to right, and the parsers that move
it. A cursor knows what is left to read, how many characters it has read, and how deeply the
construct it stands in is nested; entering a level beyond the limit is an error.
-/

namespace Stencil

/--
A place in a source: `pos` characters were read and `rest` is left.
-/
structure Cursor where
  rest : List Char
  pos : Nat
  depth : Nat
  maxDepth : Nat
  deriving Repr, DecidableEq, Inhabited

abbrev Parser := StateT Cursor (Except ParseError)

namespace Cursor

def start (src : List Char) (maxDepth : Nat) : Cursor :=
  ⟨src, 0, 0, maxDepth⟩

def peek (c : Cursor) : Option Char :=
  c.rest.head?

def peekAt (c : Cursor) (ahead : Nat) : Option Char :=
  c.rest[ahead]?

def fail (c : Cursor) (problem : ParseProblem) : ParseError :=
  ⟨c.pos, problem⟩

def unexpected (c : Cursor) : ParseError :=
  match c.peek with
  | some ch => c.fail (.unexpectedChar ch)
  | none => c.fail .unexpectedEnd

def after (c : Cursor) (text rest : List Char) : Cursor :=
  { c with rest, pos := c.pos + text.length }

def skipBlanks (c : Cursor) : Cursor :=
  c.after (c.rest.takeWhile Unicode.isBlank) (c.rest.dropWhile Unicode.isBlank)

end Cursor

namespace Parser

def position : Parser Nat :=
  fun c => .ok (c.pos, c)

def peek : Parser (Option Char) :=
  fun c => .ok (c.peek, c)

def peekAt (ahead : Nat) : Parser (Option Char) :=
  fun c => .ok (c.peekAt ahead, c)

def fail {α : Type} (problem : ParseProblem) : Parser α :=
  fun c => .error (c.fail problem)

def failAt {α : Type} (pos : Nat) (problem : ParseProblem) : Parser α :=
  fun _ => .error ⟨pos, problem⟩

def unexpected {α : Type} : Parser α :=
  fun c => .error c.unexpected

def advance : Parser Char :=
  fun c =>
    match c.rest with
    | [] => .error (c.fail .unexpectedEnd)
    | ch :: rest => .ok (ch, c.after [ch] rest)

def advanceBy : Nat → Parser Unit
  | 0 => return ()
  | n + 1 => do
    let _ ← advance
    advanceBy n

def skipBlanks : Parser Unit :=
  fun c => .ok ((), c.skipBlanks)

def nextSignificant : Parser (Option Char) :=
  fun c => .ok (c.skipBlanks.peek, c.skipBlanks)

def classifyNext : Parser (Option Symbol) := do
  return (← nextSignificant).map Symbol.ofChar

def expect (expected : Char) : Parser Unit := do
  match ← nextSignificant with
  | some found => if found == expected then discard advance else fail (.unexpectedChar found)
  | none => fail .unexpectedEnd

def takeWhile (p : Char → Bool) : Parser (List Char) :=
  fun c =>
    let text := c.rest.takeWhile p
    .ok (text, c.after text (c.rest.dropWhile p))

def descend : Parser Unit :=
  fun c =>
    if c.depth ≥ c.maxDepth then .error (c.fail (.tooDeep c.maxDepth))
    else .ok ((), { c with depth := c.depth + 1 })

def ascend : Parser Unit :=
  fun c => .ok ((), { c with depth := c.depth - 1 })

def ascendBy (levels : Nat) : Parser Unit :=
  fun c => .ok ((), { c with depth := c.depth - levels })

end Parser

end Stencil
