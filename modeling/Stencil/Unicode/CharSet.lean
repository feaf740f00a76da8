import Stencil.Unicode.Folding

/-!
This module contains sets of characters as they are described: ranges, tables, and what is built
from them. A set that disregards case holds a character if it holds one of its case orbit.
-/

namespace Stencil

inductive CharSet where
  | empty
  | range (first last : Char)
  | table (runs : RunSet)
  | union (a b : CharSet)
  | inter (a b : CharSet)
  | complement (a : CharSet)
  | caseless (a : CharSet)
  | asciiCaseless (a : CharSet)
  deriving Repr, DecidableEq, Inhabited

namespace CharSet

def asciiOrbit (c : Char) : List Char :=
  [c, c.toLower, c.toUpper]

def contains : CharSet → Char → Bool
  | empty, _ => false
  | range first last, c => first ≤ c && c ≤ last
  | table runs, c => runs.contains c.toNat
  | union a b, c => a.contains c || b.contains c
  | inter a b, c => a.contains c && b.contains c
  | complement a, c => !a.contains c
  | caseless a, c => (Unicode.caseOrbit c).any a.contains
  | asciiCaseless a, c => (asciiOrbit c).any a.contains

def single (c : Char) : CharSet :=
  range c c

def anyOf (sets : List CharSet) : CharSet :=
  sets.foldr union empty

def ofChars (cs : List Char) : CharSet :=
  anyOf (cs.map single)

def ofText (text : String) : CharSet :=
  table (.ofText text)

def diff (a b : CharSet) : CharSet :=
  inter a (complement b)

def symmDiff (a b : CharSet) : CharSet :=
  union (diff a b) (diff b a)

def any : CharSet :=
  complement empty

def ascii : CharSet :=
  range (Char.ofNat 0) '\x7f'

def asciiDigit : CharSet :=
  range '0' '9'

def asciiLetter : CharSet :=
  union (range 'A' 'Z') (range 'a' 'z')

def asciiWordChar : CharSet :=
  anyOf [asciiDigit, asciiLetter, single '_']

def asciiBlank : CharSet :=
  anyOf [range '\t' '\r', single ' ']

end CharSet

end Stencil
