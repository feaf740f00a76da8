import Stencil.Unicode.Properties

/-!
This module contains texts as lists of characters: finding, cutting and replacing parts of them. All
positions count characters.
-/

namespace Stencil

namespace Text

def dropPrefix? (part : List Char) (cs : List Char) : Option (List Char) :=
  match part, cs with
  | [], _ => some cs
  | _ :: _, [] => none
  | p :: part, c :: cs => if p == c then dropPrefix? part cs else none

def startsWith (part cs : List Char) : Bool :=
  (dropPrefix? part cs).isSome

def endsWith (part cs : List Char) : Bool :=
  part.length ≤ cs.length && cs.drop (cs.length - part.length) == part

def find? (part : List Char) : List Char → Option Nat
  | [] => if part.isEmpty then some 0 else none
  | c :: rest => if startsWith part (c :: rest) then some 0 else (find? part rest).map (· + 1)

def splitOnce? (part cs : List Char) : Option (List Char × List Char) :=
  (find? part cs).map fun i => (cs.take i, cs.drop (i + part.length))

def splitOnceBy? (p : Char → Bool) (cs : List Char) : Option (List Char × List Char) :=
  match cs.span fun c => !p c with
  | (_, []) => none
  | (before, _ :: after) => some (before, after)

def trimBy (p : Char → Bool) (cs : List Char) : List Char :=
  ((cs.dropWhile p).reverse.dropWhile p).reverse

def trim (cs : List Char) : List Char :=
  trimBy Unicode.isBlank cs

def replace (part replacement cs : List Char) : List Char :=
  if part.isEmpty then replacement ++ cs.flatMap fun c => c :: replacement
  else go (cs.length + 1) cs
where
  go : Nat → List Char → List Char
    | 0, cs => cs
    | _, [] => []
    | fuel + 1, c :: rest =>
      match dropPrefix? part (c :: rest) with
      | some after => replacement ++ go fuel after
      | none => c :: go fuel rest

def lines : List Char → List (List Char)
  | [] => []
  | c :: rest =>
    if c == '\n' then [] :: lines rest
    else
      match lines rest with
      | [] => [[c]]
      | line :: others =>
        if c == '\r' && line.isEmpty && rest.head? == some '\n' then [] :: others
        else (c :: line) :: others

end Text

end Stencil
