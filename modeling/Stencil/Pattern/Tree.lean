import Stencil.Unicode.BinaryProperty
import Stencil.Unicode.Interval

/-!
This module contains patterns as trees, and what can go wrong when one is read.
-/

namespace Stencil

/--
What is asked of a place between two characters. A word is made of word characters, those of ASCII
only if `ascii`; a half boundary looks at one side only.
-/
inductive Look where
  | startOfText
  | endOfText
  | startOfLine
  | endOfLine
  | startOfCrlfLine
  | endOfCrlfLine
  | wordBoundary (ascii : Bool)
  | noWordBoundary (ascii : Bool)
  | startOfWord (ascii : Bool)
  | endOfWord (ascii : Bool)
  | startOfWordHalf (ascii : Bool)
  | endOfWordHalf (ascii : Bool)
  deriving Repr, DecidableEq, Inhabited

namespace Look

def isWordChar (ascii : Bool) (c : Char) : Bool :=
  (if ascii then CharSet.asciiWordChar else BinaryProperty.wordChar).contains c

def holds (look : Look) (before after : Option Char) : Bool :=
  match look with
  | startOfText => before.isNone
  | endOfText => after.isNone
  | startOfLine => before.isNone || before == some '\n'
  | endOfLine => after.isNone || after == some '\n'
  | startOfCrlfLine =>
    before.isNone || before == some '\n' || (before == some '\r' && after != some '\n')
  | endOfCrlfLine =>
    after.isNone || after == some '\r' || (after == some '\n' && before != some '\r')
  | wordBoundary ascii => before.any (isWordChar ascii) != after.any (isWordChar ascii)
  | noWordBoundary ascii => before.any (isWordChar ascii) == after.any (isWordChar ascii)
  | startOfWord ascii => !before.any (isWordChar ascii) && after.any (isWordChar ascii)
  | endOfWord ascii => before.any (isWordChar ascii) && !after.any (isWordChar ascii)
  | startOfWordHalf ascii => !before.any (isWordChar ascii)
  | endOfWordHalf ascii => !after.any (isWordChar ascii)

end Look

/--
A pattern. An alternative on the left is preferred, and so are more repetitions if they are greedy;
without `most` there is no limit to them.
-/
inductive Pattern where
  | empty
  | char (set : CharSet)
  | look (look : Look)
  | cat (first second : Pattern)
  | alt (left right : Pattern)
  | repeated (body : Pattern) (least : Nat) (most : Option Nat) (greedy : Bool)
  | capture (index : Nat) (body : Pattern)
  deriving Repr, DecidableEq, Inhabited

namespace Pattern

def isNullable : Pattern → Bool
  | empty => true
  | char _ => false
  | look _ => true
  | cat first second => first.isNullable && second.isNullable
  | alt left right => left.isNullable || right.isNullable
  | repeated body least _ _ => least == 0 || body.isNullable
  | capture _ body => body.isNullable

def isWeightless : Pattern → Bool
  | empty => true
  | char _ => false
  | look _ => true
  | cat first second => first.isWeightless && second.isWeightless
  | alt left right => left.isWeightless && right.isWeightless
  | repeated body _ most _ => most == some 0 || body.isWeightless
  | capture _ body => body.isWeightless

def times (body : Pattern) (least : Nat) (most : Option Nat) (greedy : Bool) : Pattern :=
  let (least, most) :=
    if body.isWeightless then (min least 1, some (min (most.getD 1) 1)) else (least, most)
  if most == some 0 then empty
  else if least == 1 && most == some 1 then body
  else repeated body least most greedy

def isEmpty : Pattern → Bool
  | empty => true
  | _ => false

def sequence (patterns : List Pattern) : Pattern :=
  join (patterns.filter (!·.isEmpty))
where
  join : List Pattern → Pattern
    | [] => empty
    | [p] => p
    | p :: rest => cat p (join rest)

def charSets? : List Pattern → Option (List CharSet)
  | [] => some []
  | char s :: rest => (charSets? rest).map (s :: ·)
  | _ => none

def choice (patterns : List Pattern) : Pattern :=
  match patterns, charSets? patterns with
  | _ :: _ :: _, some sets =>
    let single := sets.filter CharSet.isSingle
    if single.length == sets.length || single.isEmpty then char (.anyOf sets) else join patterns
  | _, _ => join patterns
where
  join : List Pattern → Pattern
    | [] => empty
    | [p] => p
    | p :: rest => alt p (join rest)

end Pattern

inductive PatternError where
  | unclosedGroup
  | unopenedGroup
  | missingOperand
  | invalidCount
  | invalidEscape
  | invalidFlags
  | invalidName
  | lookAround
  | backReference
  | unclosedClass
  | invalidClass
  | unknownProperty
  | notUnicode
  | tooDeep
  | tooLarge
  deriving Repr, DecidableEq, Inhabited

namespace PatternError

def message : PatternError → String
  | unclosedGroup => "unclosed group"
  | unopenedGroup => "unopened group"
  | missingOperand => "repetition operator missing expression"
  | invalidCount => "invalid repetition count"
  | invalidEscape => "invalid escape sequence"
  | invalidFlags => "invalid flags"
  | invalidName => "invalid capture group name"
  | lookAround => "look-around is not supported"
  | backReference => "backreferences are not supported"
  | unclosedClass => "unclosed character class"
  | invalidClass => "invalid character class"
  | unknownProperty => "unknown character property"
  | notUnicode => "pattern can match a part of a character"
  | tooDeep => "pattern is nested too deeply"
  | tooLarge => "pattern is too large"

end PatternError

end Stencil
