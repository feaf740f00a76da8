import Stencil.Integer
import Stencil.Pattern.Property

/-!
This module contains the flags of a pattern and the reading of escape sequences and character
properties, with what the flags make of them.
-/

namespace Stencil

structure Flags where
  caseless : Bool := false
  multiLine : Bool := false
  dotAll : Bool := false
  lazy : Bool := false
  unicode : Bool := true
  verbose : Bool := false
  crlf : Bool := false
  deriving Repr, DecidableEq, Inhabited

namespace Flags

def set? (flags : Flags) (letter : Char) (on : Bool) : Option Flags :=
  match letter with
  | 'i' => some { flags with caseless := on }
  | 'm' => some { flags with multiLine := on }
  | 's' => some { flags with dotAll := on }
  | 'U' => some { flags with lazy := on }
  | 'u' => some { flags with unicode := on }
  | 'x' => some { flags with verbose := on }
  | 'R' => some { flags with crlf := on }
  | _ => none

def skip (flags : Flags) (cs : List Char) : List Char :=
  if flags.verbose then go false cs else cs
where
  go (comment : Bool) : List Char → List Char
    | [] => []
    | c :: rest =>
      if comment then go (c != '\n') rest
      else if Unicode.isBlank c then go false rest
      else if c == '#' then go true rest
      else c :: rest

/--
A negated set. Without Unicode it would hold parts of characters, which is not allowed.
-/
def complement (flags : Flags) (set : CharSet) : Except PatternError CharSet :=
  if flags.unicode then .ok (.complement set) else .error .notUnicode

def fold (flags : Flags) (set : CharSet) : CharSet :=
  if !flags.caseless then set
  else if flags.unicode then .caseless set
  else .asciiCaseless set

def dot (flags : Flags) : Except PatternError CharSet :=
  if !flags.unicode then .error .notUnicode
  else if flags.dotAll then .ok .any
  else if flags.crlf then .ok (.complement (.ofChars ['\r', '\n']))
  else .ok (.complement (.single '\n'))

def startOfLine (flags : Flags) : Look :=
  if !flags.multiLine then .startOfText
  else if flags.crlf then .startOfCrlfLine
  else .startOfLine

def endOfLine (flags : Flags) : Look :=
  if !flags.multiLine then .endOfText
  else if flags.crlf then .endOfCrlfLine
  else .endOfLine

end Flags

namespace Pattern

inductive Atom where
  | literal (c : Char)
  | set (s : CharSet)
  | look (l : Look)
  deriving Repr, Inhabited

def isMeta (c : Char) : Bool :=
  ['\\', '.', '+', '*', '?', '(', ')', '|', '[', ']', '\x7b', '\x7d', '^', '$', '#', '&', '-', '~']
    |>.contains c

def isEscapable (c : Char) : Bool :=
  isMeta c
    || (c.toNat < 128 && !Unicode.isAsciiLetter c && !Unicode.isAsciiDigit c
      && c != '<' && c != '>')

def codePoint (digits : List Char) : Except PatternError Char :=
  match Integer.readNat 16 0x10ffff .tooLarge digits with
  | .ok n => if 0xd800 ≤ n && n ≤ 0xdfff then .error .invalidEscape else .ok (Char.ofNat n)
  | .error _ => .error .invalidEscape

def hexDigits (flags : Flags) :
    Nat → List Char → List Char → Except PatternError (Char × List Char)
  | 0, digits, cs => do
    return (← codePoint digits.reverse, flags.skip cs)
  | count + 1, digits, cs =>
    match flags.skip cs with
    | c :: rest => hexDigits flags count (c :: digits) rest
    | [] => .error .invalidEscape

def untilBrace (flags : Flags) (cs : List Char) : Except PatternError (List Char × List Char) :=
  go cs.length (flags.skip cs)
where
  go : Nat → List Char → Except PatternError (List Char × List Char)
    | _, '\x7d' :: rest => .ok ([], rest)
    | fuel + 1, c :: rest => do
      let (text, rest) ← go fuel (flags.skip rest)
      return (c :: text, rest)
    | _, _ => .error .invalidEscape

def hexEscape (flags : Flags) (count : Nat) (cs : List Char) :
    Except PatternError (Char × List Char) :=
  match flags.skip cs with
  | '\x7b' :: rest => do
    let (digits, rest) ← untilBrace flags rest
    return (← codePoint digits, flags.skip rest)
  | rest => do
    let (c, rest) ← hexDigits flags count [] rest
    if count == 2 && !flags.unicode && c.toNat ≥ 128 then throw .notUnicode
    return (c, rest)

def propertyEscape (flags : Flags) (negated : Bool) (cs : List Char) :
    Except PatternError (Atom × List Char) := do
  if !flags.unicode then throw .notUnicode
  let ((set, excluded), rest) ←
    match flags.skip cs with
    | [] => throw .invalidEscape
    | '\x7b' :: rest => do
      let (text, rest) ← untilBrace flags rest
      pure (← property text, rest)
    | c :: rest => do
      let set ← property [c]
      pure (set, flags.skip rest)
  let folded := flags.fold set
  return (.set (if negated != excluded then .complement folded else folded), rest)

def classEscape (flags : Flags) (unicode narrow : CharSet) (negated : Bool) :
    Except PatternError Atom := do
  let set := if flags.unicode then unicode else narrow
  return .set (← if negated then flags.complement set else .ok set)

def boundaryEscape (flags : Flags) (cs : List Char) : Except PatternError (Look × List Char) :=
  let narrow := !flags.unicode
  let isNameChar (c : Char) : Bool := Unicode.isAsciiLetter c || c == '-'
  match cs with
  | '\x7b' :: rest =>
    match flags.skip rest with
    | [] => .error .invalidEscape
    | c :: _ =>
      if !isNameChar c then .ok (.wordBoundary narrow, cs)
      else do
        let (name, rest) ← untilBrace flags rest
        match String.ofList name with
        | "start" => return (.startOfWord narrow, rest)
        | "end" => return (.endOfWord narrow, rest)
        | "start-half" => return (.startOfWordHalf narrow, rest)
        | "end-half" => return (.endOfWordHalf narrow, rest)
        | _ => throw .invalidEscape
  | _ => .ok (.wordBoundary narrow, cs)

def escape (flags : Flags) (cs : List Char) : Except PatternError (Atom × List Char) :=
  match cs with
  | [] => .error .invalidEscape
  | c :: rest =>
    let literal (c : Char) : Except PatternError (Atom × List Char) := .ok (.literal c, rest)
    let look (l : Look) : Except PatternError (Atom × List Char) := .ok (.look l, rest)
    if Unicode.isAsciiDigit c then .error .backReference
    else if isEscapable c then literal c
    else
      match c with
      | 'x' => (hexEscape flags 2 rest).map fun (c, rest) => (.literal c, rest)
      | 'u' => (hexEscape flags 4 rest).map fun (c, rest) => (.literal c, rest)
      | 'U' => (hexEscape flags 8 rest).map fun (c, rest) => (.literal c, rest)
      | 'p' => propertyEscape flags false rest
      | 'P' => propertyEscape flags true rest
      | 'd' => (classEscape flags Category.decimalNumber.set .asciiDigit false).map (·, rest)
      | 'D' => (classEscape flags Category.decimalNumber.set .asciiDigit true).map (·, rest)
      | 's' => (classEscape flags BinaryProperty.blank .asciiBlank false).map (·, rest)
      | 'S' => (classEscape flags BinaryProperty.blank .asciiBlank true).map (·, rest)
      | 'w' => (classEscape flags BinaryProperty.wordChar .asciiWordChar false).map (·, rest)
      | 'W' => (classEscape flags BinaryProperty.wordChar .asciiWordChar true).map (·, rest)
      | 'a' => literal '\x07'
      | 'f' => literal '\x0c'
      | 't' => literal '\t'
      | 'n' => literal '\n'
      | 'r' => literal '\r'
      | 'v' => literal '\x0b'
      | 'A' => look .startOfText
      | 'z' => look .endOfText
      | 'b' => (boundaryEscape flags rest).map fun (l, rest) => (.look l, rest)
      | 'B' => look (.noWordBoundary !flags.unicode)
      | '<' => look (.startOfWord !flags.unicode)
      | '>' => look (.endOfWord !flags.unicode)
      | _ => .error .invalidEscape

end Pattern

end Stencil
