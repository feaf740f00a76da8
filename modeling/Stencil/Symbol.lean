import Stencil.Unicode.Properties

/-!
This module contains the lexical classes of characters. The class of its first character decides
what kind of primary expression follows.
-/

namespace Stencil

inductive Symbol where
  | groupOpen
  | arrayOpen
  | mapOpen
  | classMarker
  | quote
  | digit
  | identStart
  | blank
  | operator
  | other
  deriving Repr, DecidableEq, Inhabited

namespace Symbol

def isIdentStart (c : Char) : Bool :=
  Unicode.isAlphabetic c || c == '_' || c == '$'

def isIdentContinue (c : Char) : Bool :=
  Unicode.isAlphanumeric c || c == '_' || c == '$'

def isOperator (c : Char) : Bool :=
  ['+', '-', '*', '/', '%', '!', '^', '&', '|', '<', '>', '=', '?', ':'].contains c

def isHexDigit (c : Char) : Bool :=
  ('0' ≤ c && c ≤ '9') || ('a' ≤ c && c ≤ 'f') || ('A' ≤ c && c ≤ 'F')

def ofChar (c : Char) : Symbol :=
  if c == '(' then groupOpen
  else if c == '[' then arrayOpen
  else if c == '\x7b' then mapOpen
  else if c == '@' then classMarker
  else if c == '\'' || c == '"' then quote
  else if Unicode.isAsciiDigit c then digit
  else if isIdentStart c then identStart
  else if Unicode.isBlank c then blank
  else if isOperator c then operator
  else other

end Symbol

end Stencil
