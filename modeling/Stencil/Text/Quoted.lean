import Stencil.Unicode.Properties

/-!
This module contains the quoted form of characters and texts in messages: quotes around it, a
backslash before the enclosing quote and the backslash, short names for the common controls, and the
code point of every other character without a visible form of its own.
-/

namespace Stencil

namespace Quoted

def hexDigits (n : Nat) : List Char :=
  Nat.toDigits 16 n

def codePoint (c : Char) : List Char :=
  ['\\', 'u', '\x7b'] ++ hexDigits c.toNat ++ ['\x7d']

def encodeChar (quote : Char) (c : Char) : List Char :=
  if c == Char.ofNat 0 then ['\\', '0']
  else if c == '\t' then ['\\', 't']
  else if c == '\r' then ['\\', 'r']
  else if c == '\n' then ['\\', 'n']
  else if c == '\\' || c == quote then ['\\', c]
  else if Unicode.isExtender c || !Unicode.isPrintable c then codePoint c
  else [c]

def text (s : String) : String :=
  String.ofList ('"' :: s.toList.flatMap (encodeChar '"') ++ ['"'])

def char (c : Char) : String :=
  String.ofList ('\'' :: encodeChar '\'' c ++ ['\''])

end Quoted

end Stencil
