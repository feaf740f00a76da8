import Stencil.Cursor
import Stencil.Expr

/-!
This module contains the parsers of names and literals. A literal takes as much of the source as
fits: a point belongs to a number only if a digit follows it, and an exponent mark only if digits
follow that, so that `1.abs()` is a call on a number.
-/

namespace Stencil

namespace Parser

variable {H : Type}

def identifier : Parser String := do
  return String.ofList (← takeWhile Symbol.isIdentContinue)

def keyword? (name : String) : Option (Value H) :=
  if name == "true" then some (.bool true)
  else if name == "false" then some (.bool false)
  else if name == "null" then some .null
  else none

def variableOrKeyword : Parser (Expr H) := do
  let name ← identifier
  match keyword? name with
  | some v => return .const v
  | none => return .var name

def unescape (c : Char) : Char :=
  if c == 'n' then '\n'
  else if c == 't' then '\t'
  else if c == 'r' then '\r'
  else c

/--
The text up to the closing quote, and what is read of the source for it and for the quote. There is
none if the source ends before.
-/
def untilQuote (quote : Char) : List Char → Option (List Char × List Char)
  | [] => none
  | c :: rest =>
    if c == '\\' then
      match rest with
      | [] => none
      | escaped :: rest =>
        (untilQuote quote rest).map fun (text, source) =>
          (unescape escaped :: text, c :: escaped :: source)
    else if c == quote then some ([], [c])
    else (untilQuote quote rest).map fun (text, source) => (c :: text, c :: source)

def stringLiteral : Parser (Expr H) := do
  let start ← position
  let quote ← advance
  let c ← get
  match untilQuote quote c.rest with
  | none => failAt start (.unterminated .string)
  | some (text, source) =>
    set (c.after source (c.rest.drop source.length))
    return .const (.str (String.ofList text))

def fraction : Parser (List Char) := do
  match ← peek, ← peekAt 1 with
  | some '.', some d =>
    if Unicode.isAsciiDigit d then
      let point ← advance
      return point :: (← takeWhile Unicode.isAsciiDigit)
    else return []
  | _, _ => return []

def exponent : Parser (List Char) := do
  let mark ← peek
  if mark == some 'e' || mark == some 'E' then
    let sign ← peekAt 1
    let digitAt := if sign == some '+' || sign == some '-' then 2 else 1
    match ← peekAt digitAt with
    | some d =>
      if Unicode.isAsciiDigit d then
        let c ← get
        let lead := c.rest.take digitAt
        advanceBy digitAt
        return lead ++ (← takeWhile Unicode.isAsciiDigit)
      else return []
    | none => return []
  else return []

def integerLiteral (start radix : Nat) (digits literal : List Char) : Parser (Expr H) :=
  match Integer.readNat radix Integer.greatest .tooLarge digits with
  | .ok n => return .const (.int (Int64.ofInt n))
  | .error _ => failAt start (.invalidNumber (String.ofList literal))

def number : Parser (Expr H) := do
  let start ← position
  let zero ← peek
  let mark ← peekAt 1
  if zero == some '0' && (mark == some 'x' || mark == some 'X') then
    advanceBy 2
    let digits ← takeWhile Symbol.isHexDigit
    integerLiteral start 16 digits ('0' :: 'x' :: digits)
  else
    let whole ← takeWhile Unicode.isAsciiDigit
    let fraction ← fraction
    let exponent ← exponent
    let literal := whole ++ fraction ++ exponent
    if fraction.isEmpty && exponent.isEmpty then integerLiteral start 10 whole literal
    else
      match Decimal.read literal with
      | .ok x => return .const (.decimal x)
      | .error _ => failAt start (.invalidNumber (String.ofList literal))

end Parser

end Stencil
