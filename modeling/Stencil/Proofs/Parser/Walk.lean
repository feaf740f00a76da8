import Stencil.Parser.Expression

/-!
This module contains the parsers as walks over the source. A parser that fails does not say how far
it came, and one that succeeds does not say which way; a walk keeps every cursor that it has had, also
when it fails. A walk that is out of calls has no end at all, where a parser gives an error.
-/

namespace Stencil

/--
The cursors that a walk has had: the one it has, and the earlier ones, the last of them first.
-/
structure Trail where
  past : List Cursor
  cursor : Cursor

namespace Trail

def start (c : Cursor) : Trail :=
  ⟨[], c⟩

def move (t : Trail) (c : Cursor) : Trail :=
  ⟨t.cursor :: t.past, c⟩

def cursors (t : Trail) : List Cursor :=
  (t.cursor :: t.past).reverse

end Trail

abbrev Walk := ExceptT ParseError (StateT Trail Option)

namespace Walk

open Stencil.Parser

variable {α H : Type}

def step (p : Parser α) : Walk α :=
  fun t =>
    match p t.cursor with
    | .ok (a, c) => some (.ok a, t.move c)
    | .error e => some (.error e, t)

def exhausted : Walk α :=
  fun _ => none

def advanceBy : Nat → Walk Unit
  | 0 => return ()
  | n + 1 => do
    let _ ← step advance
    advanceBy n

def ascendBy : Nat → Walk Unit
  | 0 => return ()
  | n + 1 => do
    step ascend
    ascendBy n

def takeWhile (q : Char → Bool) : Walk (List Char) := do
  let c ← step get
  let text := c.rest.takeWhile q
  advanceBy text.length
  return text

def nextSignificant : Walk (Option Char) := do
  let _ ← takeWhile Unicode.isBlank
  step peek

def classifyNext : Walk (Option Symbol) := do
  return (← nextSignificant).map Symbol.ofChar

def expect (expected : Char) : Walk Unit := do
  match ← nextSignificant with
  | some found =>
    if found == expected then discard (step advance) else step (fail (.unexpectedChar found))
  | none => step (fail .unexpectedEnd)

def closing (close : Char) (start : Nat) (construct : Construct) : Walk Unit := do
  match ← nextSignificant with
  | some found =>
    if found == close then discard (step advance) else step (fail (.unexpectedChar found))
  | none => step (failAt start (.unterminated construct))

def identifier : Walk String := do
  return String.ofList (← takeWhile Symbol.isIdentContinue)

def name : Walk String := do
  match ← nextSignificant with
  | some c => if Symbol.isIdentStart c then identifier else step unexpected
  | none => step unexpected

def variableOrKeyword : Walk (Expr H) := do
  let name ← identifier
  match keyword? name with
  | some v => return .const v
  | none => return .var name

def stringLiteral : Walk (Expr H) := do
  let start ← step position
  let quote ← step advance
  let c ← step get
  match Parser.untilQuote quote c.rest with
  | none =>
    advanceBy c.rest.length
    step (failAt start (.unterminated .string))
  | some (text, source) =>
    advanceBy source.length
    return .const (.str (String.ofList text))

def fraction : Walk (List Char) := do
  match ← step peek, ← step (peekAt 1) with
  | some '.', some d =>
    if Unicode.isAsciiDigit d then
      let point ← step advance
      return point :: (← takeWhile Unicode.isAsciiDigit)
    else return []
  | _, _ => return []

def exponent : Walk (List Char) := do
  let mark ← step peek
  if mark == some 'e' || mark == some 'E' then
    let sign ← step (peekAt 1)
    let digitAt := if sign == some '+' || sign == some '-' then 2 else 1
    match ← step (peekAt digitAt) with
    | some d =>
      if Unicode.isAsciiDigit d then
        let c ← step get
        let lead := c.rest.take digitAt
        advanceBy digitAt
        return lead ++ (← takeWhile Unicode.isAsciiDigit)
      else return []
    | none => return []
  else return []

def number : Walk (Expr H) := do
  let start ← step position
  let zero ← step peek
  let mark ← step (peekAt 1)
  if zero == some '0' && (mark == some 'x' || mark == some 'X') then
    advanceBy 2
    let digits ← takeWhile Symbol.isHexDigit
    step (integerLiteral start 16 digits ('0' :: 'x' :: digits))
  else
    let whole ← takeWhile Unicode.isAsciiDigit
    let fraction ← fraction
    let exponent ← exponent
    let literal := whole ++ fraction ++ exponent
    if fraction.isEmpty && exponent.isEmpty then step (integerLiteral start 10 whole literal)
    else
      match Decimal.read literal with
      | .ok x => return .const (.decimal x)
      | .error _ => step (failAt start (.invalidNumber (String.ofList literal)))

def peekBinaryOp : Walk (Option (BinaryOp × Nat)) := do
  let first ← nextSignificant
  return binaryOp? first (← step (peekAt 1))

def peekUnaryOp : Walk (Option UnaryOp) := do
  let first ← nextSignificant
  let second ← step (peekAt 1)
  if first == some '-' then return some .neg
  else if first == some '!' && second != some '=' then return some .not
  else return none

mutual
variable [HostObject H] (classes : ClassLookup H)

def expression : Nat → Walk (Expr H)
  | 0 => exhausted
  | calls + 1 => do
    let cond ← binary calls 0
    if (← nextSignificant) != some '?' then return cond
    let pos ← step position
    let _ ← step advance
    step descend
    let yes ← expression calls
    expect ':'
    let no ← expression calls
    step ascend
    step (folded pos (Expr.foldTernary cond yes no))

def binary : Nat → Nat → Walk (Expr H)
  | 0, _ => exhausted
  | calls + 1, least => do
    let left ← unary calls
    let (e, levels) ← operators calls least left 0
    ascendBy levels
    return e

def operators : Nat → Nat → Expr H → Nat → Walk (Expr H × Nat)
  | 0, _, _, _ => exhausted
  | calls + 1, least, left, levels => do
    match ← peekBinaryOp with
    | none => return (left, levels)
    | some (op, width) =>
      if op.precedence < least then return (left, levels)
      let pos ← step position
      advanceBy width
      let right ← binary calls (op.precedence + 1)
      let e ← step (folded pos (Expr.foldBinary op left right))
      if e.isConst then operators calls least e levels
      else
        step descend
        operators calls least e (levels + 1)

def unary : Nat → Walk (Expr H)
  | 0 => exhausted
  | calls + 1 => do
    match ← peekUnaryOp with
    | none => postfixed calls
    | some op =>
      let pos ← step position
      let _ ← step advance
      step descend
      let operand ← unary calls
      step ascend
      step (folded pos (Expr.foldUnary op operand))

def postfixed : Nat → Walk (Expr H)
  | 0 => exhausted
  | calls + 1 => do
    let base ← primary calls
    match ← steps calls with
    | [] => return base
    | steps => return .chain base steps

def primary : Nat → Walk (Expr H)
  | 0 => exhausted
  | calls + 1 => do
    let start ← step position
    let e ←
      match ← classifyNext with
      | some .groupOpen => group calls
      | some .arrayOpen => array calls
      | some .mapOpen => map calls
      | some .classMarker => staticAccess calls
      | some .quote => stringLiteral
      | some .digit => number
      | some .identStart => variableOrKeyword
      | _ => step unexpected
    if e.isValuer then return e
    else step (failAt start .notAValue)

def group : Nat → Walk (Expr H)
  | 0 => exhausted
  | calls + 1 => do
    let start ← step position
    let _ ← step advance
    step descend
    let inner ← expression calls
    closing ')' start .group
    step ascend
    return .foldGroup inner

def array : Nat → Walk (Expr H)
  | 0 => exhausted
  | calls + 1 => do
    let start ← step position
    let _ ← step advance
    step descend
    let items ← sequence calls ']' start .array
    step ascend
    return .array items

def arguments : Nat → Walk (List (Expr H))
  | 0 => exhausted
  | calls + 1 => do
    let start ← step position
    let _ ← step advance
    step descend
    let items ← sequence calls ')' start .arguments
    step ascend
    return items

def sequence : Nat → Char → Nat → Construct → Walk (List (Expr H))
  | 0, _, _, _ => exhausted
  | calls + 1, close, start, construct => do
    if (← nextSignificant) == some close then
      let _ ← step advance
      return []
    else items calls close start construct

def items : Nat → Char → Nat → Construct → Walk (List (Expr H))
  | 0, _, _, _ => exhausted
  | calls + 1, close, start, construct => do
    let item ← expression calls
    match ← nextSignificant with
    | none => step (failAt start (.unterminated construct))
    | some c =>
      if c == ',' then
        let _ ← step advance
        return item :: (← items calls close start construct)
      else if c == close then
        let _ ← step advance
        return [item]
      else step (fail (.unexpectedChar c))

def map : Nat → Walk (Expr H)
  | 0 => exhausted
  | calls + 1 => do
    let start ← step position
    let _ ← step advance
    step descend
    let entries ←
      match ← nextSignificant with
      | some '\x7d' => do
        let _ ← step advance
        pure []
      | some ':' => do
        let _ ← step advance
        closing '\x7d' start .map
        pure []
      | _ => entries calls start
    step ascend
    return .map entries

def entries : Nat → Nat → Walk (List (Expr H × Expr H))
  | 0, _ => exhausted
  | calls + 1, start => do
    let key ← mapKey calls
    match ← nextSignificant with
    | some ':' => discard (step advance)
    | some _ => step (fail (.malformedEntry .noColon))
    | none => step (failAt start (.unterminated .map))
    match ← nextSignificant with
    | some c => if c == ',' || c == '\x7d' then step (fail (.malformedEntry .noValue))
    | none => step (failAt start (.unterminated .map))
    let value ← expression calls
    match ← nextSignificant with
    | none => step (failAt start (.unterminated .map))
    | some c =>
      if c == ',' then
        let _ ← step advance
        return (key, value) :: (← entries calls start)
      else if c == '\x7d' then
        let _ ← step advance
        return [(key, value)]
      else step (fail (.unexpectedChar c))

def mapKey : Nat → Walk (Expr H)
  | 0 => exhausted
  | calls + 1 => do
    match ← classifyNext with
    | some .identStart =>
      let name ← identifier
      return .const ((keyword? name).getD (.str name))
    | _ => postfixed calls

def staticAccess : Nat → Walk (Expr H)
  | 0 => exhausted
  | calls + 1 => do
    let _ ← step advance
    let _ ← nextSignificant
    let start ← step position
    let className ← name
    match classes className with
    | none => step (failAt start (.unknownClass className))
    | some cls =>
      if (← nextSignificant) != some '.' then return .classRef cls
      let _ ← step advance
      let member ← name
      if (← nextSignificant) == some '(' then
        return .staticCall cls member (← arguments calls)
      else
        return .staticField cls member

def steps : Nat → Walk (List (Step H))
  | 0 => exhausted
  | calls + 1 => do
    match ← nextSignificant with
    | some '.' =>
      let _ ← step advance
      let member ← name
      if (← nextSignificant) == some '(' then
        let args ← arguments calls
        return .method member args :: (← steps calls)
      else
        return .property member :: (← steps calls)
    | some '[' =>
      let start ← step position
      let _ ← step advance
      step descend
      let key ← expression calls
      closing ']' start .index
      step ascend
      return .index key :: (← steps calls)
    | _ => return []
end

end Walk

end Stencil
