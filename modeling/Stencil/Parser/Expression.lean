import Stencil.Parser.Literal

/-!
This module contains the parser of expressions. It goes straight from characters to a folded tree:

* an expression is a binary one, or a choice `cond ? yes : no`;
* binary operators group to the left by their precedence;
* the operators `-` and `!` stand in front of a postfix expression;
* a postfix expression is a primary one with members `.name`, calls `.name(args)` and elements
  `[key]` after it;
* a primary expression is a group, an array, a map, a static member, a text, a number or a variable.

Every bracket, choice and prefix, and every binary operator that could not be folded, is one nesting
level. The parsers recurse on a number of calls that the length of the source decides: between two
characters only boundedly many parsers are entered, so that the calls are never used up.
-/

namespace Stencil

namespace Parser

variable {H : Type}

abbrev ClassLookup (H : Type) := String → Option (StaticClass H)

def folded (pos : Nat) (e : Eval (Expr H)) : Parser (Expr H) :=
  match e with
  | .ok e => return e
  | .error cause => failAt pos (.constantFold cause)

/--
The parser that is out of calls. It says what the nesting limit says.
-/
def exhausted {α : Type} : Parser α :=
  fun c => .error (c.fail (.tooDeep c.maxDepth))

def binaryOp? (first second : Option Char) : Option (BinaryOp × Nat) :=
  match first, second with
  | some '|', some '|' => some (.or, 2)
  | some '&', some '&' => some (.and, 2)
  | some '=', some '=' => some (.eq, 2)
  | some '!', some '=' => some (.ne, 2)
  | some '<', some '=' => some (.le, 2)
  | some '>', some '=' => some (.ge, 2)
  | some '<', some '<' => some (.shl, 2)
  | some '>', some '>' => some (.shr, 2)
  | some '<', _ => some (.lt, 1)
  | some '>', _ => some (.gt, 1)
  | some '|', _ => some (.bitOr, 1)
  | some '&', _ => some (.bitAnd, 1)
  | some '^', _ => some (.bitXor, 1)
  | some '+', _ => some (.add, 1)
  | some '-', _ => some (.sub, 1)
  | some '*', _ => some (.mul, 1)
  | some '/', _ => some (.div, 1)
  | some '%', _ => some (.rem, 1)
  | _, _ => none

def peekBinaryOp : Parser (Option (BinaryOp × Nat)) := do
  let first ← nextSignificant
  return binaryOp? first (← peekAt 1)

def peekUnaryOp : Parser (Option UnaryOp) := do
  let first ← nextSignificant
  let second ← peekAt 1
  if first == some '-' then return some .neg
  else if first == some '!' && second != some '=' then return some .not
  else return none

def closing (close : Char) (start : Nat) (construct : Construct) : Parser Unit := do
  match ← nextSignificant with
  | some found => if found == close then discard advance else fail (.unexpectedChar found)
  | none => failAt start (.unterminated construct)

def name : Parser String := do
  match ← nextSignificant with
  | some c => if Symbol.isIdentStart c then identifier else unexpected
  | none => unexpected

mutual
variable [HostObject H] (classes : ClassLookup H)

def expression : Nat → Parser (Expr H)
  | 0 => exhausted
  | calls + 1 => do
    let cond ← binary calls 0
    if (← nextSignificant) != some '?' then return cond
    let pos ← position
    let _ ← advance
    descend
    let yes ← expression calls
    expect ':'
    let no ← expression calls
    ascend
    folded pos (Expr.foldTernary cond yes no)

def binary : Nat → Nat → Parser (Expr H)
  | 0, _ => exhausted
  | calls + 1, least => do
    let left ← unary calls
    let (e, levels) ← operators calls least left 0
    ascendBy levels
    return e

/--
The operators and operands after `left`, which is `levels` levels deep.
-/
def operators : Nat → Nat → Expr H → Nat → Parser (Expr H × Nat)
  | 0, _, _, _ => exhausted
  | calls + 1, least, left, levels => do
    match ← peekBinaryOp with
    | none => return (left, levels)
    | some (op, width) =>
      if op.precedence < least then return (left, levels)
      let pos ← position
      advanceBy width
      let right ← binary calls (op.precedence + 1)
      let e ← folded pos (Expr.foldBinary op left right)
      if e.isConst then operators calls least e levels
      else
        descend
        operators calls least e (levels + 1)

def unary : Nat → Parser (Expr H)
  | 0 => exhausted
  | calls + 1 => do
    match ← peekUnaryOp with
    | none => postfixed calls
    | some op =>
      let pos ← position
      let _ ← advance
      descend
      let operand ← unary calls
      ascend
      folded pos (Expr.foldUnary op operand)

def postfixed : Nat → Parser (Expr H)
  | 0 => exhausted
  | calls + 1 => do
    let base ← primary calls
    match ← steps calls with
    | [] => return base
    | steps => return .chain base steps

def primary : Nat → Parser (Expr H)
  | 0 => exhausted
  | calls + 1 => do
    let start ← position
    let e ←
      match ← classifyNext with
      | some .groupOpen => group calls
      | some .arrayOpen => array calls
      | some .mapOpen => map calls
      | some .classMarker => staticAccess calls
      | some .quote => stringLiteral
      | some .digit => number
      | some .identStart => variableOrKeyword
      | _ => unexpected
    if e.isValuer then return e
    else failAt start .notAValue

def group : Nat → Parser (Expr H)
  | 0 => exhausted
  | calls + 1 => do
    let start ← position
    let _ ← advance
    descend
    let inner ← expression calls
    closing ')' start .group
    ascend
    return .foldGroup inner

def array : Nat → Parser (Expr H)
  | 0 => exhausted
  | calls + 1 => do
    let start ← position
    let _ ← advance
    descend
    let items ← sequence calls ']' start .array
    ascend
    return .array items

def arguments : Nat → Parser (List (Expr H))
  | 0 => exhausted
  | calls + 1 => do
    let start ← position
    let _ ← advance
    descend
    let items ← sequence calls ')' start .arguments
    ascend
    return items

def sequence : Nat → Char → Nat → Construct → Parser (List (Expr H))
  | 0, _, _, _ => exhausted
  | calls + 1, close, start, construct => do
    if (← nextSignificant) == some close then
      let _ ← advance
      return []
    else items calls close start construct

def items : Nat → Char → Nat → Construct → Parser (List (Expr H))
  | 0, _, _, _ => exhausted
  | calls + 1, close, start, construct => do
    let item ← expression calls
    match ← nextSignificant with
    | none => failAt start (.unterminated construct)
    | some c =>
      if c == ',' then
        let _ ← advance
        return item :: (← items calls close start construct)
      else if c == close then
        let _ ← advance
        return [item]
      else fail (.unexpectedChar c)

def map : Nat → Parser (Expr H)
  | 0 => exhausted
  | calls + 1 => do
    let start ← position
    let _ ← advance
    descend
    let entries ←
      match ← nextSignificant with
      | some '\x7d' => do
        let _ ← advance
        pure []
      | some ':' => do
        let _ ← advance
        closing '\x7d' start .map
        pure []
      | _ => entries calls start
    ascend
    return .map entries

def entries : Nat → Nat → Parser (List (Expr H × Expr H))
  | 0, _ => exhausted
  | calls + 1, start => do
    let key ← mapKey calls
    match ← nextSignificant with
    | some ':' => discard advance
    | some _ => fail (.malformedEntry .noColon)
    | none => failAt start (.unterminated .map)
    match ← nextSignificant with
    | some c => if c == ',' || c == '\x7d' then fail (.malformedEntry .noValue)
    | none => failAt start (.unterminated .map)
    let value ← expression calls
    match ← nextSignificant with
    | none => failAt start (.unterminated .map)
    | some c =>
      if c == ',' then
        let _ ← advance
        return (key, value) :: (← entries calls start)
      else if c == '\x7d' then
        let _ ← advance
        return [(key, value)]
      else fail (.unexpectedChar c)

def mapKey : Nat → Parser (Expr H)
  | 0 => exhausted
  | calls + 1 => do
    match ← classifyNext with
    | some .identStart =>
      let name ← identifier
      return .const ((keyword? name).getD (.str name))
    | _ => postfixed calls

def staticAccess : Nat → Parser (Expr H)
  | 0 => exhausted
  | calls + 1 => do
    let _ ← advance
    let _ ← nextSignificant
    let start ← position
    let className ← name
    match classes className with
    | none => failAt start (.unknownClass className)
    | some cls =>
      if (← nextSignificant) != some '.' then return .classRef cls
      let _ ← advance
      let member ← name
      if (← nextSignificant) == some '(' then
        return .staticCall cls member (← arguments calls)
      else
        return .staticField cls member

def steps : Nat → Parser (List (Step H))
  | 0 => exhausted
  | calls + 1 => do
    match ← nextSignificant with
    | some '.' =>
      let _ ← advance
      let member ← name
      if (← nextSignificant) == some '(' then
        let args ← arguments calls
        return .method member args :: (← steps calls)
      else
        return .property member :: (← steps calls)
    | some '[' =>
      let start ← position
      let _ ← advance
      descend
      let key ← expression calls
      closing ']' start .index
      ascend
      return .index key :: (← steps calls)
    | _ => return []
end

/--
A number of calls that reading a source of `length` characters never reaches.
-/
def callBound (length : Nat) : Nat :=
  16 * (length + 1)

def source [HostObject H] (classes : ClassLookup H) (length : Nat) : Parser (Expr H) := do
  if (← nextSignificant).isNone then fail .emptyExpression
  let e ← expression classes (callBound length)
  if (← nextSignificant).isSome then unexpected
  return e

end Parser

def Expr.parse {H : Type} [HostObject H] (classes : Parser.ClassLookup H) (maxDepth : Nat)
    (src : String) : Except ParseError (Expr H) := do
  let chars := src.toList
  let (e, _) ← (Parser.source classes chars.length).run (Cursor.start chars maxDepth)
  return e

end Stencil
