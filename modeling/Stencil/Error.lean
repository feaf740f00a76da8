import Stencil.Decimal.Text
import Stencil.Integer
import Stencil.Text.Quoted

/-!
This module contains everything that can go wrong: while an expression is evaluated, while a
source is read, and in the settings. Each error is its cause; the wording is in one `message`
function each.
-/

namespace Stencil

inductive NumberError where
  | integer (cause : Integer.ReadError)
  | decimal (cause : Decimal.ReadError)
  deriving Repr, DecidableEq, Inhabited

namespace NumberError

def message : NumberError → String
  | integer cause => cause.message
  | decimal cause => cause.message

end NumberError

inductive Arity where
  | exactly (n : Nat)
  | oneOrTwo
  deriving Repr, DecidableEq, Inhabited

namespace Arity

def message : Arity → String
  | exactly n => toString n
  | oneOrTwo => "1 or 2"

end Arity

inductive ArgumentKind where
  | text
  | integer
  | number
  deriving Repr, DecidableEq, Inhabited

namespace ArgumentKind

def message : ArgumentKind → String
  | text => "a string"
  | integer => "an integer"
  | number => "a number"

end ArgumentKind

inductive CallProblem where
  | arity (expected : Arity) (given : Nat)
  | argument (index : Nat) (expected : ArgumentKind) (given : String)
  | conversion (given : String)
  | separator
  | pattern (reason : String)
  | notAValue
  | other (reason : String)
  deriving Repr, DecidableEq, Inhabited

namespace CallProblem

def message : CallProblem → String
  | arity expected given => s!"expected {expected.message} argument(s), got {given}"
  | argument index expected given => s!"argument {index} must be {expected.message}, got {given}"
  | conversion given => s!"cannot convert {given}"
  | separator => "first argument must be a separator string"
  | pattern reason => s!"regex error: {reason}"
  | notAValue => "a class reference is not a value"
  | other reason => reason

end CallProblem

inductive EvalError where
  | unresolvedVariable (name : String)
  | unresolvedMember (name target : String)
  | unresolvedStatic (className name : String)
  | callResolution (name : String) (problem : CallProblem)
  | typeMismatch (operator left : String) (right : Option String)
  | divisionByZero
  | indexOutOfBounds (index : Int64) (length : Nat)
  | unreadable (method text : String) (cause : NumberError)
  | host (reason : String)
  deriving Repr, DecidableEq, Inhabited

namespace EvalError

def message : EvalError → String
  | unresolvedVariable name => s!"unresolved variable `{name}`"
  | unresolvedMember name target => s!"no member `{name}` on {target}"
  | unresolvedStatic className name => s!"no static member `{name}` on class {className}"
  | callResolution name problem => s!"cannot call `{name}`: {problem.message}"
  | typeMismatch operator left none => s!"operator `{operator}` not applicable to {left}"
  | typeMismatch operator left (some right) =>
    s!"operator `{operator}` not applicable to {left} and {right}"
  | divisionByZero => "division by zero"
  | indexOutOfBounds index length =>
    s!"index {Integer.toText index} out of bounds for length {length}"
  | unreadable method text cause =>
    s!"{method}: cannot parse {Quoted.text text}: {cause.message}"
  | host reason => reason

end EvalError

inductive Construct where
  | group
  | index
  | array
  | map
  | arguments
  | string
  deriving Repr, DecidableEq, Inhabited

namespace Construct

def message : Construct → String
  | group => "group"
  | index => "index"
  | array => "array literal"
  | map => "map literal"
  | arguments => "argument list"
  | string => "string literal"

end Construct

inductive EntryFault where
  | noColon
  | noValue
  deriving Repr, DecidableEq, Inhabited

namespace EntryFault

def message : EntryFault → String
  | noColon => "expected `:` after key"
  | noValue => "missing value"

end EntryFault

inductive ParseProblem where
  | unexpectedChar (c : Char)
  | unexpectedEnd
  | unterminated (construct : Construct)
  | malformedEntry (fault : EntryFault)
  | invalidNumber (literal : String)
  | unknownClass (name : String)
  | notAValue
  | tooDeep (limit : Nat)
  | unterminatedDelimiter (delimiter : String)
  | emptyExpression
  | constantFold (cause : EvalError)
  deriving Repr, DecidableEq, Inhabited

namespace ParseProblem

def message : ParseProblem → String
  | unexpectedChar c => s!"unexpected character {Quoted.char c}"
  | unexpectedEnd => "unexpected end of input"
  | unterminated construct => s!"unterminated {construct.message}"
  | malformedEntry fault => s!"malformed map entry: {fault.message}"
  | invalidNumber literal => s!"invalid number literal `{literal}`"
  | unknownClass name => s!"unknown class `{name}`"
  | notAValue => "class reference is not a value"
  | tooDeep limit => s!"expression nested deeper than {limit} levels"
  | unterminatedDelimiter delimiter => s!"unterminated template delimiter `{delimiter}`"
  | emptyExpression => "empty expression"
  | constantFold cause => s!"constant expression failed: {cause.message}"

end ParseProblem

/--
A problem and the number of characters before the place it is about.
-/
structure ParseError where
  pos : Nat
  problem : ParseProblem
  deriving Repr, DecidableEq, Inhabited

namespace ParseError

def message (e : ParseError) : String :=
  s!"{e.problem.message} at offset {e.pos}"

def shift (e : ParseError) (count : Nat) : ParseError :=
  { e with pos := e.pos + count }

end ParseError

inductive Error where
  | parse (cause : ParseError)
  | eval (cause : EvalError)
  deriving Repr, DecidableEq, Inhabited

namespace Error

def message : Error → String
  | parse cause => cause.message
  | eval cause => cause.message

end Error

inductive SettingsError where
  | emptyDelimiter
  | zeroDepth
  deriving Repr, DecidableEq, Inhabited

namespace SettingsError

def message : SettingsError → String
  | emptyDelimiter => "template delimiters must not be empty"
  | zeroDepth => "max_depth must be at least 1"

end SettingsError

end Stencil
