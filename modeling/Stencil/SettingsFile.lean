import Stencil.Engine
import Stencil.Variables

/-!
This module contains settings files. A line `/set name=value` or `/set name value` sets a
delimiter or the nesting limit, a line `/var name=expression` binds a variable to a value that may
use the variables bound before. All other lines say nothing, and a line with an error has no
effect.
-/

namespace Stencil

inductive DirectiveError where
  | noSetting
  | noValue (name : String)
  | emptyDelimiter (name : String)
  | invalidDepth (value : String)
  | unknownSetting (name : String)
  | noBinding
  | noVariable
  | settings (cause : SettingsError)
  | failed (name : String) (cause : Error)
  deriving Repr, DecidableEq, Inhabited

namespace DirectiveError

def message : DirectiveError → String
  | noSetting => "/set: requires an argument"
  | noValue name => s!"/set: missing value for '{name}'"
  | emptyDelimiter name => s!"/set: {name} delimiter cannot be empty"
  | invalidDepth value => s!"/set: max_depth must be a positive integer, got '{value}'"
  | unknownSetting name => s!"/set: unknown setting '{name}'"
  | noBinding => "/var: expected <name>=<expression>"
  | noVariable => "/var: variable name cannot be empty"
  | settings cause => cause.message
  | failed name cause => s!"/var {name}: {cause.message}"

end DirectiveError

structure LineError where
  line : Nat
  cause : DirectiveError
  deriving Repr, DecidableEq, Inhabited

namespace LineError

def message (e : LineError) : String :=
  s!"line {e.line}: {e.cause.message}"

end LineError

structure Configuration (H : Type) where
  start : String
  stop : String
  maxDepth : Nat
  bound : Variables H

namespace Configuration

variable {H : Type}

def default : Configuration H :=
  ⟨Delimiters.defaultStart, Delimiters.defaultStop, Settings.defaultMaxDepth, .empty⟩

def tokens (quoted : Bool) (token : List Char) : List Char → List (List Char)
  | [] => finish token []
  | c :: rest =>
    if c == '"' then tokens (!quoted) token rest
    else if c == '\\' && quoted then
      match rest with
      | [] => finish token []
      | escaped :: rest => tokens quoted (escaped :: token) rest
    else if Unicode.isAsciiBlank c && !quoted then finish token (tokens quoted [] rest)
    else tokens quoted (c :: token) rest
where
  finish (token : List Char) (others : List (List Char)) : List (List Char) :=
    if token.isEmpty then others else token.reverse :: others

def splitArguments (args : List Char) : List (List Char) :=
  tokens false [] args

def settingOf (tokens : List (List Char)) : Except DirectiveError (String × String) :=
  match tokens with
  | [] => .error .noSetting
  | first :: others =>
    match Text.splitOnceBy? (· == '=') first with
    | some (name, value) => .ok (String.ofList name, String.ofList value)
    | none =>
      if others.isEmpty then .error (.noValue (String.ofList first))
      else .ok (String.ofList first, " ".intercalate (others.map String.ofList))

def set (c : Configuration H) (name value : String) :
    Except DirectiveError (Configuration H) :=
  if name == "start" || name == "end" then
    if value.isEmpty then .error (.emptyDelimiter name)
    else if name == "start" then .ok { c with start := value }
    else .ok { c with stop := value }
  else if name == "max_depth" then
    match Integer.readCount value.toList with
    | .ok n => if n > 0 then .ok { c with maxDepth := n } else .error (.invalidDepth value)
    | .error _ => .error (.invalidDepth value)
  else .error (.unknownSetting name)

variable [HostObject H]

def settings (now : Int64) (c : Configuration H) : Except SettingsError (Settings H) := do
  let delimiters ← Delimiters.ofTexts c.start c.stop
  let settings ← (Settings.default now).withMaxDepth c.maxDepth
  return { settings with delimiters }

def bind (now : Int64) (c : Configuration H) (args : List Char) :
    Except DirectiveError (Configuration H) :=
  match Text.splitOnceBy? (· == '=') args with
  | none => .error .noBinding
  | some (name, src) =>
    let name := String.ofList (Text.trim name)
    if name.isEmpty then .error .noVariable
    else
      match (Settings.default now).withMaxDepth c.maxDepth with
      | .error cause => .error (.settings cause)
      | .ok settings =>
        match ((Engine.ofSettings settings).run (String.ofList src) c.bound.get?).1 with
        | .error cause => .error (.failed name cause)
        | .ok v => .ok { c with bound := c.bound.set name v }

def directive? (line : List Char) : Option (String × List Char) :=
  match Text.trim line with
  | '/' :: rest =>
    match Text.splitOnceBy? Unicode.isAsciiBlank rest with
    | some (command, args) => some (String.ofList command, Text.trim args)
    | none => some (String.ofList rest, [])
  | _ => none

def applyLine (now : Int64) (c : Configuration H) (line : List Char) :
    Except DirectiveError (Configuration H) :=
  match directive? line with
  | some ("set", args) => do
    let (name, value) ← settingOf (splitArguments args)
    c.set name value
  | some ("var", args) => c.bind now args
  | _ => .ok c

def applyLines (now : Int64) (number : Nat) (c : Configuration H) :
    List (List Char) → Configuration H × List LineError
  | [] => (c, [])
  | line :: rest =>
    match c.applyLine now line with
    | .ok c => applyLines now (number + 1) c rest
    | .error cause =>
      let (c, errors) := applyLines now (number + 1) c rest
      (c, ⟨number, cause⟩ :: errors)

def load (now : Int64) (text : String) : Configuration H × List LineError :=
  applyLines now 1 default (Text.lines text.toList)

end Configuration

end Stencil
