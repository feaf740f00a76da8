import Stencil.SettingsFile

/-!
This module contains the command line: its options, and what a run reports. Options can be clustered
after one hyphen; the value of an option is the rest of its argument, or the next argument.
-/

namespace Stencil

inductive Input where
  | expr (src : String)
  | template (src : String)
  deriving Repr, DecidableEq, Inhabited

structure Options where
  config : Option String := none
  delimiters : Option (String × String) := none
  bindings : List (String × String) := []
  debug : Bool := false
  input : Option Input := none
  deriving Repr, DecidableEq, Inhabited

inductive ValueOption where
  | config
  | delimiters
  | binding
  | expr
  | template
  deriving Repr, DecidableEq, Inhabited

namespace ValueOption

def ofFlag? : Char → Option ValueOption
  | 'f' => some config
  | 'D' => some delimiters
  | 'v' => some binding
  | 'e' => some expr
  | 't' => some template
  | _ => none

def requirement : ValueOption → String
  | config => "-f requires a file argument"
  | delimiters => "-D requires start and end delimiters"
  | binding => "-v requires a <name>=<expr> argument"
  | expr => "-e requires an expression"
  | template => "-t requires a template"

end ValueOption

inductive OptionError where
  | unknown (flag : Char)
  | noValue (option : ValueOption)
  | noBinding (given : String)
  | noVariable
  | secondInput
  | noInput
  deriving Repr, DecidableEq, Inhabited

namespace OptionError

def message : OptionError → String
  | unknown flag => s!"unknown option: -{flag}"
  | noValue option => option.requirement
  | noBinding given => s!"-v expects <name>=<expr>, got '{given}'"
  | noVariable => "-v: variable name cannot be empty"
  | secondInput => "only one expression or template may be given"
  | noInput => "no expression or template given"

end OptionError

inductive Expected where
  | argument
  | value (option : ValueOption)
  | stopDelimiter (start : String)
  deriving Repr, DecidableEq, Inhabited

namespace Options

def setInput (o : Options) (input : Input) : Except OptionError Options :=
  match o.input with
  | none => .ok { o with input := some input }
  | some _ => .error .secondInput

def setValue (o : Options) (option : ValueOption) (value : String) :
    Except OptionError (Options × Expected) :=
  match option with
  | .config => .ok ({ o with config := some value }, .argument)
  | .delimiters => .ok (o, .stopDelimiter value)
  | .binding =>
    match Text.splitOnceBy? (· == '=') value.toList with
    | none => .error (.noBinding value)
    | some (name, src) =>
      if name.isEmpty then .error .noVariable
      else
        .ok ({ o with bindings := o.bindings ++ [(String.ofList name, String.ofList src)] },
          .argument)
  | .expr => (o.setInput (.expr value)).map (·, .argument)
  | .template => (o.setInput (.template value)).map (·, .argument)

def readFlags (o : Options) : List Char → Except OptionError (Options × Expected)
  | [] => .ok (o, .argument)
  | flag :: rest =>
    if flag == 'd' then readFlags { o with debug := true } rest
    else
      match ValueOption.ofFlag? flag with
      | none => .error (.unknown flag)
      | some option =>
        if rest.isEmpty then .ok (o, .value option)
        else o.setValue option (String.ofList rest)

/--
An argument that is an expression although it may begin with a hyphen: a lone hyphen, or one
before a digit, a parenthesis or a space.
-/
def isPositional (arg : List Char) : Bool :=
  match arg with
  | ['-'] => true
  | '-' :: c :: _ => Unicode.isAsciiDigit c || c == '(' || c == ' '
  | _ => true

def readFrom (o : Options) (expected : Expected) : List String → Except OptionError Options
  | [] =>
    match expected with
    | .argument => .ok o
    | .value option => .error (.noValue option)
    | .stopDelimiter _ => .error (.noValue .delimiters)
  | arg :: rest =>
    match expected with
    | .value option => do
      let (o, expected) ← o.setValue option arg
      readFrom o expected rest
    | .stopDelimiter start => readFrom { o with delimiters := some (start, arg) } .argument rest
    | .argument =>
      if arg == "--" then o.setInput (.expr (" ".intercalate rest))
      else if isPositional arg.toList then do
        let o ← o.setInput (.expr arg)
        readFrom o .argument rest
      else do
        let (o, expected) ← o.readFlags (arg.toList.drop 1)
        readFrom o expected rest

def read (args : List String) : Except OptionError Options := do
  let o ← readFrom {} .argument args
  if o.input.isNone then throw .noInput
  return o

end Options

structure Report where
  code : UInt8
  stdout : String
  stderr : String
  deriving Repr, DecidableEq, Inhabited

namespace CommandLine

def programName : String := "compute"

def usage : String :=
  "Usage: compute [-d] [-f<file>] [-D<start> <end>] [-v<name>=<expr>]... "
    ++ "(-e <expr> | -t <template> | <expr>)"

def line (text : String) : String :=
  text ++ "\n"

def complaint (text : String) : String :=
  line (programName ++ ": " ++ text)

def bindAll (engine : Engine Empty) (vars : Variables Empty) :
    List (String × String) → Except String (Engine Empty × Variables Empty)
  | [] => .ok (engine, vars)
  | (name, src) :: rest =>
    match engine.run src vars.get? with
    | (.error cause, _) => .error s!"-v {name}: {cause.message}"
    | (.ok v, engine) => bindAll engine (vars.set name v) rest

def evaluate (engine : Engine Empty) (vars : Variables Empty) :
    Option Input → Except String String
  | some (.expr src) =>
    match (engine.run src vars.get?).1 with
    | .ok v => .ok v.toText
    | .error cause => .error cause.message
  | some (.template src) =>
    match (engine.render src vars.get?).1 with
    | .ok text => .ok text
    | .error cause => .error cause.message
  | none => .error OptionError.noInput.message

def execute (now : Int64) (c : Configuration Empty) (o : Options) : Except String String := do
  let settings ← (c.settings now).mapError SettingsError.message
  let settings ←
    match o.delimiters with
    | none => pure settings
    | some (start, stop) =>
      match Delimiters.ofTexts start stop with
      | .ok delimiters => pure { settings with delimiters }
      | .error cause => .error cause.message
  let (engine, vars) ← bindAll (.ofSettings settings) c.bound o.bindings
  evaluate engine vars o.input

def configuration (now : Int64) (read : String → Except String String) (o : Options) :
    Except String (Configuration Empty × String) :=
  match o.config with
  | none => .ok (.default, "")
  | some path =>
    match read path with
    | .error reason => .error s!"{path}: {reason}"
    | .ok text =>
      let (c, errors) := Configuration.load now text
      .ok (c, String.join (errors.map fun e => complaint s!"warning: {path}: {e.message}"))

def run (now : Int64) (read : String → Except String String) (args : List String) : Report :=
  match Options.read args with
  | .error cause => ⟨1, "", complaint cause.message ++ line usage⟩
  | .ok o =>
    match configuration now read o with
    | .error reason => ⟨1, "", complaint reason⟩
    | .ok (c, warnings) =>
      match execute now c o with
      | .ok text => ⟨0, line text, warnings⟩
      | .error reason => ⟨1, "", warnings ++ complaint reason⟩

end CommandLine

end Stencil
