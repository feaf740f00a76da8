import Stencil.Template

/-!
This module contains the engine, which keeps what it compiles: every expression under its source,
and every template under its delimiters and its source. A cache that is full is emptied before
something new is kept.
-/

namespace Stencil

structure Cache (K V : Type) where
  entries : List (K × V)

namespace Cache

variable {K V : Type}

def empty : Cache K V :=
  ⟨[]⟩

def size (c : Cache K V) : Nat :=
  c.entries.length

def find? [DecidableEq K] (c : Cache K V) (key : K) : Option V :=
  (c.entries.find? (·.1 = key)).map Prod.snd

def contains [DecidableEq K] (c : Cache K V) (key : K) : Bool :=
  (c.find? key).isSome

/--
Keeps a value under a key, unless there is one already, and answers with the one that is kept. A
cache without capacity keeps nothing.
-/
def remember [DecidableEq K] (c : Cache K V) (capacity : Nat) (key : K) (value : V) :
    V × Cache K V :=
  if capacity = 0 then (value, c)
  else
    let c := if c.size ≥ capacity && !c.contains key then empty else c
    match c.find? key with
    | none => (value, ⟨(key, value) :: c.entries⟩)
    | some kept => (kept, c)

def compute [DecidableEq K] {E : Type} (c : Cache K V) (capacity : Nat) (key : K)
    (make : Unit → Except E V) : Except E V × Cache K V :=
  match c.find? key with
  | some v => (.ok v, c)
  | none =>
    match make () with
    | .ok v =>
      let (v, c) := c.remember capacity key v
      (.ok v, c)
    | .error e => (.error e, c)

end Cache

structure Expression (H : Type) where
  tree : Expr H
  members : Members H

namespace Expression

variable {H : Type}

def eval [HostObject H] (e : Expression H) (lookup : String → Option (Value H)) : Eval (Value H) :=
  e.tree.eval ⟨lookup, e.members⟩

def isConst (e : Expression H) : Bool :=
  match e.tree with
  | .const _ => true
  | _ => false

end Expression

structure Engine (H : Type) where
  settings : Settings H
  expressions : Cache String (Expr H)
  templates : Cache (Delimiters × String) (Template H)

namespace Engine

variable {H : Type}

def ofSettings (s : Settings H) : Engine H :=
  ⟨s, .empty, .empty⟩

def cached (engine : Engine H) : Nat × Nat :=
  (engine.expressions.size, engine.templates.size)

def clearCache (engine : Engine H) : Engine H :=
  { engine with expressions := .empty, templates := .empty }

def describe (engine : Engine H) : String :=
  "Engine \x7b settings: " ++ engine.settings.describe
    ++ s!", cached_expressions: {engine.expressions.size}"
    ++ s!", cached_templates: {engine.templates.size} " ++ "\x7d"

variable [HostObject H]

def compile (engine : Engine H) (src : String) :
    Except ParseError (Expression H) × Engine H :=
  let (tree, expressions) :=
    engine.expressions.compute engine.settings.cacheCapacity src fun _ => engine.settings.parse src
  (tree.map (⟨·, engine.settings.members⟩), { engine with expressions })

def compileTemplateWith (engine : Engine H) (d : Delimiters) (src : String) :
    Except ParseError (Template H) × Engine H :=
  let (template, templates) :=
    engine.templates.compute engine.settings.cacheCapacity (d, src) fun _ =>
      Template.compile engine.settings d src
  (template, { engine with templates })

def compileTemplate (engine : Engine H) (src : String) :
    Except ParseError (Template H) × Engine H :=
  engine.compileTemplateWith engine.settings.delimiters src

def used {C R : Type} (compiled : Except ParseError C) (use : C → Eval R) : Except Error R :=
  match compiled with
  | .error cause => .error (.parse cause)
  | .ok c =>
    match use c with
    | .error cause => .error (.eval cause)
    | .ok r => .ok r

def run (engine : Engine H) (src : String) (lookup : String → Option (Value H)) :
    Except Error (Value H) × Engine H :=
  let (compiled, engine) := engine.compile src
  (used compiled (·.eval lookup), engine)

def renderWith (engine : Engine H) (d : Delimiters) (src : String)
    (lookup : String → Option (Value H)) : Except Error String × Engine H :=
  let (compiled, engine) := engine.compileTemplateWith d src
  (used compiled (·.render lookup), engine)

def render (engine : Engine H) (src : String) (lookup : String → Option (Value H)) :
    Except Error String × Engine H :=
  engine.renderWith engine.settings.delimiters src lookup

end Engine

end Stencil
