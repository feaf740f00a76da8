import Stencil.Classes.Builtin
import Stencil.Parser.Expression

/-!
This module contains the settings of an engine: the delimiters around the expressions of a
template, the classes and members that expressions can use, how deeply constructs may be nested,
and how much is kept of what was compiled.
-/

namespace Stencil

structure Delimiters where
  start : String
  stop : String
  start_ne : start ≠ ""
  stop_ne : stop ≠ ""
  deriving DecidableEq

namespace Delimiters

def defaultStart : String := "\x7b\x7b"

def defaultStop : String := "\x7d\x7d"

def default : Delimiters where
  start := defaultStart
  stop := defaultStop
  start_ne := by decide
  stop_ne := by decide

instance : Inhabited Delimiters where
  default := default

def ofTexts (start stop : String) : Except SettingsError Delimiters :=
  if h : start ≠ "" ∧ stop ≠ "" then .ok ⟨start, stop, h.1, h.2⟩
  else .error .emptyDelimiter

def describe (d : Delimiters) : String :=
  "Delimiters \x7b start: " ++ Quoted.text d.start ++ ", end: " ++ Quoted.text d.stop ++ " \x7d"

end Delimiters

structure Settings (H : Type) where
  delimiters : Delimiters
  classes : Parser.ClassLookup H
  members : Members H
  maxDepth : Nat
  cacheCapacity : Nat

namespace Settings

variable {H : Type}

def defaultMaxDepth : Nat := 256

def defaultCacheCapacity : Nat := 1024

def default [HostObject H] (now : Int64) : Settings H where
  delimiters := .default
  classes := (ClassRegistry.builtin now).resolve
  members := .builtin
  maxDepth := defaultMaxDepth
  cacheCapacity := defaultCacheCapacity

def withMaxDepth (s : Settings H) (depth : Nat) : Except SettingsError (Settings H) :=
  if 0 < depth then .ok { s with maxDepth := depth }
  else .error .zeroDepth

def parse [HostObject H] (s : Settings H) (src : String) : Except ParseError (Expr H) :=
  Expr.parse s.classes s.maxDepth src

def env (s : Settings H) (lookup : String → Option (Value H)) : Env H :=
  ⟨lookup, s.members⟩

def describe (s : Settings H) : String :=
  "RunnerSettings \x7b delimiters: " ++ s.delimiters.describe
    ++ s!", max_depth: {s.maxDepth}, cache_capacity: {s.cacheCapacity}, .. " ++ "\x7d"

end Settings

end Stencil
