import Stencil.Proofs.Context
import Stencil.Proofs.Outcome
import Stencil.Proofs.Session
import Stencil.Proofs.Text.Lines
import Stencil.SettingsFile

/-!
This module contains the proof that a settings file is read line by line: each line does one thing to
what the lines before it have left, a line with an error does nothing, and what comes out at the end
can be used.
-/

namespace Stencil

namespace Configuration

variable {H : Type}

inductive Idle (line : List Char) : Prop where
  | blank : Text.trim line = [] → Idle line
  | comment : (Text.trim line).head? = some ';' → Idle line
  | text : (Text.trim line).head? ≠ some '/' → Idle line
  | unknown {name : String} {args : List Char} :
    directive? line = some (name, args) → name ≠ "set" → name ≠ "var" → Idle line

theorem withMaxDepth_eq_ok {s s' : Settings H} {depth : Nat} :
    s.withMaxDepth depth = .ok s' ↔
      0 < depth ∧ s' = { s with maxDepth := depth } := by
  unfold Settings.withMaxDepth
  split
  . next h => simp [h, eq_comm]
  . next h => simp [h]

structure Usable (c : Configuration H) : Prop where
  start_ne : c.start ≠ ""
  stop_ne : c.stop ≠ ""
  maxDepth_pos : 0 < c.maxDepth

theorem usable_default : (default : Configuration H).Usable where
  start_ne := Delimiters.default.start_ne
  stop_ne := Delimiters.default.stop_ne
  maxDepth_pos := by simp [default, Settings.defaultMaxDepth]

variable [HostObject H] {now : Int64} {c c' : Configuration H} {line : List Char}

/--
What a line does to the configuration `c` that the lines before it have left, and the error that is
reported for it. A line with an error does nothing, a setting changes one field, and a variable one
binding.
-/
inductive Effect (now : Int64) (c : Configuration H) (line : List Char) :
    Configuration H → Option DirectiveError → Prop where
  | idle : Idle line → Effect now c line c none
  | failed {cause : DirectiveError} :
    c.applyLine now line = .error cause → Effect now c line c (some cause)
  | start {args : List Char} {value : String} :
    directive? line = some ("set", args) → settingOf (splitArguments args) = .ok ("start", value) →
      value ≠ "" → Effect now c line { c with start := value } none
  | stop {args : List Char} {value : String} :
    directive? line = some ("set", args) → settingOf (splitArguments args) = .ok ("end", value) →
      value ≠ "" → Effect now c line { c with stop := value } none
  | maxDepth {args : List Char} {value : String} {depth : Nat} :
    directive? line = some ("set", args) → settingOf (splitArguments args) = .ok ("max_depth", value) →
      Integer.readCount value.toList = .ok depth → 0 < depth →
        Effect now c line { c with maxDepth := depth } none
  | binding {args name src : List Char} {e : Expr H} {v : Value H} {bound : Variables H} :
    directive? line = some ("var", args) → Text.splitOnceBy? (· == '=') args = some (name, src) →
      Text.trim name ≠ [] →
      Expr.parse (ClassRegistry.builtin now).resolve c.maxDepth (String.ofList src) = .ok e →
      e.eval ⟨c.bound.get?, Members.builtin⟩ = .ok v →
      (∀ other, bound.get? other
        = if String.ofList (Text.trim name) = other then some v else c.bound.get? other) →
        Effect now c line { c with bound } none

theorem directive?_eq_none_iff : directive? line = none ↔ (Text.trim line).head? ≠ some '/' := by
  unfold directive?
  split
  . next rest hline =>
    rw [hline]
    cases Text.splitOnceBy? Unicode.isAsciiBlank rest <;> simp
  . next hline =>
    simp only [true_iff]
    intro h
    obtain ⟨rest, hrest⟩ := List.head?_eq_some_iff.mp h
    exact hline rest hrest

theorem applyLine_of_idle (h : Idle line) : c.applyLine now line = .ok c := by
  have hnone (hhead : (Text.trim line).head? ≠ some '/') : c.applyLine now line = .ok c := by
    rw [applyLine, directive?_eq_none_iff.mpr hhead]
  cases h with
  | blank h => exact hnone (by rw [h]; simp)
  | comment h => exact hnone (by rw [h]; decide)
  | text h => exact hnone h
  | unknown h hset hvar =>
    unfold applyLine
    split
    . next hline => exact absurd (Prod.mk.inj (Option.some.inj (h.symm.trans hline))).1 hset
    . next hline => exact absurd (Prod.mk.inj (Option.some.inj (h.symm.trans hline))).1 hvar
    . rfl

theorem effect_of_set {args : List Char} {name value : String}
    (hdirective : directive? line = some ("set", args))
    (hsetting : settingOf (splitArguments args) = .ok (name, value))
    (h : c.set name value = .ok c') : Effect now c line c' none := by
  unfold set at h
  split at h
  . next hname =>
    split at h
    . cases h
    . next hvalue =>
      have hne : value ≠ "" := by simpa [String.isEmpty_iff] using hvalue
      split at h <;> cases h
      . next hstart =>
        rw [eq_of_beq hstart] at hsetting
        exact .start hdirective hsetting hne
      . next hstart =>
        have hstop : name = "end" := by simpa [hstart] using hname
        rw [hstop] at hsetting
        exact .stop hdirective hsetting hne
  . split at h
    . next hdepth =>
      rw [eq_of_beq hdepth] at hsetting
      split at h
      . next depth hread =>
        split at h <;> cases h
        next hpos => exact .maxDepth hdirective hsetting hread hpos
      . cases h
    . cases h

theorem run_ofSettings_eq_ok {s : Settings H} {src : String} {lookup : String → Option (Value H)}
    {v : Value H} : ((Engine.ofSettings s).run src lookup).1 = .ok v ↔
      ∃ e, s.parse src = .ok e ∧ e.eval ⟨lookup, s.members⟩ = .ok v := by
  have hcompile := (Engine.Faithful.ofSettings s).fst_compile src
  rw [Engine.run]
  simp only [hcompile, Settings.expression]
  cases s.parse src with
  | error cause => simp [Engine.used, Except.map]
  | ok e =>
    simp only [Engine.used, Except.map, Expression.eval, Except.ok.injEq, exists_eq_left']
    cases e.eval ⟨lookup, s.members⟩ <;> simp

theorem effect_of_bind {args : List Char} (hdirective : directive? line = some ("var", args))
    (h : c.bind now args = .ok c') : Effect now c line c' none := by
  unfold bind at h
  split at h
  . cases h
  . next name src hsplit =>
    dsimp only at h
    split at h
    . cases h
    . next hname =>
      split at h
      . cases h
      . next settings hsettings =>
        split at h <;> cases h
        next v hrun =>
          rw [withMaxDepth_eq_ok] at hsettings
          obtain ⟨_, rfl⟩ := hsettings
          rw [run_ofSettings_eq_ok] at hrun
          obtain ⟨e, he, hv⟩ := hrun
          refine .binding hdirective hsplit ?_ he hv (Variables.get?_set _ _ _)
          intro hnil
          simp [hnil] at hname

theorem effect_of_applyLine (h : c.applyLine now line = .ok c') : Effect now c line c' none := by
  unfold applyLine at h
  split at h
  . next args hdirective =>
    rw [Outcome.bind_eq_ok] at h
    obtain ⟨⟨name, value⟩, hsetting, h⟩ := h
    exact effect_of_set hdirective hsetting h
  . next args hdirective => exact effect_of_bind hdirective h
  . next hset hvar =>
    cases h
    apply Effect.idle
    cases hline : directive? line with
    | none => exact .text (directive?_eq_none_iff.mp hline)
    | some directive =>
      obtain ⟨name, args⟩ := directive
      apply Idle.unknown hline
      . rintro rfl
        exact hset args hline
      . rintro rfl
        exact hvar args hline

def step (now : Int64) (c : Configuration H) (line : List Char) : Configuration H :=
  match c.applyLine now line with
  | .ok c => c
  | .error _ => c

def fault? (now : Int64) (c : Configuration H) (line : List Char) : Option DirectiveError :=
  match c.applyLine now line with
  | .ok _ => none
  | .error cause => some cause

def reported (number : Nat) (fault : Option DirectiveError) : List LineError :=
  (fault.map (LineError.mk number)).toList

theorem mem_reported {number : Nat} {fault : Option DirectiveError} {e : LineError} :
    e ∈ reported number fault ↔ e.line = number ∧ fault = some e.cause := by
  obtain ⟨line, cause⟩ := e
  simp only [reported, Option.mem_toList, Option.map_eq_some_iff, LineError.mk.injEq]
  constructor
  . rintro ⟨_, rfl, rfl, rfl⟩
    exact ⟨rfl, rfl⟩
  . rintro ⟨rfl, rfl⟩
    exact ⟨_, rfl, rfl, rfl⟩

theorem effect_step (now : Int64) (c : Configuration H) (line : List Char) :
    Effect now c line (step now c line) (fault? now c line) := by
  unfold step fault?
  split
  . next h => simpa [h] using effect_of_applyLine h
  . next h => simpa [h] using Effect.failed h

theorem step_of_idle (h : Idle line) : step now c line = c ∧ fault? now c line = none := by
  simp [step, fault?, applyLine_of_idle h]

theorem step_of_fault? {cause : DirectiveError} (h : fault? now c line = some cause) :
    step now c line = c := by
  unfold fault? at h
  unfold step
  split at h <;> simp_all

theorem applyLines_cons (number : Nat) (rest : List (List Char)) :
    applyLines now number c (line :: rest)
      = ((applyLines now (number + 1) (step now c line) rest).1,
          reported number (fault? now c line)
            ++ (applyLines now (number + 1) (step now c line) rest).2) := by
  rw [applyLines, step, fault?]
  cases c.applyLine now line <;> rfl

theorem fst_applyLines (number : Nat) (lines : List (List Char)) :
    (applyLines now number c lines).1 = lines.foldl (step now) c := by
  induction lines generalizing number c with
  | nil => rfl
  | cons line rest ih => rw [applyLines_cons, ih, List.foldl_cons]

theorem line_of_mem_errors (number : Nat) (lines : List (List Char)) :
    ∀ e ∈ (applyLines now number c lines).2, number ≤ e.line ∧ e.line < number + lines.length := by
  induction lines generalizing number c with
  | nil => simp [applyLines]
  | cons line rest ih =>
    intro e he
    rw [applyLines_cons, List.mem_append] at he
    rw [List.length_cons]
    rcases he with he | he
    . have := (mem_reported.mp he).1
      omega
    . have := ih (number + 1) e he
      omega

theorem pairwise_errors (number : Nat) (lines : List (List Char)) :
    (applyLines now number c lines).2.Pairwise (·.line < ·.line) := by
  induction lines generalizing number c with
  | nil => exact .nil
  | cons line rest ih =>
    rw [applyLines_cons, List.pairwise_append]
    refine ⟨?_, ih (number + 1), ?_⟩
    . cases fault? now c line <;> simp [reported]
    . intro e he e' he'
      have := (mem_reported.mp he).1
      have := line_of_mem_errors (number + 1) rest e' he'
      omega

theorem mem_errors_iff {cause : DirectiveError} (number : Nat) (lines : List (List Char)) (i : Nat) :
    ⟨number + i, cause⟩ ∈ (applyLines now number c lines).2 ↔
      ∃ line, lines[i]? = some line
        ∧ fault? now ((lines.take i).foldl (step now) c) line = some cause := by
  induction lines generalizing number c i with
  | nil => simp [applyLines]
  | cons line rest ih =>
    rw [applyLines_cons, List.mem_append]
    cases i with
    | zero =>
      have hrest : ⟨number, cause⟩ ∉ (applyLines now (number + 1) (step now c line) rest).2 := by
        intro h
        have := line_of_mem_errors (number + 1) rest _ h
        dsimp only at this
        omega
      simp [hrest, mem_reported]
    | succ i =>
      have hnumber : number + (i + 1) = number + 1 + i := by omega
      have hne : number + 1 + i ≠ number := by omega
      rw [hnumber, ih]
      simp [hne, mem_reported]

/--
How many of the lines before a line are to be kept, from the line `n` on.
-/
def kept (keep : Nat → Bool) (n line : Nat) : Nat :=
  (List.range' n (line - n)).countP keep

theorem kept_self (keep : Nat → Bool) (n : Nat) : kept keep n n = 0 := by
  simp [kept]

theorem kept_of_lt {keep : Nat → Bool} {n line : Nat} (h : n < line) :
    kept keep n line = kept keep (n + 1) line + if keep n then 1 else 0 := by
  have hsub : line - n = line - (n + 1) + 1 := by omega
  rw [kept, kept, hsub, List.range'_succ, List.countP_cons]

theorem applyLines_retain (keep : Nat → Bool) (lines : List (List Char)) (number first : Nat)
    (h : ∀ i line, lines[i]? = some line → keep (number + i) = false →
      step now ((lines.take i).foldl (step now) c) line = (lines.take i).foldl (step now) c) :
    applyLines now first c (Text.retain keep number lines)
      = ((applyLines now number c lines).1,
          ((applyLines now number c lines).2.filter (keep ·.line)).map fun e =>
            ⟨first + kept keep number e.line, e.cause⟩) := by
  induction lines generalizing number first c with
  | nil => rfl
  | cons line rest ih =>
    -- The lines behind the first one, numbered from `first` on in the text that is left.
    have hrest (first : Nat) := by
      refine @ih (step now c line) (number + 1) first ?_
      intro i l hl hkeep
      have hnumber : number + (i + 1) = number + 1 + i := by omega
      exact h (i + 1) l hl (by rw [hnumber, hkeep])
    have hrenumber : ∀ e ∈ (applyLines now (number + 1) (step now c line) rest).2.filter (keep ·.line),
        first + kept keep number e.line
          = (first + if keep number then 1 else 0) + kept keep (number + 1) e.line := by
      intro e he
      have hlt := line_of_mem_errors (number + 1) rest e (List.mem_of_mem_filter he)
      rw [kept_of_lt (by omega)]
      omega
    rw [applyLines_cons, Text.retain, List.filter_append, List.map_append]
    cases hkeep : keep number with
    | true =>
      have hfault : ((reported number (fault? now c line)).filter (keep ·.line)).map
          (fun e => ⟨first + kept keep number e.line, e.cause⟩) = reported first (fault? now c line) := by
        cases fault? now c line <;> simp [reported, hkeep, kept_self]
      rw [if_pos rfl, applyLines_cons, hrest (first + 1), hfault]
      congr 2
      apply List.map_congr_left
      intro e he
      rw [hrenumber e he, hkeep, if_pos rfl]
    | false =>
      have hstep : step now c line = c := h 0 line rfl hkeep
      have hfault : (reported number (fault? now c line)).filter (keep ·.line) = [] := by
        cases fault? now c line <;> simp [reported, hkeep]
      have hleft := hrest first
      rw [hstep] at hleft hrenumber ⊢
      rw [if_neg (by simp), hleft, hfault, List.map_nil, List.nil_append]
      congr 1
      apply List.map_congr_left
      intro e he
      simp [hrenumber e he, hkeep]

-- What comes out at the end can be used.

theorem Effect.usable {fault : Option DirectiveError} (h : Effect now c line c' fault)
    (hc : c.Usable) : c'.Usable := by
  cases h with
  | idle _ => exact hc
  | failed _ => exact hc
  | start _ _ hne => exact ⟨hne, hc.stop_ne, hc.maxDepth_pos⟩
  | stop _ _ hne => exact ⟨hc.start_ne, hne, hc.maxDepth_pos⟩
  | maxDepth _ _ _ hpos => exact ⟨hc.start_ne, hc.stop_ne, hpos⟩
  | binding => exact ⟨hc.start_ne, hc.stop_ne, hc.maxDepth_pos⟩

theorem Usable.foldl_step (hc : c.Usable) (lines : List (List Char)) :
    (lines.foldl (step now) c).Usable := by
  induction lines generalizing c with
  | nil => exact hc
  | cons line rest ih => exact ih ((effect_step now c line).usable hc)

theorem Usable.settings (hc : c.Usable) : ∃ s, c.settings now = .ok s
    ∧ s.delimiters.start = c.start ∧ s.delimiters.stop = c.stop ∧ s.maxDepth = c.maxDepth := by
  unfold Configuration.settings Delimiters.ofTexts Settings.withMaxDepth
  rw [dif_pos ⟨hc.start_ne, hc.stop_ne⟩, if_pos hc.maxDepth_pos]
  exact ⟨_, rfl, rfl, rfl, rfl⟩

def after (now : Int64) (lines : List (List Char)) : Configuration H :=
  lines.foldl (step now) default

theorem after_take_succ {lines : List (List Char)} {i : Nat} (h : lines[i]? = some line) :
    after now (lines.take (i + 1)) = (step now (after now (lines.take i)) line : Configuration H) := by
  rw [after, List.take_add_one, h, List.foldl_append]
  rfl

/--
What is true of a configuration and of the errors that the lines of a settings file have led to. Each
line has its effect on what the lines before it have left, and its error is reported once, in order.
-/
structure Folds (now : Int64) (lines : List (List Char)) (c : Configuration H)
    (errors : List LineError) : Prop where
  after_eq : c = after now lines
  effect (i : Nat) (line : List Char) : lines[i]? = some line →
    ∃ fault, Effect now (after now (lines.take i)) line (after now (lines.take (i + 1)) : Configuration H)
        fault
      ∧ ∀ cause, ⟨i + 1, cause⟩ ∈ errors ↔ fault = some cause
  idle (i : Nat) (line : List Char) : lines[i]? = some line → Idle line →
    after now (lines.take (i + 1)) = (after now (lines.take i) : Configuration H)
      ∧ ∀ cause, ⟨i + 1, cause⟩ ∉ errors
  failed (i : Nat) (cause : DirectiveError) : ⟨i + 1, cause⟩ ∈ errors →
    after now (lines.take (i + 1)) = (after now (lines.take i) : Configuration H)
  line_le (e : LineError) : e ∈ errors → 1 ≤ e.line ∧ e.line ≤ lines.length
  increasing : errors.Pairwise (·.line < ·.line)

theorem folds_applyLines (now : Int64) (lines : List (List Char)) :
    Folds now lines (applyLines now 1 (default : Configuration H) lines).1
      (applyLines now 1 (default : Configuration H) lines).2 := by
  have hmem (i : Nat) (cause : DirectiveError) :
      ⟨i + 1, cause⟩ ∈ (applyLines now 1 (default : Configuration H) lines).2 ↔ ∃ line,
        lines[i]? = some line
          ∧ fault? now (after now (lines.take i) : Configuration H) line = some cause := by
    rw [Nat.add_comm i 1]
    exact mem_errors_iff 1 lines i
  refine ⟨fst_applyLines 1 lines, ?_, ?_, ?_, ?_, pairwise_errors 1 lines⟩
  . intro i line hline
    refine ⟨fault? now (after now (lines.take i) : Configuration H) line, ?_, ?_⟩
    . rw [after_take_succ hline]
      exact effect_step now _ line
    . intro cause
      simp [hmem, hline]
  . intro i line hline hidle
    refine ⟨(after_take_succ hline).trans (step_of_idle hidle).1, ?_⟩
    intro cause
    simp [hmem, hline, (step_of_idle hidle).2]
  . intro i cause h
    obtain ⟨line, hline, hfault⟩ := (hmem i cause).mp h
    exact (after_take_succ hline).trans (step_of_fault? hfault)
  . intro e he
    have := line_of_mem_errors 1 lines e he
    omega

/--
Loading a settings file goes line by line, and lines that do nothing can be deleted in any number:
the configuration stays, and so do the errors of the other lines. The configuration always makes
settings, with just its delimiters and its nesting limit.
-/
theorem load_line_by_line (now : Int64) (text : String) :
    let c : Configuration H := (load now text).1
    let errors := (load (H := H) now text).2
    Folds now (Text.lines text.toList) c errors
      ∧ Text.retainLines (fun _ => true) text = text
      ∧ (∀ keep : Nat → Bool,
          (∀ i line, (Text.lines text.toList)[i]? = some line → keep (i + 1) = false →
            Idle line ∨ ∃ cause, ⟨i + 1, cause⟩ ∈ errors) →
          load now (Text.retainLines keep text) = (c, (errors.filter (keep ·.line)).map fun e =>
            ⟨1 + kept keep 1 e.line, e.cause⟩))
      ∧ ∃ s, c.settings now = .ok s ∧ s.delimiters.start = c.start ∧ s.delimiters.stop = c.stop
          ∧ s.maxDepth = c.maxDepth := by
  intro c errors
  have hfolds : Folds now (Text.lines text.toList) c errors := folds_applyLines now _
  refine ⟨hfolds, Text.retainLines_true text, ?_, ?_⟩
  . intro keep h
    rw [load, Text.lines_retainLines]
    apply applyLines_retain keep (Text.lines text.toList) 1 1
    intro i line hline hkeep
    rw [Nat.add_comm] at hkeep
    rcases h i line hline hkeep with hidle | ⟨cause, hcause⟩
    . exact (step_of_idle hidle).1
    . exact (after_take_succ hline).symm.trans (hfolds.failed i cause hcause)
  . apply Usable.settings
    rw [hfolds.after_eq]
    exact usable_default.foldl_step _

theorem load_line_by_line_delimiter :
    let text := "/set start=<%\n; note\n/set end\n/var x=1+1\n"
    let c : Configuration Empty := (load 0 text).1
    load 0 (Text.retainLines (fun n => n == 1 || n == 4) text) = (c, [])
      ∧ (c.bound.get? "x").any (· == .int 2)
      ∧ ∃ s, c.settings 0 = .ok s ∧ s.delimiters.start = "<%" := by
  intro text c
  obtain ⟨-, -, hdelete, s, hs, hstart, -, -⟩ := load_line_by_line (H := Empty) 0 text
  have hlines : Text.lines text.toList = ["/set start=<%".toList, "; note".toList, "/set end".toList,
      "/var x=1+1".toList] := by decide +kernel
  have herrors : (load (H := Empty) 0 text).2 = [⟨3, .noValue "end"⟩] := by decide +kernel
  have hc : c.start = "<%" := by decide +kernel
  refine ⟨?_, by decide +kernel, s, hs, hstart.trans hc⟩
  rw [hdelete, herrors]
  . rfl
  . intro i line hline hkeep
    rw [hlines] at hline
    match i with
    | 0 | 3 => cases hkeep
    | 1 =>
      cases hline
      exact .inl (.comment (by decide +kernel))
    | 2 => exact .inr ⟨.noValue "end", by rw [herrors]; exact List.mem_singleton_self _⟩
    | i + 4 => cases hline

end Configuration

end Stencil
