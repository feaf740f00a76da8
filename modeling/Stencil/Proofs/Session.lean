import Stencil.Proofs.Cache

/-!
This module contains the proof that nobody who works with an engine can tell that it keeps what it
compiles, that it never keeps more than its capacity, and that what it keeps is told by the operations
alone, for any sequence of them.
-/

namespace Stencil

variable {H : Type}

/--
What an engine can be asked for. An expression or a template that was compiled before is named by the
number of the operation that compiled it.
-/
inductive Operation (H : Type) where
  | run (src : String) (lookup : String → Option (Value H))
  | render (src : String) (lookup : String → Option (Value H))
  | renderWith (d : Delimiters) (src : String) (lookup : String → Option (Value H))
  | compile (src : String)
  | compileTemplate (src : String)
  | compileTemplateWith (d : Delimiters) (src : String)
  | eval (handle : Nat) (lookup : String → Option (Value H))
  | evalTemplate (handle : Nat) (lookup : String → Option (Value H))
  | renderTemplate (handle : Nat) (lookup : String → Option (Value H))
  | clearCache

namespace Operation

def source? : Operation H → Option String
  | run src _ | compile src => some src
  | _ => none

def template? (s : Settings H) : Operation H → Option (Delimiters × String)
  | render src _ | compileTemplate src => some (s.delimiters, src)
  | renderWith d src _ | compileTemplateWith d src => some (d, src)
  | _ => none

def expressionHandle? : Operation H → Option String
  | compile src => some src
  | _ => none

def templateHandle? (s : Settings H) : Operation H → Option (Delimiters × String)
  | compileTemplate src => some (s.delimiters, src)
  | compileTemplateWith d src => some (d, src)
  | _ => none

def expressionRequest? : Operation H → Option (Cache.Request String)
  | clearCache => some .clear
  | op => op.source?.map .value

def templateRequest? (s : Settings H) : Operation H → Option (Cache.Request (Delimiters × String))
  | clearCache => some .clear
  | op => (op.template? s).map .value

variable {op : Operation H} {s : Settings H}

theorem expressionRequest?_of_source? {src : String} (h : op.source? = some src) :
    op.expressionRequest? = some (.value src) := by
  cases op with
  | clearCache => cases h
  | _ => exact congrArg (Option.map Cache.Request.value) h

theorem templateRequest?_of_template? {key : Delimiters × String} (h : op.template? s = some key) :
    op.templateRequest? s = some (.value key) := by
  cases op with
  | clearCache => cases h
  | _ => exact congrArg (Option.map Cache.Request.value) h

theorem expressionRequest?_eq_none (hne : op ≠ .clearCache) (h : op.source? = none) :
    op.expressionRequest? = none := by
  cases op with
  | clearCache => exact absurd rfl hne
  | _ => exact congrArg (Option.map Cache.Request.value) h

theorem templateRequest?_eq_none (hne : op ≠ .clearCache) (h : op.template? s = none) :
    op.templateRequest? s = none := by
  cases op with
  | clearCache => exact absurd rfl hne
  | _ => exact congrArg (Option.map Cache.Request.value) h

end Operation

/--
What comes back. Clearing has no result, and neither has the use of something that was never
compiled.
-/
inductive Response (H : Type) where
  | value (r : Except Error (Value H))
  | text (r : Except Error String)
  | expression (r : Except ParseError (Expression H))
  | template (r : Except ParseError (Template H))
  | none

namespace Response

def expression? : Response H → Option (Except ParseError (Expression H))
  | expression r => some r
  | _ => Option.none

def template? : Response H → Option (Except ParseError (Template H))
  | template r => some r
  | _ => Option.none

end Response

variable [HostObject H]

namespace Settings

def expression (s : Settings H) (src : String) : Except ParseError (Expression H) :=
  (s.parse src).map (⟨·, s.members⟩)

def template (s : Settings H) (key : Delimiters × String) : Except ParseError (Template H) :=
  Template.compile s key.1 key.2

/--
The response to an operation when nothing is kept: a source is compiled afresh wherever it is used,
also when the operation `earlier` that compiled it first is long past.
-/
def respond (s : Settings H) (earlier : List (Operation H)) : Operation H → Response H
  | .run src lookup => .value (Engine.used (s.expression src) (·.eval lookup))
  | .render src lookup => .text (Engine.used (s.template (s.delimiters, src)) (·.render lookup))
  | .renderWith d src lookup => .text (Engine.used (s.template (d, src)) (·.render lookup))
  | .compile src => .expression (s.expression src)
  | .compileTemplate src => .template (s.template (s.delimiters, src))
  | .compileTemplateWith d src => .template (s.template (d, src))
  | .eval handle lookup =>
    match earlier[handle]?.bind (·.expressionHandle?) with
    | some src => .value (Engine.used (s.expression src) (·.eval lookup))
    | none => .none
  | .evalTemplate handle lookup =>
    match earlier[handle]?.bind (·.templateHandle? s) with
    | some key => .value (Engine.used (s.template key) (·.eval lookup))
    | none => .none
  | .renderTemplate handle lookup =>
    match earlier[handle]?.bind (·.templateHandle? s) with
    | some key => .text (Engine.used (s.template key) (·.render lookup))
    | none => .none
  | .clearCache => .none

/--
The sources of expressions that were compiled since the expressions were forgotten last.
-/
def recentExpressions (s : Settings H) (ops : List (Operation H)) : List String :=
  Cache.recent s.parse s.cacheCapacity (ops.filterMap (·.expressionRequest?))

def recentTemplates (s : Settings H) (ops : List (Operation H)) : List (Delimiters × String) :=
  Cache.recent s.template s.cacheCapacity (ops.filterMap (·.templateRequest? s))

end Settings

structure Session (H : Type) where
  engine : Engine H
  responses : List (Response H)

namespace Session

def perform (session : Session H) : Operation H → Response H × Engine H
  | .run src lookup =>
    let (r, engine) := session.engine.run src lookup
    (.value r, engine)
  | .render src lookup =>
    let (r, engine) := session.engine.render src lookup
    (.text r, engine)
  | .renderWith d src lookup =>
    let (r, engine) := session.engine.renderWith d src lookup
    (.text r, engine)
  | .compile src =>
    let (r, engine) := session.engine.compile src
    (.expression r, engine)
  | .compileTemplate src =>
    let (r, engine) := session.engine.compileTemplate src
    (.template r, engine)
  | .compileTemplateWith d src =>
    let (r, engine) := session.engine.compileTemplateWith d src
    (.template r, engine)
  | .eval handle lookup =>
    match session.responses[handle]?.bind Response.expression? with
    | some r => (.value (Engine.used r (·.eval lookup)), session.engine)
    | none => (.none, session.engine)
  | .evalTemplate handle lookup =>
    match session.responses[handle]?.bind Response.template? with
    | some r => (.value (Engine.used r (·.eval lookup)), session.engine)
    | none => (.none, session.engine)
  | .renderTemplate handle lookup =>
    match session.responses[handle]?.bind Response.template? with
    | some r => (.text (Engine.used r (·.render lookup)), session.engine)
    | none => (.none, session.engine)
  | .clearCache => (.none, session.engine.clearCache)

def step (session : Session H) (op : Operation H) : Session H :=
  let (r, engine) := session.perform op
  ⟨engine, session.responses ++ [r]⟩

def after (s : Settings H) (ops : List (Operation H)) : Session H :=
  ops.foldl step ⟨.ofSettings s, []⟩

end Session

namespace Engine

variable {s : Settings H} {ops : List (Operation H)} {op : Operation H} {engine engine' : Engine H}

structure Faithful (s : Settings H) (ops : List (Operation H)) (engine : Engine H) : Prop where
  settings_eq : engine.settings = s
  expressions : engine.expressions.Faithful s.parse s.cacheCapacity
    (ops.filterMap (·.expressionRequest?))
  templates : engine.templates.Faithful s.template s.cacheCapacity
    (ops.filterMap (·.templateRequest? s))

namespace Faithful

theorem ofSettings (s : Settings H) : (ofSettings s).Faithful s [] :=
  ⟨rfl, .empty rfl, .empty rfl⟩

theorem fst_compile (h : engine.Faithful s ops) (src : String) :
    (engine.compile src).1 = s.expression src := by
  simp only [compile, h.settings_eq, h.expressions.fst_compute src]
  rfl

theorem fst_compileTemplateWith (h : engine.Faithful s ops) (d : Delimiters) (src : String) :
    (engine.compileTemplateWith d src).1 = s.template (d, src) := by
  simp only [compileTemplateWith, h.settings_eq]
  exact h.templates.fst_compute (d, src)

theorem fst_run (h : engine.Faithful s ops) (src : String) (lookup : String → Option (Value H)) :
    (engine.run src lookup).1 = used (s.expression src) (·.eval lookup) := by
  simp only [run, h.fst_compile]

theorem fst_render (h : engine.Faithful s ops) (src : String)
    (lookup : String → Option (Value H)) :
    (engine.render src lookup).1 = used (s.template (s.delimiters, src)) (·.render lookup) := by
  simp only [render, renderWith, h.settings_eq, h.fst_compileTemplateWith]

theorem snd_compile {src : String} (h : engine.Faithful s ops)
    (hop : op.expressionRequest? = some (.value src)) (htemplate : op.templateRequest? s = none) :
    (engine.compile src).2.Faithful s (ops ++ [op]) := by
  simp only [compile, h.settings_eq]
  refine ⟨rfl, ?_, ?_⟩
  . rw [List.filterMap_append, List.filterMap_cons_some hop]
    exact h.expressions.snd_compute src
  . simpa [htemplate] using h.templates

theorem snd_run (h : engine.Faithful s ops) (src : String) (lookup : String → Option (Value H)) :
    (engine.run src lookup).2.Faithful s (ops ++ [.run src lookup]) :=
  h.snd_compile rfl rfl

theorem snd_compileTemplateWith {d : Delimiters} {src : String} (h : engine.Faithful s ops)
    (hop : op.templateRequest? s = some (.value (d, src))) (hsource : op.expressionRequest? = none) :
    (engine.compileTemplateWith d src).2.Faithful s (ops ++ [op]) := by
  simp only [compileTemplateWith, h.settings_eq]
  refine ⟨rfl, ?_, ?_⟩
  . simpa [hsource] using h.expressions
  . rw [List.filterMap_append, List.filterMap_cons_some hop]
    exact h.templates.snd_compute (d, src)

theorem append_of_none (h : engine.Faithful s ops) (hsource : op.expressionRequest? = none)
    (htemplate : op.templateRequest? s = none) : engine.Faithful s (ops ++ [op]) where
  settings_eq := h.settings_eq
  expressions := by simpa [hsource] using h.expressions
  templates := by simpa [htemplate] using h.templates

theorem clearCache (h : engine.Faithful s ops) :
    engine.clearCache.Faithful s (ops ++ [.clearCache]) where
  settings_eq := h.settings_eq
  expressions := .empty (by
    rw [List.filterMap_append]
    exact Cache.recent_append_singleton .clear)
  templates := .empty (by
    rw [List.filterMap_append]
    exact Cache.recent_append_singleton .clear)

theorem cached_eq (h : engine.Faithful s ops) : engine.cached
    = ((s.recentExpressions ops).dedup.length, (s.recentTemplates ops).dedup.length) := by
  rw [cached, h.expressions.size_eq, h.templates.size_eq]
  rfl

end Faithful

/--
After the operations `ops` the engine keeps what was compiled recently, each source once, and nothing
else.
-/
structure Keeps (s : Settings H) (ops : List (Operation H)) (engine : Engine H) : Prop where
  expressions : ∀ src, engine.expressions.contains src = true ↔ src ∈ s.recentExpressions ops
  templates : ∀ key, engine.templates.contains key = true ↔ key ∈ s.recentTemplates ops
  cached_eq : engine.cached
    = ((s.recentExpressions ops).dedup.length, (s.recentTemplates ops).dedup.length)

theorem Faithful.keeps (h : engine.Faithful s ops) : Keeps s ops engine where
  expressions := h.expressions.contains_iff
  templates := h.templates.contains_iff
  cached_eq := h.cached_eq

/--
How the numbers of kept expressions and templates change with an operation `op` after `ops`.
-/
structure Evolves (s : Settings H) (ops : List (Operation H)) (op : Operation H)
    (engine engine' : Engine H) : Prop where
  cleared : op = .clearCache → engine'.cached = (0, 0)
  expressions : ∀ src, op.source? = some src →
    Cache.Counts s.cacheCapacity (src ∈ s.recentExpressions ops) (∃ cause, s.parse src = .error cause)
      engine.cached.1 engine'.cached.1
  templates : ∀ key, op.template? s = some key →
    Cache.Counts s.cacheCapacity (key ∈ s.recentTemplates ops)
      (∃ cause, s.template key = .error cause) engine.cached.2 engine'.cached.2
  expressions_kept : op ≠ .clearCache → op.source? = none → engine'.cached.1 = engine.cached.1
  templates_kept : op ≠ .clearCache → op.template? s = none → engine'.cached.2 = engine.cached.2

theorem Faithful.evolves (h : engine.Faithful s ops) (h' : engine'.Faithful s (ops ++ [op])) :
    Evolves s ops op engine engine' := by
  constructor
  . rintro rfl
    simp [h'.cached_eq, Settings.recentExpressions, Settings.recentTemplates,
      Operation.expressionRequest?, Operation.templateRequest?, Cache.recent_append_singleton,
      Cache.recentStep]
  . intro src hsrc
    rw [h.cached_eq, h'.cached_eq, Settings.recentExpressions, Settings.recentExpressions,
      List.filterMap_append,
      List.filterMap_cons_some (Operation.expressionRequest?_of_source? hsrc)]
    exact Cache.counts_recent _ _ _ src
  . intro key hkey
    rw [h.cached_eq, h'.cached_eq, Settings.recentTemplates, Settings.recentTemplates,
      List.filterMap_append,
      List.filterMap_cons_some (Operation.templateRequest?_of_template? hkey)]
    exact Cache.counts_recent _ _ _ key
  . intro hne hnone
    simp [h.cached_eq, h'.cached_eq, Settings.recentExpressions,
      Operation.expressionRequest?_eq_none hne hnone]
  . intro hne hnone
    simp [h.cached_eq, h'.cached_eq, Settings.recentTemplates,
      Operation.templateRequest?_eq_none hne hnone]

end Engine

namespace Session

variable {s : Settings H} {session : Session H} {ops : List (Operation H)}

structure Sound (s : Settings H) (ops : List (Operation H)) (session : Session H) : Prop where
  faithful : session.engine.Faithful s ops
  length_eq : session.responses.length = ops.length
  expression_eq : ∀ handle : Nat, session.responses[handle]?.bind Response.expression?
    = (ops[handle]?.bind (·.expressionHandle?)).map s.expression
  template_eq : ∀ handle : Nat, session.responses[handle]?.bind Response.template?
    = (ops[handle]?.bind (·.templateHandle? s)).map s.template

theorem sound_start (s : Settings H) : Sound s [] ⟨.ofSettings s, []⟩ where
  faithful := .ofSettings s
  length_eq := rfl
  expression_eq := by simp
  template_eq := by simp

theorem Sound.fst_perform (h : session.Sound s ops) (op : Operation H) :
    (session.perform op).1 = s.respond ops op := by
  cases op with
  | run src lookup =>
    simp only [perform, h.faithful.fst_run, Settings.respond]
  | render src lookup =>
    simp only [perform, h.faithful.fst_render, Settings.respond]
  | renderWith d src lookup =>
    simp only [perform, Engine.renderWith, h.faithful.fst_compileTemplateWith, Settings.respond]
  | compile src =>
    simp only [perform, h.faithful.fst_compile, Settings.respond]
  | compileTemplate src =>
    simp only [perform, Engine.compileTemplate, h.faithful.settings_eq,
      h.faithful.fst_compileTemplateWith, Settings.respond]
  | compileTemplateWith d src =>
    simp only [perform, h.faithful.fst_compileTemplateWith, Settings.respond]
  | eval handle lookup =>
    simp only [perform, h.expression_eq, Settings.respond]
    cases ops[handle]?.bind (·.expressionHandle?) <;> rfl
  | evalTemplate handle lookup =>
    simp only [perform, h.template_eq, Settings.respond]
    cases ops[handle]?.bind (·.templateHandle? s) <;> rfl
  | renderTemplate handle lookup =>
    simp only [perform, h.template_eq, Settings.respond]
    cases ops[handle]?.bind (·.templateHandle? s) <;> rfl
  | clearCache => rfl

theorem Sound.snd_perform (h : session.Sound s ops) (op : Operation H) :
    (session.perform op).2.Faithful s (ops ++ [op]) := by
  have hf := h.faithful
  cases op with
  | run src lookup => exact hf.snd_run src lookup
  | compile src => exact hf.snd_compile rfl rfl
  | render src lookup =>
    simp only [perform, Engine.render, Engine.renderWith, hf.settings_eq]
    exact hf.snd_compileTemplateWith rfl rfl
  | renderWith d src lookup => exact hf.snd_compileTemplateWith rfl rfl
  | compileTemplate src =>
    simp only [perform, Engine.compileTemplate, hf.settings_eq]
    exact hf.snd_compileTemplateWith rfl rfl
  | compileTemplateWith d src => exact hf.snd_compileTemplateWith rfl rfl
  | eval handle lookup | evalTemplate handle lookup | renderTemplate handle lookup =>
    simp only [perform]
    split
    all_goals exact hf.append_of_none rfl rfl
  | clearCache => exact hf.clearCache

theorem expression?_respond (s : Settings H) (ops : List (Operation H)) (op : Operation H) :
    (s.respond ops op).expression? = op.expressionHandle?.map s.expression := by
  cases op with
  | eval handle lookup | evalTemplate handle lookup | renderTemplate handle lookup =>
    simp only [Settings.respond]
    split <;> rfl
  | _ => rfl

theorem template?_respond (s : Settings H) (ops : List (Operation H)) (op : Operation H) :
    (s.respond ops op).template? = (op.templateHandle? s).map s.template := by
  cases op with
  | eval handle lookup | evalTemplate handle lookup | renderTemplate handle lookup =>
    simp only [Settings.respond]
    split <;> rfl
  | _ => rfl

theorem Sound.step (h : session.Sound s ops) (op : Operation H) :
    (session.step op).Sound s (ops ++ [op]) := by
  have hresponses : (session.step op).responses = session.responses ++ [s.respond ops op] := by
    rw [← h.fst_perform op]
    rfl
  constructor
  . exact h.snd_perform op
  . simp [hresponses, h.length_eq]
  . intro handle
    rw [hresponses, List.getElem?_append, List.getElem?_append, h.length_eq]
    split
    . exact h.expression_eq handle
    . cases handle - ops.length with
      | zero => exact expression?_respond s ops op
      | succ n => rfl
  . intro handle
    rw [hresponses, List.getElem?_append, List.getElem?_append, h.length_eq]
    split
    . exact h.template_eq handle
    . cases handle - ops.length with
      | zero => exact template?_respond s ops op
      | succ n => rfl

theorem Sound.foldl_step (h : session.Sound s ops) (more : List (Operation H)) :
    (more.foldl Session.step session).Sound s (ops ++ more) := by
  induction more generalizing session ops with
  | nil =>
    rw [List.append_nil]
    exact h
  | cons op more ih =>
    rw [List.append_cons]
    exact ih (h.step op)

theorem sound_after (s : Settings H) (ops : List (Operation H)) : (after s ops).Sound s ops :=
  (sound_start s).foldl_step ops

theorem after_append_singleton (s : Settings H) (ops : List (Operation H)) (op : Operation H) :
    after s (ops ++ [op]) = (after s ops).step op := by
  rw [after, List.foldl_append]
  rfl

/--
Whatever an engine was asked for before, it responds to an operation as if it kept nothing. It keeps
at most as many expressions and templates as its capacity allows, and there is one way only in which
their numbers change. What it keeps is what was compiled since it forgot everything the last time.
-/
theorem caches_invisible (s : Settings H) (ops : List (Operation H)) (op : Operation H) :
    let before := after s ops
    let behind := after s (ops ++ [op])
    behind.responses = before.responses ++ [s.respond ops op]
      ∧ behind.engine.cached.1 ≤ s.cacheCapacity ∧ behind.engine.cached.2 ≤ s.cacheCapacity
      ∧ Engine.Evolves s ops op before.engine behind.engine
      ∧ Engine.Keeps s (ops ++ [op]) behind.engine := by
  intro before behind
  have hbefore : before.Sound s ops := sound_after s ops
  have hbehind : behind.Sound s (ops ++ [op]) := sound_after s (ops ++ [op])
  have hcached := hbehind.faithful.cached_eq
  refine ⟨?_, ?_, ?_, hbefore.faithful.evolves hbehind.faithful, hbehind.faithful.keeps⟩
  . rw [← hbefore.fst_perform op, show behind = before.step op from after_append_singleton s ops op]
    rfl
  . rw [hcached]
    exact Cache.length_dedup_recent_le _ _ _
  . rw [hcached]
    exact Cache.length_dedup_recent_le _ _ _

theorem caches_invisible_again :
    let s : Settings Empty := .default 0
    let op : Operation Empty := .run "1 + 2" fun _ => none
    let behind := after s [op, op]
    behind.responses = [.value (.ok (.int 3)), .value (.ok (.int 3))]
      ∧ behind.engine.cached = (1, 0) := by
  intro s op behind
  obtain ⟨hfirst, _⟩ := caches_invisible s [] op
  obtain ⟨hagain, _, _, _, hkeeps⟩ := caches_invisible s [op] op
  have hrespond : ∀ ops, s.respond ops op = .value (.ok (.int 3)) := by
    intro ops
    cbv
  have hexpressions : (s.recentExpressions [op, op]).dedup.length = 1 := by cbv
  have htemplates : (s.recentTemplates [op, op]).dedup.length = 0 := by cbv
  constructor
  . refine hagain.trans ?_
    rw [hrespond, show (after s [op]).responses = _ from hfirst, hrespond]
    rfl
  . refine hkeeps.cached_eq.trans ?_
    simp only [List.singleton_append, hexpressions, htemplates]

end Session

end Stencil
