import Stencil.Proofs.Parser.Completeness

/-!
This module contains the proof that the parser reads back every expression from the tokens that it is
written as, by induction on the way it is written.
-/

namespace Stencil

open Stencil.Parser

variable {H : Type} {classes : ClassLookup H}

theorem Written.isValuer {e : Expr H} {ts : List Token}
    (h : Written Lexeme classes (.expr e) ts) : e.isValuer = true := by
  generalize hphrase : Phrase.expr e = phrase at h
  induction h generalizing e with
  | group _ ih =>
    cases hphrase
    rw [Expr.isValuer, ih rfl]
  | _ => cases hphrase <;> rfl

theorem Written.not_continues_steps {ss : List (Step H)} {ts more : List Token}
    (h : Written Lexeme classes (.steps ss) ts) (hmore : Stops 10 more) :
    ¬ Begins Continues (ts ++ more) := by
  cases h with
  | noSteps => exact hmore.not_continues
  | _ =>
    rintro ⟨first, rest, ts, heq, hfirst⟩
    cases heq
    revert hfirst
    simp only [Continues]
    decide

theorem Parser.not_begins_of_not_continues {more : List Token} (h : ¬ Begins Continues more) :
    ¬ Begins (· = '(') more :=
  fun hbegins => h (hbegins.mono fun _ => .inl)

theorem Parser.not_closing {first close : Char}
    (h : Symbol.isStart first = true ∨ first = '-' ∨ first = '!') (hclose : close ∈ [')', ']']) :
    first ≠ close := by
  rintro rfl
  simp only [List.mem_cons, List.not_mem_nil, or_false] at hclose
  rcases hclose with rfl | rfl <;> exact absurd h (by decide)

variable [HostObject H]

def Phrase.Understood (classes : ClassLookup H) : Phrase H → List Token → Prop
  | expr e, ts => Parser.Understood classes e ts
  | items es, ts => UnderstoodItems classes es ts
  | key k, ts => ∀ more calls, Stops 10 more → 16 * (ts ++ more).length + 6 ≤ calls →
    Reads (mapKey classes calls) k.fold k.nesting ts more
  | entries es, ts => UnderstoodEntries classes es ts
  | steps ss, ts => ∀ more calls, Stops 10 more → 16 * (ts ++ more).length + 4 ≤ calls →
    Reads (Parser.steps classes calls) (Expr.foldSteps ss) (Expr.nestingSteps ss) ts more

theorem Parser.understoodItems_of_items {es : List (Expr H)} {ts : List Token}
    (hbegins : Begins (fun c => Symbol.isStart c = true ∨ c = '-' ∨ c = '!') ts)
    (h : ∀ close start construct more calls, close ∈ [')', ']'] →
      16 * (ts ++ [close] :: more).length + 9 ≤ calls →
        Reads (items classes calls close start construct) (Expr.foldAll es) (Expr.nestingAll es)
          (ts ++ [[close]]) more) : UnderstoodItems classes es ts where
  items := fun _ => h
  sequence := by
    intro close start construct more calls hclose hcalls
    obtain ⟨calls, rfl, hcalls₁⟩ := exists_succ hcalls
    obtain ⟨first, rest, ts', rfl, hfirst⟩ := hbegins
    apply reads_sequence _ (List.cons_ne_nil _ _)
    . exact h close start construct more calls hclose hcalls₁
    . rintro ⟨_, _, _, heq, hclosing⟩
      cases heq
      exact not_closing hfirst hclose hclosing

theorem Parser.UnderstoodEntries.reads {es : List (Expr H × Expr H)} {ts : List Token}
    (h : UnderstoodEntries classes es ts) (hne : es ≠ []) {start : Nat} {more : List Token}
    {calls : Nat} (hcalls : 16 * (ts ++ ['\x7d'] :: more).length + 9 ≤ calls) :
    Reads (entries classes calls start) (Expr.foldEntries es) (Expr.nestingEntries es)
      (ts ++ [['\x7d']]) more := by
  cases h with
  | none => exact absurd rfl hne
  | colon => exact absurd rfl hne
  | some _ hreads => exact hreads start more calls hcalls

theorem Written.understood {phrase : Phrase H} {ts : List Token}
    (h : Written Lexeme classes phrase ts) : phrase.Understood classes ts := by
  -- Every token is worth 16 calls, so that a part has enough of them if the whole has.
  induction h with
  | literal hv =>
    apply understood_of_primary (Nat.le_refl _) (hv.begins [])
    intro more calls hmore hcalls
    obtain ⟨calls, rfl, _⟩ := exists_succ hcalls
    exact reads_literal hv hmore
  | var hname hkeyword =>
    apply understood_of_primary (Nat.le_refl _) (hname.begins [])
    intro more calls _ hcalls
    obtain ⟨calls, rfl, _⟩ := exists_succ hcalls
    exact reads_var hname hkeyword
  | @unary op operand ts hlevel _ ih =>
    apply understood_of_unary (Nat.le_refl _)
    . intro more calls hstops hcalls
      obtain ⟨calls, rfl, hcalls₁⟩ := exists_succ hcalls
      apply reads_unary
      apply ih.unary hlevel more calls hstops
      rw [List.cons_append, List.length_cons] at hcalls₁
      omega
    . simp [Expr.level]
    . simp [Expr.level]
  | @binary op left right ts ts' hleft hright _ _ ih ih' =>
    have hpos : 0 < op.precedence := by cases op <;> decide
    apply understood_of_spine (e := .binary op left right) hpos (precedence_lt op)
    intro least more calls hleast hstops hcalls
    simp only [List.length_append, List.length_cons] at hcalls
    apply spine_binary hleast
    . apply ih.spine (by omega) least _ calls (Nat.le_trans hleast hleft)
      . exact stops_symbol (by omega) _
      . simp only [List.length_append, List.length_cons]
        omega
    . intro calls' hcalls'
      exact ih'.binary (by omega) (by omega) hstops hcalls'
  | @ternary cond yes no ts ts' ts'' hlevel _ _ _ ih ih' ih'' =>
    constructor
    case expression =>
      intro more calls hcloses hcalls
      obtain ⟨calls, rfl, hcalls₁⟩ := exists_succ hcalls
      simp only [List.length_append, List.length_cons] at hcalls₁
      apply reads_ternary
      . apply ih.binary hlevel (Nat.zero_le _)
        . exact fun _ htok => .inl (by cases htok; decide)
        . simp only [List.length_append, List.length_cons]
          omega
      . apply ih'.expression _ _ (closes_cons (by decide) _)
        simp only [List.length_append, List.length_cons]
        omega
      . apply ih''.expression _ _ hcloses
        rw [List.length_append]
        omega
    all_goals
      intro h
      simp [Expr.level] at h
  | @group inner ts hinner ih =>
    apply understood_of_primary (Nat.le_refl _)
    . exact ⟨'(', [], _, rfl, by decide⟩
    . intro more calls _ hcalls
      obtain ⟨calls, rfl, hcalls₁⟩ := exists_succ hcalls
      apply reads_group ih hinner.isValuer
      simp only [List.cons_append, List.length_append, List.length_cons, List.length_nil] at *
      omega
  | @array es ts _ ih =>
    apply understood_of_primary (Nat.le_refl _)
    . exact ⟨'[', [], _, rfl, by decide⟩
    . intro more calls _ hcalls
      obtain ⟨calls, rfl, hcalls₁⟩ := exists_succ hcalls
      apply reads_array ih
      simp only [List.cons_append, List.length_append, List.length_cons, List.length_nil] at *
      omega
  | @map es ts _ ih =>
    apply understood_of_primary (Nat.le_refl _)
    . exact ⟨'\x7b', [], _, rfl, by decide⟩
    . intro more calls _ hcalls
      obtain ⟨calls, rfl, hcalls₁⟩ := exists_succ hcalls
      apply reads_map ih
      simp only [List.cons_append, List.length_append, List.length_cons, List.length_nil] at *
      omega
  | emptyMap =>
    apply understood_of_primary (Nat.le_refl _)
    . exact ⟨'\x7b', [], _, rfl, by decide⟩
    . intro more calls _ hcalls
      obtain ⟨calls, rfl, hcalls₁⟩ := exists_succ hcalls
      apply reads_map .colon
      simp only [List.cons_append, List.length_append, List.length_cons, List.length_nil] at *
      omega
  | staticField hclass hcls hname =>
    apply understood_of_primary (Nat.le_refl _)
    . exact ⟨'@', [], _, rfl, by decide⟩
    . intro more calls hmore hcalls
      obtain ⟨calls, rfl, hcalls₁⟩ := exists_succ hcalls
      obtain ⟨calls, rfl, _⟩ := exists_succ hcalls₁
      exact reads_staticField hclass hcls hname (not_begins_of_not_continues hmore)
  | staticCall hclass hcls hmethod _ ih =>
    apply understood_of_primary (Nat.le_refl _)
    . exact ⟨'@', [], _, rfl, by decide⟩
    . intro more calls _ hcalls
      obtain ⟨calls, rfl, hcalls₁⟩ := exists_succ hcalls
      obtain ⟨calls, rfl, hcalls₂⟩ := exists_succ hcalls₁
      apply reads_staticCall hclass hcls hmethod ih
      simp only [List.cons_append, List.length_append, List.length_cons, List.length_nil] at *
      omega
  | @chain base ss ts ts' hlevel hne hbase hsteps ih ih' =>
    have hbegins := (hbase.begins_postfixed (by omega)).append ts'
    apply understood_of_postfixed (Nat.le_refl _) hbegins
    . intro more calls hstops hcalls
      obtain ⟨calls, rfl, hcalls₁⟩ := exists_succ hcalls
      simp only [List.length_append] at hcalls₁
      apply reads_chain hne
      . apply ih.primary hlevel _ _ (hsteps.not_continues_steps hstops)
        simp only [List.length_append]
        omega
      . apply ih' more calls hstops
        rw [List.length_append]
        omega
    . simp [Expr.level]
  | noItems =>
    constructor
    . intro close start construct more calls _ hcalls
      obtain ⟨calls, rfl, _⟩ := exists_succ hcalls
      exact reads_noItems
    . exact fun h => absurd rfl h
  | lastItem he ih =>
    apply understoodItems_of_items he.begins
    intro close start construct more calls hclose hcalls
    obtain ⟨calls, rfl, hcalls₁⟩ := exists_succ hcalls
    apply reads_lastItem hclose
    apply ih.expression _ _ (closes_cons _ more) hcalls₁
    simp only [List.mem_cons] at *
    tauto
  | item he _ ih ih' =>
    apply understoodItems_of_items (he.begins.append _)
    intro close start construct more calls hclose hcalls
    obtain ⟨calls, rfl, hcalls₁⟩ := exists_succ hcalls
    simp only [List.length_append, List.length_cons] at hcalls₁
    apply reads_item
    . apply ih.expression _ _ (closes_cons (by decide) _)
      simp only [List.length_append, List.length_cons]
      omega
    . apply ih'.items (List.cons_ne_nil _ _) close start construct more calls hclose
      simp only [List.length_append, List.length_cons]
      omega
  | nameKey hname =>
    intro more calls _ hcalls
    obtain ⟨calls, rfl, _⟩ := exists_succ hcalls
    exact reads_nameKey hname
  | key hlevel hfirst _ ih =>
    intro more calls hstops hcalls
    obtain ⟨calls, rfl, hcalls₁⟩ := exists_succ hcalls
    exact reads_key hfirst (ih.postfixed hlevel more calls hstops hcalls₁)
  | noEntries => exact .none
  | lastEntry hk he ih ih' =>
    apply UnderstoodEntries.some (hk.begins_key.append _)
    intro start more calls hcalls
    obtain ⟨calls, rfl, hcalls₁⟩ := exists_succ hcalls
    simp only [List.length_append, List.length_cons] at hcalls₁
    apply reads_lastEntry he.begins
    . apply ih _ _ ((closes_cons (by decide) _).stops 10)
      simp only [List.length_append, List.length_cons]
      omega
    . apply ih'.expression _ _ (closes_cons (by decide) _)
      simp only [List.length_append, List.length_cons]
      omega
  | entry hk he _ ih ih' ih'' =>
    rw [List.append_assoc]
    apply UnderstoodEntries.some (hk.begins_key.append _)
    intro start more calls hcalls
    obtain ⟨calls, rfl, hcalls₁⟩ := exists_succ hcalls
    simp only [List.cons_append, List.length_append, List.length_cons] at hcalls₁
    rw [← List.append_assoc]
    apply reads_entry he.begins
    . apply ih _ _ ((closes_cons (by decide) _).stops 10)
      simp only [List.length_append, List.length_cons]
      omega
    . apply ih'.expression _ _ (closes_cons (by decide) _)
      simp only [List.length_append, List.length_cons]
      omega
    . apply ih''.reads (List.cons_ne_nil _ _)
      simp only [List.length_append, List.length_cons]
      omega
  | noSteps =>
    intro more calls hstops hcalls
    obtain ⟨calls, rfl, _⟩ := exists_succ hcalls
    exact reads_noSteps hstops
  | property hname hss ih =>
    intro more calls hstops hcalls
    obtain ⟨calls, rfl, hcalls₁⟩ := exists_succ hcalls
    apply reads_property hname (not_begins_of_not_continues (hss.not_continues_steps hstops))
    apply ih more calls hstops
    simp only [List.cons_append, List.length_cons] at hcalls₁
    omega
  | method hname _ _ ih ih' =>
    intro more calls hstops hcalls
    obtain ⟨calls, rfl, hcalls₁⟩ := exists_succ hcalls
    simp only [List.cons_append, List.length_append, List.length_cons] at hcalls₁
    apply reads_method hname ih
    . simp only [List.length_append, List.length_cons]
      omega
    . apply ih' more calls hstops
      rw [List.length_append]
      omega
  | index _ _ ih ih' =>
    intro more calls hstops hcalls
    obtain ⟨calls, rfl, hcalls₁⟩ := exists_succ hcalls
    simp only [List.cons_append, List.length_append, List.length_cons] at hcalls₁
    apply reads_index
    . apply ih.expression _ _ (closes_cons (by decide) _)
      simp only [List.length_append, List.length_cons]
      omega
    . apply ih' more calls hstops
      rw [List.length_append]
      omega

namespace Expr

variable {e : Expr H} {ts : List Token}

theorem reads_source (h : Written Lexeme classes (.expr e) ts) {text : List Char}
    (hlaid : Laid ts text) (limit : Nat) :
    Satisfies (source classes text.length) (Cursor.start text limit)
      (fun a _ => e.fold = .ok a ∧ e.nesting ≤ limit) (Faulty e.fold e.nesting limit) := by
  have hc := Cursor.before_start hlaid limit
  obtain ⟨first, hpeek, _⟩ := peek_of_begins hc h.begins
  have hlength : 16 * (ts ++ []).length + 8 ≤ callBound text.length := by
    have := hlaid.length_le
    rw [callBound, List.append_nil]
    omega
  have hcloses : Closes [] := by
    intro tok htok
    cases htok
  have hexpression := h.understood.expression [] (callBound text.length) hcloses hlength
  rw [source, satisfies_bind, satisfies_nextSignificant, hpeek]
  dsimp only
  rw [if_neg (by simp)]
  have hc' := hc.skipBlanks
  rw [← List.append_nil ts] at hc'
  apply hexpression.bind hc' (by omega) (fun _ hcause => hcause)
  intro r c₁ hr hn hc₁
  rw [satisfies_bind, satisfies_nextSignificant, hc₁.peek_nil, if_neg (by simp)]
  exact ⟨hr, by omega⟩

theorem parse_of_laid (h : Written Lexeme classes (.expr e) ts) {src : String}
    (hlaid : Laid ts src.toList) (limit : Nat) :
    (∃ r, Expr.parse classes limit src = .ok r ∧ e.fold = .ok r ∧ e.nesting ≤ limit)
      ∨ ∃ err, Expr.parse classes limit src = .error err ∧ Faulty e.fold e.nesting limit err := by
  have hsource := reads_source h hlaid limit
  unfold Satisfies at hsource
  rw [Expr.parse]
  dsimp only [StateT.run]
  cases hresult : source classes src.toList.length (Cursor.start src.toList limit) with
  | error err =>
    rw [hresult] at hsource
    exact .inr ⟨err, rfl, hsource⟩
  | ok result =>
    rw [hresult] at hsource
    exact .inl ⟨result.1, rfl, hsource⟩

/--
An expression that is written as tokens, with blanks between any two of them, is read as its folded
tree if the limit leaves room for its nesting. If it does not, or if the folding fails, that is the
error.
-/
theorem parse_spaced (classes : ClassLookup H) (e : Expr H) (ts : List Token) (src : String)
    (limit : Nat) (hwritten : Written Literal classes (.expr e) ts)
    (hspaced : Spaced ts src.toList) :
    (e.nesting ≤ limit →
        (∀ r, e.fold = .ok r → Expr.parse classes limit src = .ok r)
          ∧ ∀ cause, e.fold = .error cause →
            ∃ pos, Expr.parse classes limit src = .error ⟨pos, .constantFold cause⟩)
      ∧ (limit < e.nesting →
        ∃ err, Expr.parse classes limit src = .error err
          ∧ (err.problem = .tooDeep limit
            ∨ ∃ cause, e.fold = .error cause ∧ err.problem = .constantFold cause))
      ∧ e.nesting ≤ ts.length := by
  have hparse := parse_of_laid hwritten.lexemes (hspaced.laid hwritten.lexemes.proper) limit
  refine ⟨?_, ?_, hwritten.nesting_le_length⟩
  . intro hle
    rcases hparse with ⟨r, hr, hfold, _⟩ | ⟨err, herr, ⟨cause, hfold, hproblem⟩ | ⟨hlt, _⟩⟩
    . rw [hfold]
      refine ⟨?_, ?_⟩
      . rintro _ ⟨⟩
        exact hr
      . rintro _ ⟨⟩
    . rw [hfold]
      refine ⟨?_, ?_⟩
      . rintro _ ⟨⟩
      . rintro _ ⟨⟩
        exact ⟨err.pos, by rw [herr, ← hproblem]⟩
    . omega
  . intro hlt
    rcases hparse with ⟨r, _, _, hle⟩ | ⟨err, herr, ⟨cause, hfold, hproblem⟩ | ⟨_, hproblem⟩⟩
    . omega
    . exact ⟨err, herr, .inr ⟨cause, hfold, hproblem⟩⟩
    . exact ⟨err, herr, .inl hproblem⟩

theorem parse_spaced_call :
    let call : Expr Empty := .chain (.var "x") [.method "f" [.const (.str "it's")]]
    let e : Expr Empty := .binary .and call (.unary .not (.const (.bool true)))
    let ts : List Token := ["x".toList, ['.'], "f".toList, ['('], "'it\\'s'".toList, [')'],
      "&&".toList, "!".toList, "true".toList]
    let src := " x . f ( 'it\\'s' ) && ! true"
    Written Literal (fun _ => none) (.expr e) ts ∧ Spaced ts src.toList ∧ e.nesting = 1
      ∧ Expr.parse (fun _ => none) 1 src = .ok (.binary .and call (.const (.bool false))) := by
  intro call e ts src
  have hcall : Written Literal (fun _ => none) (.expr call)
      ["x".toList, ['.'], "f".toList, ['('], "'it\\'s'".toList, [')']] :=
    .chain (Nat.le_refl _) (List.cons_ne_nil _ _) (.var ⟨'x', [], rfl, by decide, by simp⟩ rfl)
      (.method ⟨'f', [], rfl, by decide, by simp⟩
        (.lastItem (.literal (.str '\'' "it's" (.inl rfl)))) .noSteps)
  have hwritten : Written Literal (fun _ => none) (.expr e) ts :=
    .binary (by decide) (by decide) hcall (.unary (by decide) (.literal (.bool true)))
  have hspaced : Spaced ts src.toList := by
    have htext : src.toList = ts.flatMap (' ' :: ·) := by
      decide
    rw [htext]
    exact spaced_flatMap ts
  have hnesting : e.nesting = 1 := by
    rfl
  refine ⟨hwritten, hspaced, hnesting, ?_⟩
  exact ((parse_spaced (fun _ => none) e ts src 1 hwritten hspaced).1 (Nat.le_of_eq hnesting)).1 _ rfl

end Expr

end Stencil
