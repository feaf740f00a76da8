import Stencil.Pattern.Automaton
import Stencil.Proofs.Pattern.Language

/-!
This module contains what an automaton accepts, and the proof that the automaton of a pattern accepts
exactly the texts that the pattern matches. Instructions are only ever added, so a part of a program
is described by what it does in every program that contains it.
-/

namespace Stencil

namespace Program

def AcceptsIn (program : Program) : Nat → Nat → Place → Prop
  | 0, pc, _ => program[pc]? = some .matched
  | n + 1, pc, p =>
    match program[pc]? with
    | some (.char set next) =>
      ∃ c rest, p.after = c :: rest ∧ set.contains c ∧ AcceptsIn program n next ⟨some c, rest⟩
    | some (.look l next) => l.holds p.before p.after.head? ∧ AcceptsIn program n next p
    | some (.split first second) =>
      AcceptsIn program n first p ∨ AcceptsIn program n second p
    | some (.save _ next) => AcceptsIn program n next p
    | some .matched => True
    | none => False

def Accepts (program : Program) (pc : Nat) (p : Place) : Prop :=
  ∃ n, program.AcceptsIn n pc p

variable {program : Program} {n pc next : Nat} {p : Place}

theorem acceptsIn_split {first second : Nat} (h : program[pc]? = some (.split first second)) :
    program.AcceptsIn n pc p
      ↔ ∃ m, n = m + 1 ∧ (program.AcceptsIn m first p ∨ program.AcceptsIn m second p) := by
  cases n <;> simp [AcceptsIn, h]

theorem acceptsIn_look {look : Look} (h : program[pc]? = some (.look look next)) :
    program.AcceptsIn n pc p
      ↔ ∃ m, n = m + 1 ∧ look.holds p.before p.after.head? ∧ program.AcceptsIn m next p := by
  cases n <;> simp [AcceptsIn, h]

theorem acceptsIn_save {slot : Nat} (h : program[pc]? = some (.save slot next)) :
    program.AcceptsIn n pc p ↔ ∃ m, n = m + 1 ∧ program.AcceptsIn m next p := by
  cases n <;> simp [AcceptsIn, h]

theorem acceptsIn_char {set : CharSet} (h : program[pc]? = some (.char set next)) :
    program.AcceptsIn n pc p
      ↔ ∃ m c rest, n = m + 1 ∧ p.after = c :: rest ∧ set.contains c
        ∧ program.AcceptsIn m next ⟨some c, rest⟩ := by
  cases n <;> simp [AcceptsIn, h]

theorem accepts_split {first second : Nat} (h : program[pc]? = some (.split first second)) :
    program.Accepts pc p ↔ program.Accepts first p ∨ program.Accepts second p := by
  simp only [Accepts, acceptsIn_split h]
  constructor
  . rintro ⟨_, m, rfl, hm⟩
    exact hm.imp (⟨m, ·⟩) (⟨m, ·⟩)
  . rintro (⟨m, hm⟩ | ⟨m, hm⟩)
    . exact ⟨_, m, rfl, .inl hm⟩
    . exact ⟨_, m, rfl, .inr hm⟩

theorem accepts_look {look : Look} (h : program[pc]? = some (.look look next)) :
    program.Accepts pc p ↔ look.holds p.before p.after.head? ∧ program.Accepts next p := by
  simp only [Accepts, acceptsIn_look h]
  constructor
  . rintro ⟨_, m, rfl, hholds, hm⟩
    exact ⟨hholds, m, hm⟩
  . rintro ⟨hholds, m, hm⟩
    exact ⟨_, m, rfl, hholds, hm⟩

theorem accepts_save {slot : Nat} (h : program[pc]? = some (.save slot next)) :
    program.Accepts pc p ↔ program.Accepts next p := by
  simp only [Accepts, acceptsIn_save h]
  constructor
  . rintro ⟨_, m, rfl, hm⟩
    exact ⟨m, hm⟩
  . rintro ⟨m, hm⟩
    exact ⟨_, m, rfl, hm⟩

theorem accepts_char {set : CharSet} (h : program[pc]? = some (.char set next)) :
    program.Accepts pc p
      ↔ ∃ c rest, p.after = c :: rest ∧ set.contains c ∧ program.Accepts next ⟨some c, rest⟩ := by
  simp only [Accepts, acceptsIn_char h]
  constructor
  . rintro ⟨_, m, c, rest, rfl, hp, hset, hm⟩
    exact ⟨c, rest, hp, hset, m, hm⟩
  . rintro ⟨c, rest, hp, hset, m, hm⟩
    exact ⟨_, m, c, rest, rfl, hp, hset, hm⟩

theorem accepts_matched (h : program[pc]? = some .matched) : program.Accepts pc p :=
  ⟨0, h⟩

theorem not_accepts_of_none (h : program[pc]? = none) : ¬ program.Accepts pc p := by
  rintro ⟨n, hn⟩
  cases n <;> simp [AcceptsIn, h] at hn

/--
To accept from `start` is to go along the relation first and to accept from `next` then. This takes
no more steps from `next` than from `start`, so that a loop comes to an end.
-/
structure Runs (program : Program) (start : Nat) (leads : Place → Place → Prop) (next : Nat) :
    Prop where
  sound {n : Nat} {p : Place} (h : program.AcceptsIn n start p) :
    ∃ m ≤ n, ∃ q, leads p q ∧ program.AcceptsIn m next q
  complete {p q : Place} (hleads : leads p q) (h : program.Accepts next q) :
    program.Accepts start p

namespace Runs

variable {start mid stop : Nat} {leads leads' : Place → Place → Prop}

theorem iff_exists (h : program.Runs start leads next) :
    program.Accepts start p ↔ ∃ q, leads p q ∧ program.Accepts next q := by
  constructor
  . rintro ⟨n, hn⟩
    obtain ⟨m, -, q, hleads, hm⟩ := h.sound hn
    exact ⟨q, hleads, m, hm⟩
  . rintro ⟨q, hleads, hq⟩
    exact h.complete hleads hq

theorem congr (h : program.Runs start leads next) (heq : ∀ p q, leads p q ↔ leads' p q) :
    program.Runs start leads' next where
  sound hn := by simpa only [heq] using h.sound hn
  complete hleads := h.complete ((heq _ _).mpr hleads)

theorem refl (program : Program) (start : Nat) : program.Runs start (· = ·) start where
  sound hn := ⟨_, Nat.le_refl _, _, rfl, hn⟩
  complete := by
    rintro p _ rfl h
    exact h

theorem trans (h : program.Runs start leads mid) (h' : program.Runs mid leads' stop) :
    program.Runs start (fun p q => ∃ m, leads p m ∧ leads' m q) stop where
  sound hn := by
    obtain ⟨m, hm, o, hleads, ho⟩ := h.sound hn
    obtain ⟨l, hl, q, hleads', hq⟩ := h'.sound ho
    exact ⟨l, by omega, q, ⟨o, hleads, hleads'⟩, hq⟩
  complete := by
    rintro p q ⟨o, hleads, hleads'⟩ hq
    exact h.complete hleads (h'.complete hleads' hq)

theorem split {first second : Nat} (h : program[start]? = some (.split first second))
    (hfirst : program.Runs first leads next) (hsecond : program.Runs second leads' next) :
    program.Runs start (fun p q => leads p q ∨ leads' p q) next where
  sound hn := by
    obtain ⟨m, rfl, hm | hm⟩ := (acceptsIn_split h).mp hn
    . obtain ⟨l, hl, q, hleads, hq⟩ := hfirst.sound hm
      exact ⟨l, by omega, q, .inl hleads, hq⟩
    . obtain ⟨l, hl, q, hleads, hq⟩ := hsecond.sound hm
      exact ⟨l, by omega, q, .inr hleads, hq⟩
  complete := by
    rintro p q (hleads | hleads) hq
    . exact (accepts_split h).mpr (.inl (hfirst.complete hleads hq))
    . exact (accepts_split h).mpr (.inr (hsecond.complete hleads hq))

theorem save {slot : Nat} (h : program[start]? = some (.save slot next)) :
    program.Runs start (· = ·) next where
  sound hn := by
    obtain ⟨m, rfl, hm⟩ := (acceptsIn_save h).mp hn
    exact ⟨m, by omega, _, rfl, hm⟩
  complete := by
    rintro p _ rfl hq
    exact (accepts_save h).mpr hq

theorem look {l : Look} (h : program[start]? = some (.look l next)) :
    program.Runs start (Pattern.look l).Leads next where
  sound hn := by
    obtain ⟨m, rfl, hholds, hm⟩ := (acceptsIn_look h).mp hn
    exact ⟨m, by omega, _, ⟨hholds, rfl⟩, hm⟩
  complete := by
    rintro p _ ⟨hholds, rfl⟩ hq
    exact (accepts_look h).mpr ⟨hholds, hq⟩

theorem char {set : CharSet} (h : program[start]? = some (.char set next)) :
    program.Runs start (Pattern.char set).Leads next where
  sound hn := by
    obtain ⟨m, c, rest, rfl, hp, hset, hm⟩ := (acceptsIn_char h).mp hn
    exact ⟨m, by omega, ⟨some c, rest⟩, ⟨c, hset, hp, rfl⟩, hm⟩
  complete := by
    rintro p ⟨_, rest⟩ ⟨c, hset, hp, rfl⟩ hq
    exact (accepts_char h).mpr ⟨c, rest, hp, hset, hq⟩

end Runs

end Program

namespace Pattern

open Program

def IsBranch (program : Program) (pc body exit : Nat) : Prop :=
  ∃ greedy, program[pc]? = some (branch greedy body exit)

variable {program : Program} {pc body exit : Nat} {leads : Place → Place → Prop}

theorem IsBranch.acceptsIn {n : Nat} {p : Place} (h : IsBranch program pc body exit)
    (hn : program.AcceptsIn n pc p) :
    ∃ m < n, program.AcceptsIn m body p ∨ program.AcceptsIn m exit p := by
  obtain ⟨greedy, h⟩ := h
  cases greedy with
  | true =>
    obtain ⟨m, rfl, hm⟩ := (acceptsIn_split h).mp hn
    exact ⟨m, by omega, hm⟩
  | false =>
    obtain ⟨m, rfl, hm⟩ := (acceptsIn_split h).mp hn
    exact ⟨m, by omega, hm.symm⟩

theorem IsBranch.accepts {p : Place} (h : IsBranch program pc body exit) :
    program.Accepts pc p ↔ program.Accepts body p ∨ program.Accepts exit p := by
  obtain ⟨greedy, h⟩ := h
  cases greedy with
  | true => exact accepts_split h
  | false => exact (accepts_split h).trans or_comm

theorem IsBranch.runs {next : Nat} {leads' : Place → Place → Prop}
    (h : IsBranch program pc body exit) (hbody : program.Runs body leads next)
    (hexit : program.Runs exit leads' next) :
    program.Runs pc (fun p q => leads p q ∨ leads' p q) next := by
  obtain ⟨greedy, h⟩ := h
  cases greedy with
  | true => exact .split h hbody hexit
  | false => exact (Runs.split h hexit hbody).congr fun p q => or_comm

theorem IsBranch.loop (h : IsBranch program pc body exit) (hbody : program.Runs body leads pc) :
    program.Runs pc (fun p q => ∃ n, Times leads n p q) exit where
  sound {n p} hn := by
  -- A branch whose body leads back to it goes round any number of times.
    induction n using Nat.strongRecOn generalizing p with
    | ind n ih =>
      obtain ⟨m, hm, hbranch | hbranch⟩ := h.acceptsIn hn
      . obtain ⟨l, hl, o, hleads, ho⟩ := hbody.sound hbranch
        obtain ⟨k, hk, q, ⟨times, htimes⟩, hq⟩ := ih l (by omega) ho
        exact ⟨k, by omega, q, ⟨times + 1, o, hleads, htimes⟩, hq⟩
      . exact ⟨m, by omega, p, ⟨0, rfl⟩, hbranch⟩
  complete {p q} := by
    rintro ⟨n, htimes⟩ hq
    induction n generalizing p with
    | zero =>
      obtain rfl : p = q := htimes
      exact h.accepts.mpr (.inr hq)
    | succ n ih =>
      obtain ⟨o, hleads, htimes⟩ := htimes
      exact h.accepts.mpr (.inl (hbody.complete hleads (ih htimes)))

theorem IsBranch.loop_once (h : IsBranch program pc body exit)
    (hbody : program.Runs body leads pc) :
    program.Runs body (fun p q => ∃ n, Times leads (n + 1) p q) exit := by
  apply (hbody.trans (h.loop hbody)).congr
  intro p q
  constructor
  . rintro ⟨o, hleads, n, htimes⟩
    exact ⟨n, o, hleads, htimes⟩
  . rintro ⟨n, o, hleads, htimes⟩
    exact ⟨o, hleads, n, htimes⟩

structure Grows (program program' : Program) : Prop where
  size_le : program.size ≤ program'.size
  kept {i : Nat} (h : i < program.size) : program'[i]? = program[i]?

namespace Grows

variable {program program' program'' : Program}

theorem refl (program : Program) : Grows program program :=
  ⟨Nat.le_refl _, fun _ => rfl⟩

theorem trans (h : Grows program program') (h' : Grows program' program'') :
    Grows program program'' where
  size_le := Nat.le_trans h.size_le h'.size_le
  kept hi := (h'.kept (Nat.lt_of_lt_of_le hi h.size_le)).trans (h.kept hi)

theorem push (program : Program) (i : Instruction) : Grows program (program.push i) where
  size_le := by simp
  kept hi := by simp [Array.getElem?_push, Nat.ne_of_lt hi]

theorem set (h : Grows program program') {i : Nat} (hi : program.size ≤ i)
    (instruction : Instruction) : Grows program (program'.setIfInBounds i instruction) where
  size_le := by simpa using h.size_le
  kept hj := by rw [Array.getElem?_setIfInBounds_ne (by omega), h.kept hj]

end Grows

def Holds (whole part : Program) (start : Nat) : Prop :=
  ∀ i, start ≤ i → i < part.size → whole[i]? = part[i]?

section Holds

variable {whole program' program'' : Program} {start : Nat}

theorem Holds.before (h : Holds whole program'' start) (hgrows : Grows program' program'') :
    Holds whole program' start := by
  intro i hstart hi
  rw [h i hstart (Nat.lt_of_lt_of_le hi hgrows.size_le), hgrows.kept hi]

theorem Holds.behind (h : Holds whole program'' start) (hle : start ≤ program'.size) :
    Holds whole program'' program'.size :=
  fun i hi => h i (Nat.le_trans hle hi)

theorem Holds.last {i : Instruction} (h : Holds whole (program'.push i) start)
    (hle : start ≤ program'.size) : whole[program'.size]? = some i := by
  rw [h program'.size hle (by simp)]
  simp

end Holds

/--
The result of adding to a program what goes along a relation to `next`: the start of it and the
longer program.
-/
structure Adds (leads : Place → Place → Prop) (next : Nat) (program : Program)
    (result : Nat × Program) : Prop where
  grows : Grows program result.2
  runs {whole : Program} (h : Holds whole result.2 program.size) :
    whole.Runs result.1 leads next

namespace Adds

variable {leads leads' : Place → Place → Prop} {next mid start : Nat}
  {program program' : Program} {result : Nat × Program}

theorem congr (h : Adds leads next program result) (heq : ∀ p q, leads p q ↔ leads' p q) :
    Adds leads' next program result where
  grows := h.grows
  runs hwhole := (h.runs hwhole).congr heq

theorem refl (next : Nat) (program : Program) : Adds (· = ·) next program (next, program) where
  grows := .refl program
  runs _ := .refl _ _

theorem trans (h : Adds leads next program (mid, program'))
    (h' : Adds leads' mid program' result) :
    Adds (fun p q => ∃ m, leads' p m ∧ leads m q) next program result where
  grows := h.grows.trans h'.grows
  runs hwhole := (h'.runs (hwhole.behind h.grows.size_le)).trans (h.runs (hwhole.before h'.grows))

theorem push (h : Adds leads next program (start, program')) {i : Instruction}
    (hruns : ∀ whole : Program, whole[program'.size]? = some i →
      whole.Runs start leads next → whole.Runs program'.size leads' next) :
    Adds leads' next program (program'.size, program'.push i) where
  grows := h.grows.trans (.push program' i)
  runs hwhole :=
    hruns _ (hwhole.last h.grows.size_le) (h.runs (hwhole.before (.push program' i)))

theorem split {second : Nat} {program'' : Program} (h : Adds leads next program (second, program'))
    (h' : Adds leads' next program' (start, program'')) :
    Adds (fun p q => leads' p q ∨ leads p q) next program
      (program''.size, program''.push (.split start second)) where
  grows := (h.grows.trans h'.grows).trans (.push _ _)
  runs hwhole := by
    have hbefore := hwhole.before (.push _ _)
    have hsplit := hwhole.last (h.grows.trans h'.grows).size_le
    exact .split hsplit (h'.runs (hbefore.behind h.grows.size_le))
      (h.runs (hbefore.before h'.grows))

end Adds

section Parts

variable {part : Nat → Program → Nat × Program} {greedy : Bool}

def IsPart (part : Nat → Program → Nat × Program) (leads : Place → Place → Prop) : Prop :=
  ∀ next program, Adds leads next program (part next program)

theorem adds_copies (hpart : IsPart part leads) (n next : Nat) (program : Program) :
    Adds (Times leads n) next program (copies part n next program) := by
  induction n generalizing next program with
  | zero => exact .refl next program
  | succ n ih =>
    apply ((hpart next program).trans (ih _ _)).congr
    intro p q
    exact times_succ.symm

theorem grows_options (hpart : IsPart part leads) (greedy : Bool) (exit n next : Nat)
    (program : Program) :
    Grows program (options part greedy exit n next program).2 := by
  induction n generalizing next program with
  | zero => exact .refl program
  | succ n ih => exact ((hpart next program).grows.trans (.push _ _)).trans (ih _ _)

theorem runs_options {whole : Program} (hpart : IsPart part leads) {exit n next : Nat}
    {rest : Place → Place → Prop} (hrest : whole.Runs next rest exit)
    (hwhole : Holds whole (options part greedy exit n next program).2 program.size) :
    whole.Runs (options part greedy exit n next program).1
      (fun p q => (∃ m, Times leads n p m ∧ rest m q) ∨ ∃ k < n, Times leads k p q) exit := by
  induction n generalizing next program rest with
  | zero =>
    apply hrest.congr
    simp [Times]
  | succ n ih =>
    have hadds := hpart next program
    have hgrows : Grows ((part next program).2.push (branch greedy (part next program).1 exit)) _ :=
      grows_options hpart greedy exit n (part next program).2.size _
    have hpushed := hwhole.before hgrows
    have hbranch : IsBranch whole (part next program).2.size (part next program).1 exit :=
      ⟨greedy, hpushed.last hadds.grows.size_le⟩
    have hbody := hadds.runs (hpushed.before (.push _ _))
    have hstart : whole.Runs (part next program).2.size
        (fun p q => (∃ m, leads p m ∧ rest m q) ∨ p = q) exit :=
      hbranch.runs (hbody.trans hrest) (.refl _ _)
    apply (ih hstart (hwhole.behind (hadds.grows.trans (.push _ _)).size_le)).congr
    intro p q
    constructor
    . rintro (⟨o, htimes, ⟨m, hleads, hrest⟩ | rfl⟩ | ⟨k, hk, htimes⟩)
      . exact .inl ⟨m, times_succ.mpr ⟨o, htimes, hleads⟩, hrest⟩
      . exact .inr ⟨n, by omega, htimes⟩
      . exact .inr ⟨k, by omega, htimes⟩
    . rintro (⟨m, htimes, hrest⟩ | ⟨k, hk, htimes⟩)
      . obtain ⟨o, htimes, hleads⟩ := times_succ.mp htimes
        exact .inl ⟨o, htimes, .inl ⟨m, hleads, hrest⟩⟩
      . obtain rfl | hlt : k = n ∨ k < n := by omega
        . exact .inl ⟨q, htimes, .inr rfl⟩
        . exact .inr ⟨k, hlt, htimes⟩

theorem adds_options (hpart : IsPart part leads) (n next : Nat) (program : Program) :
    Adds (fun p q => ∃ k ≤ n, Times leads k p q) next program
      (options part greedy next n next program) where
  grows := grows_options hpart greedy next n next program
  runs hwhole := by
    apply (runs_options hpart (.refl _ _) hwhole).congr
    intro p q
    simp only [exists_eq_right, Nat.le_iff_lt_or_eq, or_and_right, exists_or, exists_eq_left]
    exact or_comm

theorem loop_spec (hpart : IsPart part leads) (next : Nat) (program : Program) :
    Grows program (oneOrMore part greedy next program).2
      ∧ ∀ whole : Program, Holds whole (oneOrMore part greedy next program).2 program.size →
        IsBranch whole program.size (oneOrMore part greedy next program).1 next
          ∧ whole.Runs (oneOrMore part greedy next program).1 leads program.size := by
  -- The body of a loop, whose branch takes the place of the first instruction added.
  have hadds := hpart program.size (program.push .matched)
  have hsize := hadds.grows.size_le
  simp only [Array.size_push] at hsize
  refine ⟨((Grows.push program _).trans hadds.grows).set (Nat.le_refl _) _, ?_⟩
  intro whole hwhole
  constructor
  . refine ⟨greedy, ?_⟩
    rw [hwhole program.size (Nat.le_refl _) (by simp [oneOrMore]; omega)]
    exact Array.getElem?_setIfInBounds_self_of_lt (by omega)
  . apply hadds.runs
    intro i hi hlt
    simp only [Array.size_push] at hi
    rw [hwhole i (by omega) (by simpa [oneOrMore] using hlt)]
    exact Array.getElem?_setIfInBounds_ne (by omega)

theorem adds_oneOrMore (hpart : IsPart part leads) (next : Nat) (program : Program) :
    Adds (fun p q => ∃ n, Times leads (n + 1) p q) next program
      (oneOrMore part greedy next program) where
  grows := (loop_spec hpart next program).1
  runs hwhole :=
    let ⟨hbranch, hbody⟩ := (loop_spec hpart next program).2 _ hwhole
    hbranch.loop_once hbody

theorem adds_zeroOrMore (hpart : IsPart part leads) (nullable : Bool) (next : Nat)
    (program : Program) :
    Adds (fun p q => ∃ n, Times leads n p q) next program
      (zeroOrMore part nullable greedy next program) := by
  cases nullable with
  | true =>
    -- A branch in front of the loop leaves out the first time round as well.
    apply (adds_oneOrMore hpart next program).push
    intro whole hinstruction hruns
    have hbranch : IsBranch whole _ _ next := ⟨greedy, hinstruction⟩
    apply (hbranch.runs hruns (.refl _ _)).congr
    intro p q
    constructor
    . rintro (⟨n, htimes⟩ | heq)
      . exact ⟨n + 1, htimes⟩
      . exact ⟨0, heq⟩
    . rintro ⟨n, htimes⟩
      cases n with
      | zero => exact .inr htimes
      | succ n => exact .inl ⟨n, htimes⟩
  | false =>
    refine ⟨(loop_spec hpart next program).1, fun hwhole => ?_⟩
    obtain ⟨hbranch, hbody⟩ := (loop_spec hpart next program).2 _ hwhole
    exact hbranch.loop hbody

end Parts

theorem adds_repeated {body : Pattern} (hbody : IsPart body.compile body.Leads) (least : Nat)
    (most : Option Nat) (greedy : Bool) :
    IsPart (repeated body least most greedy).compile (repeated body least most greedy).Leads := by
  intro next program
  cases most with
  | some most =>
    rw [compile]
    apply ((adds_options hbody (most - least) next program).trans
      (adds_copies hbody least _ _)).congr
    intro p q
    simp only [Leads, Option.mem_some_iff, forall_eq']
    constructor
    . rintro ⟨m, hcopies, k, hk, hoptions⟩
      exact ⟨least + k, by omega, by omega, times_add.mpr ⟨m, hcopies, hoptions⟩⟩
    . rintro ⟨n, hleast, hmost, htimes⟩
      obtain ⟨k, rfl⟩ := Nat.exists_eq_add_of_le hleast
      obtain ⟨m, hcopies, hoptions⟩ := times_add.mp htimes
      exact ⟨m, hcopies, k, by omega, hoptions⟩
  | none =>
    rw [compile]
    split
    . next hleast =>
      apply (adds_zeroOrMore hbody body.isNullable next program).congr
      simp_all [Leads]
    . next hleast =>
      apply ((adds_oneOrMore hbody next program).trans (adds_copies hbody (least - 1) _ _)).congr
      intro p q
      simp only [beq_iff_eq] at hleast
      simp only [Leads, Option.mem_def, reduceCtorEq, false_implies, implies_true, true_and]
      constructor
      . rintro ⟨m, hcopies, k, hloop⟩
        exact ⟨least - 1 + (k + 1), by omega, times_add.mpr ⟨m, hcopies, hloop⟩⟩
      . rintro ⟨n, hn, htimes⟩
        obtain ⟨k, rfl⟩ : ∃ k, n = least - 1 + (k + 1) := ⟨n - least, by omega⟩
        obtain ⟨m, hcopies, hloop⟩ := times_add.mp htimes
        exact ⟨m, hcopies, k, hloop⟩

theorem adds_compile (pattern : Pattern) : IsPart pattern.compile pattern.Leads := by
  induction pattern with
  | empty => exact fun next program => .refl next program
  | char set =>
    intro next program
    exact (Adds.refl next program).push fun _ h _ => .char h
  | look l =>
    intro next program
    exact (Adds.refl next program).push fun _ h _ => .look h
  | cat first second hfirst hsecond =>
    intro next program
    exact (hsecond next program).trans (hfirst _ _)
  | alt left right hleft hright =>
    intro next program
    exact (hright next program).split (hleft next _)
  | repeated body least most greedy hbody => exact adds_repeated hbody least most greedy
  | capture index body hbody =>
    intro next program
    have hclose : Adds (· = ·) next program
        (program.size, program.push (.save (2 * index + 1) next)) :=
      (Adds.refl next program).push fun _ h _ => .save h
    apply (hclose.trans (hbody _ _)).push
    intro whole h hruns
    apply ((Runs.save h).trans hruns).congr
    simp [Leads]

theorem accepts_iff {pattern : Pattern} {a : Automaton} {p : Place}
    (h : Automaton.ofPattern pattern = .ok a) :
    a.program.Accepts a.start p ↔ ∃ q, pattern.Leads p q := by
  rw [Automaton.ofPattern] at h
  split at h
  . cases h
  . cases h
    have hadds := adds_compile pattern 0 #[.matched]
    have hmatched : (pattern.compile 0 #[.matched]).2[0]? = some .matched :=
      hadds.grows.kept (by simp)
    rw [(hadds.runs fun _ _ _ => rfl).iff_exists]
    simp [accepts_matched hmatched]

end Pattern

end Stencil
