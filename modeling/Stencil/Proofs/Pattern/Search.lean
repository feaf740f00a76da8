import Stencil.Pattern.Search
import Stencil.Proofs.Outcome
import Stencil.Proofs.Pattern.Compilation

/-!
This module contains the proof that the search finds a match if and only if there is one. Following
the threads at one place explores all instructions that can be reached there: what an explored
instruction leads to is explored as well, or waits to be. A way that is dropped because a preferred
one has been at its instruction is never the only one to a match, therefore.
-/

namespace Stencil

def Instruction.onward (p : Place) : Instruction → List Nat
  | look l next => if l.holds p.before p.after.head? then [next] else []
  | split first second => [first, second]
  | save _ next => [next]
  | char _ _ | matched => []

theorem Instruction.length_onward_le (i : Instruction) (p : Place) : (i.onward p).length ≤ 2 := by
  cases i with
  | look => simp only [onward]; split <;> simp
  | _ => simp [onward]

def Instruction.IsChar (i : Instruction) : Prop :=
  ∃ set next, i = .char set next

namespace Program

variable {program : Program} {pc next n : Nat} {p : Place} {i : Instruction}

theorem accepts_of_onward (hi : program[pc]? = some i) (hnext : next ∈ i.onward p)
    (h : program.Accepts next p) : program.Accepts pc p := by
  cases i with
  | char | matched => simp [Instruction.onward] at hnext
  | look l onward =>
    simp only [Instruction.onward, List.mem_ite_nil_right, List.mem_singleton] at hnext
    obtain ⟨hholds, rfl⟩ := hnext
    exact (accepts_look hi).mpr ⟨hholds, h⟩
  | split first second =>
    simp only [Instruction.onward, List.mem_cons, List.not_mem_nil, or_false] at hnext
    obtain rfl | rfl := hnext
    . exact (accepts_split hi).mpr (.inl h)
    . exact (accepts_split hi).mpr (.inr h)
  | save slot onward =>
    simp only [Instruction.onward, List.mem_singleton] at hnext
    subst hnext
    exact (accepts_save hi).mpr h

theorem AcceptsIn.cases_onward (h : program.AcceptsIn n pc p) :
    ∃ i, program[pc]? = some i ∧ (i = .matched ∨ i.IsChar
      ∨ ∃ m < n, ∃ next ∈ i.onward p, program.AcceptsIn m next p) := by
  cases hi : program[pc]? with
  | none => exact absurd ⟨n, h⟩ (not_accepts_of_none hi)
  | some i =>
    refine ⟨i, rfl, ?_⟩
    cases i with
    | char set next => exact .inr (.inl ⟨set, next, rfl⟩)
    | look l next =>
      obtain ⟨m, rfl, hholds, hm⟩ := (acceptsIn_look hi).mp h
      exact .inr (.inr ⟨m, by omega, next, by simp [Instruction.onward, hholds], hm⟩)
    | split first second =>
      obtain ⟨m, rfl, hm | hm⟩ := (acceptsIn_split hi).mp h
      . exact .inr (.inr ⟨m, by omega, first, by simp [Instruction.onward], hm⟩)
      . exact .inr (.inr ⟨m, by omega, second, by simp [Instruction.onward], hm⟩)
    | save slot next =>
      obtain ⟨m, rfl, hm⟩ := (acceptsIn_save hi).mp h
      exact .inr (.inr ⟨m, by omega, next, by simp [Instruction.onward], hm⟩)
    | matched => exact .inl rfl

end Program

namespace Automaton

variable {program : Program} {p : Place} {pos : Nat} {front : Front} {threads : List Thread}

def Front.Reached (front : Front) (pos pc : Nat) : Prop :=
  front.marks[pc]? = some (pos + 1)

theorem beq_iff_reached {pc : Nat} :
    (front.marks[pc]? == some (pos + 1)) = true ↔ front.Reached pos pc :=
  beq_iff_eq

/--
The instruction has been reached or will be. There is nothing to reach behind the end of a program.
-/
def Seen (program : Program) (pos : Nat) (front : Front) (threads : List Thread) (pc : Nat) : Prop :=
  front.Reached pos pc ∨ (∃ t ∈ threads, t.pc = pc) ∨ program[pc]? = none

structure Explored (program : Program) (p : Place) (pos : Nat) (front : Front)
    (threads : List Thread) : Prop where
  marks_size : front.marks.size = program.size
  onward {pc : Nat} {i : Instruction} (hreached : front.Reached pos pc)
    (hi : program[pc]? = some i) : ∀ next ∈ i.onward p, Seen program pos front threads next
  waits {pc : Nat} {i : Instruction} (hreached : front.Reached pos pc)
    (hi : program[pc]? = some i) (hchar : i.IsChar) : ∃ t ∈ front.waiting, t.pc = pc
  unmatched {pc : Nat} (hreached : front.Reached pos pc) : program[pc]? ≠ some .matched

theorem Explored.waiting_accepts (h : Explored program p pos front []) {pc : Nat}
    (hseen : Seen program pos front [] pc) (haccepts : program.Accepts pc p) :
    ∃ t ∈ front.waiting, program.Accepts t.pc p := by
  obtain ⟨n, hn⟩ := haccepts
  induction n using Nat.strongRecOn generalizing pc with
  | ind n ih =>
    obtain ⟨i, hi, hcases⟩ := hn.cases_onward
    obtain hreached | ⟨t, ht, -⟩ | hnone := hseen
    . obtain rfl | hchar | ⟨m, hm, next, hnext, haccepts⟩ := hcases
      . exact absurd hi (h.unmatched hreached)
      . obtain ⟨t, ht, rfl⟩ := h.waits hreached hi hchar
        exact ⟨t, ht, n, hn⟩
      . exact ih m hm (h.onward hreached hi next hnext) haccepts
    . cases ht
    . simp [hi] at hnone

def Front.mark (front : Front) (pos pc : Nat) : Front :=
  { front with marks := front.marks.setIfInBounds pc (pos + 1) }

theorem reached_mark {pc pc' : Nat} (hpc : pc < front.marks.size) :
    (front.mark pos pc).Reached pos pc' ↔ pc' = pc ∨ front.Reached pos pc' := by
  by_cases heq : pc' = pc
  . simp [Front.Reached, Front.mark, heq, hpc]
  . simp [Front.Reached, Front.mark, heq, Array.getElem?_setIfInBounds_ne (Ne.symm heq)]

@[simp]
theorem Front.size_mark {pc : Nat} : (front.mark pos pc).marks.size = front.marks.size := by
  simp [Front.mark]

theorem Front.le_of_mem_mark {pc : Nat} (h : ∀ m ∈ front.marks, m ≤ pos + 1) :
    ∀ m ∈ (front.mark pos pc).marks, m ≤ pos + 1 := by
  intro m hm
  obtain hmem | rfl := Array.mem_or_eq_of_mem_setIfInBounds hm
  . exact h m hmem
  . exact Nat.le_refl _

def Front.unreached (front : Front) (pos : Nat) : Nat :=
  front.marks.countP (· != pos + 1)

theorem unreached_mark {pc : Nat} (hpc : pc < front.marks.size) (h : ¬ front.Reached pos pc) :
    (front.mark pos pc).unreached pos + 1 = front.unreached pos := by
  have hne : front.marks[pc] ≠ pos + 1 := by simpa [Front.Reached, hpc] using h
  have hpos : 0 < front.marks.countP (· != pos + 1) :=
    Array.countP_pos_iff.mpr ⟨_, Array.getElem_mem hpc, by simpa using hne⟩
  simp only [Front.unreached, Front.mark, Array.setIfInBounds, hpc, dite_true]
  rw [Array.countP_set hpc]
  simp [hne]
  omega

theorem Seen.skip {t : Thread} {pc : Nat} (h : Seen program pos front (t :: threads) pc)
    (ht : Seen program pos front [] t.pc) : Seen program pos front threads pc := by
  obtain hreached | ⟨t', ht', rfl⟩ | hnone := h
  . exact .inl hreached
  . obtain rfl | hrest := List.mem_cons.mp ht'
    . obtain hreached | ⟨_, hnil, _⟩ | hnone := ht
      . exact .inl hreached
      . cases hnil
      . exact .inr (.inr hnone)
    . exact .inr (.inl ⟨t', hrest, rfl⟩)
  . exact .inr (.inr hnone)

theorem Explored.skip {t : Thread} (h : Explored program p pos front (t :: threads))
    (ht : Seen program pos front [] t.pc) : Explored program p pos front threads where
  marks_size := h.marks_size
  onward hreached hi next hnext := (h.onward hreached hi next hnext).skip ht
  waits := h.waits
  unmatched := h.unmatched

section Visit

variable {front' : Front} {t : Thread} {rest threads' : List Thread} {i : Instruction}

theorem Seen.visit {pc : Nat} (h : Seen program pos front (t :: rest) pc)
    (ht : t.pc < front.marks.size) (hmarks : front'.marks = (front.mark pos t.pc).marks)
    (hrest : ∀ t' ∈ rest, t' ∈ threads') : Seen program pos front' threads' pc := by
  have hreached' : ∀ {pc}, (pc = t.pc ∨ front.Reached pos pc) → front'.Reached pos pc := by
    intro pc hpc
    rw [Front.Reached, hmarks]
    exact (reached_mark ht).mpr hpc
  obtain hreached | ⟨t', ht', rfl⟩ | hnone := h
  . exact .inl (hreached' (.inr hreached))
  . obtain rfl | hmem := List.mem_cons.mp ht'
    . exact .inl (hreached' (.inl rfl))
    . exact .inr (.inl ⟨t', hrest t' hmem, rfl⟩)
  . exact .inr (.inr hnone)

theorem Explored.visit (h : Explored program p pos front (t :: rest))
    (hi : program[t.pc]? = some i) (hmatched : i ≠ .matched)
    (hmarks : front'.marks = (front.mark pos t.pc).marks)
    (hwaiting : ∀ w ∈ front.waiting, w ∈ front'.waiting) (hchar : i.IsChar → t ∈ front'.waiting)
    (hrest : ∀ t' ∈ rest, t' ∈ threads')
    (honward : ∀ next ∈ i.onward p, ∃ t' ∈ threads', t'.pc = next) :
    Explored program p pos front' threads' := by
  have ht : t.pc < front.marks.size := by
    rw [h.marks_size]
    exact (Array.getElem?_eq_some_iff.mp hi).1
  have hreached' : ∀ {pc}, front'.Reached pos pc → pc = t.pc ∨ front.Reached pos pc := by
    intro pc hpc
    rw [Front.Reached, hmarks] at hpc
    exact (reached_mark ht).mp hpc
  constructor
  case marks_size => simp [hmarks, Front.mark, h.marks_size]
  case onward =>
    intro pc j hreached hj next hnext
    obtain rfl | hreached := hreached' hreached
    . obtain rfl : i = j := by simpa [hi] using hj
      exact .inr (.inl (honward next hnext))
    . exact (h.onward hreached hj next hnext).visit ht hmarks hrest
  case waits =>
    intro pc j hreached hj hj'
    obtain rfl | hreached := hreached' hreached
    . obtain rfl : i = j := by simpa [hi] using hj
      exact ⟨t, hchar hj', rfl⟩
    . obtain ⟨w, hw, hpc⟩ := h.waits hreached hj hj'
      exact ⟨w, hwaiting w hw, hpc⟩
  case unmatched =>
    intro pc hreached
    obtain rfl | hreached := hreached' hreached
    . simpa [hi] using hmatched
    . exact h.unmatched hreached

end Visit

/--
What visiting the instruction `i` of a thread changes: there are new threads for what the
instruction leads to, and the thread waits if it needs a character.
-/
structure Visit (p : Place) (pos : Nat) (t : Thread) (i : Instruction) (front front' : Front)
    (new : List Thread) : Prop where
  pcs : new.map Thread.pc = i.onward p
  marks : front'.marks = (front.mark pos t.pc).marks
  waits (hchar : i.IsChar) : front'.waiting = t :: front.waiting
  moves (hchar : ¬ i.IsChar) : front'.waiting = front.waiting
  found : front'.found = front.found

theorem follow_visit {fuel : Nat} {t : Thread} {rest : List Thread} {i : Instruction}
    (hunreached : ¬ front.Reached pos t.pc) (hi : program[t.pc]? = some i) (hmatched : i ≠ .matched) :
    ∃ new front', Visit p pos t i front front' new
      ∧ follow program pos p.before p.after.head? (fuel + 1) (t :: rest) front
        = follow program pos p.before p.after.head? fuel (new ++ rest) front' := by
  have hmoves : ∀ {i : Instruction} {new : List Thread}, ¬ i.IsChar →
      new.map Thread.pc = i.onward p → Visit p pos t i front (front.mark pos t.pc) new :=
    fun hchar hpcs => ⟨hpcs, rfl, fun h => absurd h hchar, fun _ => rfl, rfl⟩
  rw [follow, if_neg (mt beq_iff_reached.mp hunreached)]
  cases i with
  | char set next =>
    refine ⟨[], { front.mark pos t.pc with waiting := t :: front.waiting },
      ⟨rfl, rfl, fun _ => rfl, fun h => absurd ⟨set, next, rfl⟩ h, rfl⟩, ?_⟩
    simp only [hi]
    rfl
  | look l next =>
    by_cases hholds : l.holds p.before p.after.head?
    . refine ⟨[{ t with pc := next }], _, hmoves ?_ ?_, ?_⟩
      . simp [Instruction.IsChar]
      . simp [Instruction.onward, hholds]
      . simp only [hi, hholds, if_true]
        rfl
    . refine ⟨[], _, hmoves ?_ ?_, ?_⟩
      . simp [Instruction.IsChar]
      . simp [Instruction.onward, hholds]
      . simp only [hi, hholds]
        rfl
  | split first second =>
    refine ⟨[{ t with pc := first }, { t with pc := second }], _, hmoves ?_ ?_, ?_⟩
    . simp [Instruction.IsChar]
    . simp [Instruction.onward]
    . simp only [hi]
      rfl
  | save slot next =>
    refine ⟨[{ t with pc := next, slots := (slot, pos) :: t.slots }], _, hmoves ?_ ?_, ?_⟩
    . simp [Instruction.IsChar]
    . simp [Instruction.onward]
    . simp only [hi]
      rfl
  | matched => exact absurd rfl hmatched

/--
The threads are followed from one front to the next: one is done with where it leads nowhere new, or
visits an instruction, or has matched.
-/
inductive Follows (program : Program) (p : Place) (pos : Nat) :
    Nat → List Thread → Front → Front → Prop where
  | done (fuel : Nat) (front : Front) : Follows program p pos fuel [] front front
  | stop (t : Thread) (rest : List Thread) (front : Front) :
    Follows program p pos 0 (t :: rest) front front
  | skip {fuel : Nat} {t : Thread} {rest : List Thread} {front result : Front}
    (ht : Seen program pos front [] t.pc) (h : Follows program p pos fuel rest front result) :
    Follows program p pos (fuel + 1) (t :: rest) front result
  | visit {fuel : Nat} {t : Thread} {rest new : List Thread} {front front' result : Front}
    {i : Instruction} (hunreached : ¬ front.Reached pos t.pc) (hi : program[t.pc]? = some i)
    (hmatched : i ≠ .matched) (hvisit : Visit p pos t i front front' new)
    (h : Follows program p pos fuel (new ++ rest) front' result) :
    Follows program p pos (fuel + 1) (t :: rest) front result
  | found (fuel : Nat) {t : Thread} (rest : List Thread) (front : Front)
    (hi : program[t.pc]? = some .matched) :
    Follows program p pos (fuel + 1) (t :: rest) front
      { front.mark pos t.pc with found := some ⟨t.start, pos, t.slots⟩ }

theorem follows (fuel : Nat) (hsize : front.marks.size = program.size) :
    Follows program p pos fuel threads front
      (follow program pos p.before p.after.head? fuel threads front) := by
  induction fuel generalizing threads front with
  | zero =>
    cases threads with
    | nil => exact .done 0 front
    | cons t rest => exact .stop t rest front
  | succ fuel ih =>
    cases threads with
    | nil => exact .done (fuel + 1) front
    | cons t rest =>
      by_cases hreached : front.Reached pos t.pc
      . rw [follow, if_pos (beq_iff_reached.mpr hreached)]
        exact .skip (.inl hreached) (ih hsize)
      . cases hi : program[t.pc]? with
        | none =>
          have hmark : front.mark pos t.pc = front := by
            have hle : front.marks.size ≤ t.pc := by
              rw [hsize]
              exact Array.getElem?_eq_none_iff.mp hi
            simp [Front.mark, Array.setIfInBounds, Nat.not_lt.mpr hle]
          rw [follow, if_neg (mt beq_iff_reached.mp hreached)]
          simp only [hi]
          apply Follows.skip (.inr (.inr hi))
          change Follows program p pos fuel rest front
            (follow program pos p.before p.after.head? fuel rest (front.mark pos t.pc))
          rw [hmark]
          exact ih hsize
        | some i =>
          by_cases hmatched : i = .matched
          . subst hmatched
            rw [follow, if_neg (mt beq_iff_reached.mp hreached)]
            simp only [hi]
            exact .found fuel rest front hi
          . obtain ⟨new, front', hvisit, heq⟩ := follow_visit (p := p) hreached hi hmatched
            rw [heq]
            apply Follows.visit hreached hi hmatched hvisit
            apply ih
            simp [hvisit.marks, Front.mark, hsize]

theorem Visit.pc_mem {t t' : Thread} {i : Instruction} {front' : Front} {new : List Thread}
    (h : Visit p pos t i front front' new) (ht : t' ∈ new) : t'.pc ∈ i.onward p := by
  rw [← h.pcs]
  exact List.mem_map_of_mem ht

theorem Visit.exists_pc {t : Thread} {i : Instruction} {front' : Front} {new : List Thread}
    (h : Visit p pos t i front front' new) {next : Nat} (hnext : next ∈ i.onward p) :
    ∃ t' ∈ new, t'.pc = next := by
  rw [← h.pcs] at hnext
  exact List.mem_map.mp hnext

theorem Visit.waiting_cases {t w : Thread} {i : Instruction} {front' : Front} {new : List Thread}
    (h : Visit p pos t i front front' new) :
    w ∈ front'.waiting ↔ w ∈ front.waiting ∨ (i.IsChar ∧ w = t) := by
  by_cases hchar : i.IsChar
  . rw [h.waits hchar, List.mem_cons]
    simp [hchar, or_comm]
  . simp [h.moves hchar, hchar]

section Follows

variable {fuel : Nat} {result : Front}

theorem Follows.explored (hrun : Follows program p pos fuel threads front result)
    (h : Explored program p pos front threads)
    (hfuel : 2 * front.unreached pos + threads.length ≤ fuel) (hfound : result.found = none) :
    Explored program p pos result []
      ∧ ∀ pc, Seen program pos front threads pc → Seen program pos result [] pc := by
  -- Every thread is followed if the fuel lasts: each step follows one thread less, or reaches an
  -- instruction and follows at most one thread more.
  induction hrun with
  | done fuel front => exact ⟨h, fun _ hpc => hpc⟩
  | stop t rest front => simp at hfuel
  | skip ht hrun ih =>
    simp only [List.length_cons] at hfuel
    obtain ⟨hresult, hseen⟩ := ih (h.skip ht) (by omega) hfound
    exact ⟨hresult, fun pc hpc => hseen pc (hpc.skip ht)⟩
  | @visit fuel t rest new front front' result i hunreached hi hmatched hvisit hrun ih =>
    have ht : t.pc < front.marks.size := by
      rw [h.marks_size]
      exact (Array.getElem?_eq_some_iff.mp hi).1
    have hunreached' : front'.unreached pos + 1 = front.unreached pos := by
      rw [← unreached_mark ht hunreached, Front.unreached, hvisit.marks, Front.unreached]
    have hnew : new.length ≤ 2 := by
      rw [← List.length_map (f := Thread.pc), hvisit.pcs]
      exact Instruction.length_onward_le i p
    have hfuel' : 2 * front'.unreached pos + (new ++ rest).length ≤ fuel := by
      simp only [List.length_cons, List.length_append] at hfuel ⊢
      omega
    have hrest : ∀ t' ∈ rest, t' ∈ new ++ rest := fun _ => List.mem_append_right new
    have hexplored : Explored program p pos front' (new ++ rest) := by
      apply h.visit hi hmatched hvisit.marks
      . exact fun w hw => hvisit.waiting_cases.mpr (.inl hw)
      . exact fun hchar => hvisit.waiting_cases.mpr (.inr ⟨hchar, rfl⟩)
      . exact hrest
      . intro next hnext
        obtain ⟨t', ht', hpc⟩ := hvisit.exists_pc hnext
        exact ⟨t', List.mem_append_left rest ht', hpc⟩
    obtain ⟨hresult, hseen⟩ := ih hexplored hfuel' hfound
    exact ⟨hresult, fun pc hpc => hseen pc (hpc.visit ht hvisit.marks hrest)⟩
  | found => simp at hfound

theorem Follows.sound (hrun : Follows program p pos fuel threads front result) :
    (result.found.isSome → front.found.isSome ∨ ∃ t ∈ threads, program.Accepts t.pc p)
      ∧ ∀ w ∈ result.waiting, w ∈ front.waiting ∨ ((∃ i, program[w.pc]? = some i ∧ i.IsChar)
        ∧ (program.Accepts w.pc p → ∃ t ∈ threads, program.Accepts t.pc p)) := by
  induction hrun with
  | done | stop => exact ⟨.inl, fun _ => .inl⟩
  | skip ht hrun ih =>
    have hskip : ∀ {t : Thread} {rest : List Thread},
        (∃ t' ∈ rest, program.Accepts t'.pc p) → ∃ t' ∈ t :: rest, program.Accepts t'.pc p :=
      fun ⟨t', ht', haccepts⟩ => ⟨t', List.mem_cons_of_mem _ ht', haccepts⟩
    refine ⟨fun hfound => (ih.1 hfound).imp id hskip, fun w hw => (ih.2 w hw).imp id ?_⟩
    exact fun ⟨hchar, haccepts⟩ => ⟨hchar, fun h => hskip (haccepts h)⟩
  | @visit fuel t rest new front front' result i hunreached hi hmatched hvisit hrun ih =>
    have honward : (∃ t' ∈ new ++ rest, program.Accepts t'.pc p) →
        ∃ t' ∈ t :: rest, program.Accepts t'.pc p := by
      rintro ⟨t', ht', haccepts⟩
      obtain hnew | hrest := List.mem_append.mp ht'
      . exact ⟨t, List.mem_cons_self, Program.accepts_of_onward hi (hvisit.pc_mem hnew) haccepts⟩
      . exact ⟨t', List.mem_cons_of_mem t hrest, haccepts⟩
    constructor
    . intro hfound
      rw [← hvisit.found]
      exact (ih.1 hfound).imp id honward
    . intro w hw
      obtain hwaiting | ⟨hchar, haccepts⟩ := ih.2 w hw
      . obtain hbefore | ⟨hchar, rfl⟩ := hvisit.waiting_cases.mp hwaiting
        . exact .inl hbefore
        . exact .inr ⟨⟨i, hi, hchar⟩, fun h => ⟨w, List.mem_cons_self, h⟩⟩
      . exact .inr ⟨hchar, fun h => honward (haccepts h)⟩
  | found fuel rest front hi =>
    exact ⟨fun _ => .inr ⟨_, List.mem_cons_self, Program.accepts_matched hi⟩, fun _ => .inl⟩

theorem Follows.found_of_found (hrun : Follows program p pos fuel threads front result)
    (h : front.found.isSome) : result.found.isSome := by
  induction hrun with
  | done | stop => exact h
  | skip _ _ ih => exact ih h
  | visit _ _ _ hvisit _ ih => exact ih (by rwa [hvisit.found])
  | found => rfl

theorem Follows.marks (hrun : Follows program p pos fuel threads front result)
    (h : ∀ m ∈ front.marks, m ≤ pos + 1) :
    result.marks.size = front.marks.size ∧ ∀ m ∈ result.marks, m ≤ pos + 1 := by
  induction hrun with
  | done | stop => exact ⟨rfl, h⟩
  | skip _ _ ih => exact ih h
  | visit _ _ _ hvisit _ ih =>
    have hmark := hvisit.marks
    obtain ⟨hsize, hle⟩ := ih (by rw [hmark]; exact Front.le_of_mem_mark h)
    exact ⟨by rw [hsize, hmark, Front.size_mark], hle⟩
  | found => exact ⟨Front.size_mark, Front.le_of_mem_mark h⟩

end Follows

section Arrive

variable {a : Automaton} {marks : Array Nat} {best : Option Match}

structure Fresh (a : Automaton) (pos : Nat) (marks : Array Nat) : Prop where
  size : marks.size = a.program.size
  le : ∀ m ∈ marks, m ≤ pos

theorem Fresh.explored (h : Fresh a pos marks) (p : Place) (threads : List Thread)
    (best : Option Match) : Explored a.program p pos ⟨marks, [], best⟩ threads := by
  have hfresh : ∀ {pc}, ¬ Front.Reached ⟨marks, [], best⟩ pos pc := by
    intro pc hreached
    have hle := h.le _ (Array.mem_of_getElem? hreached)
    omega
  exact ⟨h.size, fun hreached => absurd hreached hfresh, fun hreached => absurd hreached hfresh,
    fun hreached => absurd hreached hfresh⟩

def incoming (a : Automaton) (pos : Nat) (threads : List Thread) : List Thread :=
  threads ++ [⟨a.start, pos, []⟩]

theorem accepts_incoming :
    (∃ t ∈ a.incoming pos threads, a.program.Accepts t.pc p)
      ↔ (∃ t ∈ threads, a.program.Accepts t.pc p) ∨ a.program.Accepts a.start p := by
  simp [incoming, or_and_right, exists_or]

theorem Fresh.arrive_follows (h : Fresh a pos marks) (p : Place) (threads : List Thread)
    (best : Option Match) :
    ∃ fuel threads', Follows a.program p pos fuel threads' ⟨marks, [], best⟩
      (a.arrive pos p.before p.after.head? marks threads best) :=
  ⟨_, _, follows _ h.size⟩

theorem Fresh.arrive_none_follows (h : Fresh a pos marks) (p : Place) (threads : List Thread) :
    Follows a.program p pos (2 * a.program.size + (a.incoming pos threads).length + 1)
      (a.incoming pos threads) ⟨marks, [], none⟩
      (a.arrive pos p.before p.after.head? marks threads none) :=
  follows _ h.size

theorem Fresh.arrive (h : Fresh a pos marks) (p : Place) (threads : List Thread)
    (best : Option Match) :
    Fresh a (pos + 1) (a.arrive pos p.before p.after.head? marks threads best).marks := by
  obtain ⟨fuel, threads', hrun⟩ := h.arrive_follows p threads best
  obtain ⟨hsize, hle⟩ := hrun.marks fun m hm => Nat.le_succ_of_le (h.le m hm)
  exact ⟨hsize.trans h.size, hle⟩

theorem Fresh.found_of_best (h : Fresh a pos marks) (p : Place) (threads : List Thread)
    (hbest : best.isSome) :
    (a.arrive pos p.before p.after.head? marks threads best).found.isSome := by
  obtain ⟨fuel, threads', hrun⟩ := h.arrive_follows p threads best
  exact hrun.found_of_found hbest

theorem Fresh.sound (h : Fresh a pos marks)
    (hfound : (a.arrive pos p.before p.after.head? marks threads none).found.isSome) :
    (∃ t ∈ threads, a.program.Accepts t.pc p) ∨ a.program.Accepts a.start p := by
  obtain hbest | haccepts := (h.arrive_none_follows p threads).sound.1 hfound
  . cases hbest
  . exact accepts_incoming.mp haccepts

theorem Fresh.waiting_accepts (h : Fresh a pos marks)
    (hfound : (a.arrive pos p.before p.after.head? marks threads none).found = none) :
    (∃ w ∈ (a.arrive pos p.before p.after.head? marks threads none).waiting,
        a.program.Accepts w.pc p)
      ↔ (∃ t ∈ threads, a.program.Accepts t.pc p) ∨ a.program.Accepts a.start p := by
  have hrun := h.arrive_none_follows p threads
  rw [← accepts_incoming]
  constructor
  . rintro ⟨w, hw, haccepts⟩
    obtain hnil | ⟨-, hlift⟩ := hrun.sound.2 w hw
    . cases hnil
    . exact hlift haccepts
  . rintro ⟨t, ht, haccepts⟩
    have hunreached : Front.unreached ⟨marks, [], none⟩ pos ≤ a.program.size := by
      rw [← h.size]
      exact Array.countP_le_size
    obtain ⟨hexplored, hseen⟩ := hrun.explored (h.explored p _ none) (by omega) hfound
    exact hexplored.waiting_accepts (hseen t.pc (.inr (.inl ⟨t, ht, rfl⟩))) haccepts

theorem Fresh.waiting_char (h : Fresh a pos marks) {w : Thread}
    (hw : w ∈ (a.arrive pos p.before p.after.head? marks threads best).waiting) :
    ∃ set next, a.program[w.pc]? = some (.char set next) := by
  obtain ⟨fuel, threads', hrun⟩ := h.arrive_follows p threads best
  obtain hnil | ⟨⟨i, hi, set, next, rfl⟩, -⟩ := hrun.sound.2 w hw
  . cases hnil
  . exact ⟨set, next, hi⟩

theorem accepts_step {c : Char} {rest : List Char} {waiting : List Thread} (before : Option Char)
    (h : ∀ w ∈ waiting, ∃ set next, program[w.pc]? = some (.char set next)) :
    (∃ t ∈ step program c waiting, program.Accepts t.pc ⟨some c, rest⟩)
      ↔ ∃ w ∈ waiting, program.Accepts w.pc ⟨before, c :: rest⟩ := by
  simp only [step, List.mem_filterMap]
  constructor
  . rintro ⟨t, ⟨w, hw, hstep⟩, haccepts⟩
    obtain ⟨set, next, hi⟩ := h w hw
    simp only [hi, Option.ite_none_right_eq_some, Option.some.injEq] at hstep
    obtain ⟨hset, rfl⟩ := hstep
    exact ⟨w, hw, (Program.accepts_char hi).mpr ⟨c, rest, rfl, hset, haccepts⟩⟩
  . rintro ⟨w, hw, haccepts⟩
    obtain ⟨set, next, hi⟩ := h w hw
    obtain ⟨_, _, heq, hset, haccepts⟩ := (Program.accepts_char hi).mp haccepts
    cases heq
    exact ⟨{ w with pc := next }, ⟨w, hw, by simp [hi, hset]⟩, haccepts⟩

theorem Fresh.searchFrom_of_best (h : Fresh a pos marks) (hbest : best.isSome) (before : Option Char)
    (threads : List Thread) (cs : List Char) :
    (a.searchFrom pos before marks threads best cs).isSome := by
  induction cs generalizing pos before marks threads best with
  | nil => exact h.found_of_best ⟨before, []⟩ threads hbest
  | cons c rest ih =>
    have hfound := h.found_of_best ⟨before, c :: rest⟩ threads hbest
    rw [searchFrom]
    split
    . exact hfound
    . exact ih (h.arrive ⟨before, c :: rest⟩ threads best) hfound _ _

theorem Fresh.searchFrom_isSome (h : Fresh a pos marks) (before : Option Char)
    (threads : List Thread) (cs : List Char) :
    (a.searchFrom pos before marks threads none cs).isSome
      ↔ (∃ t ∈ threads, a.program.Accepts t.pc ⟨before, cs⟩)
        ∨ ∃ q, Place.Later ⟨before, cs⟩ q ∧ a.program.Accepts a.start q := by
  induction cs generalizing pos before marks threads with
  | nil =>
    rw [searchFrom]
    simp only [Place.later_nil, exists_eq_left]
    constructor
    . exact h.sound (p := ⟨before, []⟩)
    . intro haccepts
      cases hfound : (a.arrive pos before none marks threads none).found with
      | some => rfl
      | none =>
        obtain ⟨w, hw, haccepts⟩ := (h.waiting_accepts (p := ⟨before, []⟩) hfound).mpr haccepts
        obtain ⟨set, next, hi⟩ := h.waiting_char (p := ⟨before, []⟩) hw
        obtain ⟨_, _, hafter, -⟩ := (Program.accepts_char hi).mp haccepts
        cases hafter
  | cons c rest ih =>
    have hfresh : Fresh a (pos + 1) (a.arrive pos before (some c) marks threads none).marks :=
      h.arrive ⟨before, c :: rest⟩ threads none
    simp only [Place.later_cons, or_and_right, exists_or, exists_eq_left, ← or_assoc]
    rw [searchFrom]
    by_cases hfound : (a.arrive pos before (some c) marks threads none).found = none
    . have hwaiting := h.waiting_accepts (p := ⟨before, c :: rest⟩) hfound
      have hchar : ∀ w ∈ (a.arrive pos before (some c) marks threads none).waiting.reverse,
          ∃ set next, a.program[w.pc]? = some (.char set next) :=
        fun w hw => h.waiting_char (p := ⟨before, c :: rest⟩) (List.mem_reverse.mp hw)
      simp only [hfound, Option.isSome_none, Bool.and_false, Bool.false_eq_true, if_false]
      rw [ih hfresh, accepts_step before hchar, ← hwaiting]
      simp only [List.mem_reverse, List.head?_cons]
    . have hsome := Option.isSome_iff_ne_none.mpr hfound
      have haccepts := h.sound (p := ⟨before, c :: rest⟩) hsome
      constructor
      . exact fun _ => .inl haccepts
      . intro _
        split
        . exact hsome
        . exact hfresh.searchFrom_of_best hsome _ _ _

end Arrive

theorem search_isSome (a : Automaton) (text : List Char) :
    (a.search 0 none text).isSome
      ↔ ∃ q, Place.Later (.start text) q ∧ a.program.Accepts a.start q := by
  have hfresh : Fresh a 0 (Array.replicate a.program.size 0) :=
    ⟨by simp, by simp⟩
  simpa [search, Place.start] using hfresh.searchFrom_isSome none [] text

end Automaton

namespace Regex

theorem ofText_eq_ok {pattern : List Char} {r : Regex} :
    Regex.ofText pattern = .ok r ↔ ∃ tree groups a, Pattern.read pattern = .ok (tree, groups)
      ∧ Automaton.ofPattern tree = .ok a ∧ r = ⟨a, groups.names⟩ := by
  simp only [ofText, Outcome.bind_eq_ok, Prod.exists, Outcome.pure_eq, Except.ok.injEq]
  constructor
  . rintro ⟨tree, groups, hread, a, ha, rfl⟩
    exact ⟨tree, groups, a, hread, ha, rfl⟩
  . rintro ⟨tree, groups, a, hread, ha, rfl⟩
    exact ⟨tree, groups, hread, a, ha, rfl⟩

theorem isMatch_iff {pattern : List Char} {r : Regex} {tree : Pattern} {groups : Pattern.Groups}
    (h : Regex.ofText pattern = .ok r) (htree : Pattern.read pattern = .ok (tree, groups))
    (text : List Char) : r.isMatch text ↔ tree.OccursIn text := by
  obtain ⟨tree', groups', a, htree', ha, rfl⟩ := ofText_eq_ok.mp h
  obtain ⟨rfl, rfl⟩ : tree = tree' ∧ groups = groups' := by simpa [htree] using htree'
  rw [isMatch, Automaton.search_isSome]
  simp only [Pattern.accepts_iff ha, Pattern.OccursIn]
  constructor
  . rintro ⟨p, hlater, q, hleads⟩
    exact ⟨p, q, hlater, hleads⟩
  . rintro ⟨p, q, hlater, hleads⟩
    exact ⟨p, hlater, q, hleads⟩

end Regex

end Stencil
