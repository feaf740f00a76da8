import Stencil.Proofs.Pattern.Reading

/-!
This module contains the proof that escape sequences are read alike from a pattern alone and from one
with a trailer.
-/

namespace Stencil

open Outcome

namespace Pattern

open Reader

variable {α : Type} {k : Nat} (flags : Flags)

theorem hexDigits_succ (count : Nat) (digits : List Char) :
    hexDigits flags (count + 1) digits
      = fun cs => take .invalidEscape (fun c => hexDigits flags count (c :: digits))
        (flags.skip cs) := by
  funext cs
  cases h : flags.skip cs <;> simp [hexDigits, h]

theorem agrees_hexDigits (count : Nat) (digits : List Char) :
    Agrees never k (hexDigits flags count digits) (hexDigits flags count digits) := by
  induction count generalizing k digits with
  | zero => exact .value fun c => .skip flags (.pure c)
  | succ count ih =>
    rw [hexDigits_succ]
    exact .skip flags (.take (fun c => (ih (k := k) _).shortens) fun c _ => ih _)

theorem untilBrace_go_zero :
    untilBrace.go flags 0
      = ifHead '\x7d' (fun rest => .ok ([], rest)) (fun _ => .error .invalidEscape) := by
  funext cs
  cases cs with
  | nil => simp [untilBrace.go]
  | cons c rest => by_cases hc : c = '\x7d' <;> simp [untilBrace.go, hc]

theorem untilBrace_go_succ (fuel : Nat) :
    untilBrace.go flags (fuel + 1)
      = ifHead '\x7d' (fun rest => .ok ([], rest)) (take .invalidEscape fun c rest =>
          untilBrace.go flags fuel (flags.skip rest) >>= fun r => .ok (c :: r.1, r.2)) := by
  funext cs
  cases cs with
  | nil => simp [untilBrace.go]
  | cons c rest => by_cases hc : c = '\x7d' <;> simp [untilBrace.go, hc]

theorem shortens_untilBrace_go (fuel : Nat) : Shortens (untilBrace.go flags fuel) := by
  induction fuel with
  | zero =>
    rw [untilBrace_go_zero]
    exact .ifHead (.pure []) (.error _)
  | succ fuel ih =>
    rw [untilBrace_go_succ]
    apply Shortens.ifHead (.pure [])
    apply Shortens.take
    exact fun c => (ih.after (skip_suffix flags)).bind fun text => .pure (c :: text)

theorem agrees_untilBrace_go {fuel fuel' : Nat} (hk : k ≤ fuel) (hfuel : fuel ≤ fuel') :
    Agrees never k (untilBrace.go flags fuel) (untilBrace.go flags fuel') := by
  induction fuel generalizing k fuel' with
  | zero =>
    obtain rfl : k = 0 := by omega
    rw [untilBrace_go_zero]
    cases fuel' with
    | zero =>
      rw [untilBrace_go_zero]
      exact .ifHead (by decide) (.pure []) (.error _)
    | succ fuel' =>
      rw [untilBrace_go_succ]
      apply Agrees.ifHead (by decide) (.pure [])
      apply Agrees.exhausted
      exact fun c => ((shortens_untilBrace_go flags fuel').after (skip_suffix flags)).bind
        fun text => .pure (c :: text)
  | succ fuel ih =>
    obtain ⟨fuel', rfl⟩ : ∃ n, fuel' = n + 1 := ⟨fuel' - 1, by omega⟩
    rw [untilBrace_go_succ, untilBrace_go_succ]
    apply Agrees.ifHead (by decide) (.pure [])
    apply Agrees.take
    . exact fun c => ((shortens_untilBrace_go flags fuel').after (skip_suffix flags)).bind
        fun text => .pure (c :: text)
    . intro c hpos
      exact (Agrees.skip flags (ih (by omega) (by omega))).bind fun text => .pure (c :: text)

theorem agrees_untilBrace : Agrees never k (untilBrace flags) (untilBrace flags) :=
  .length (fun m => (shortens_untilBrace_go flags m).after (skip_suffix flags))
    fun _ _ _ hm => .skip flags (agrees_untilBrace_go flags (Nat.le_refl _) hm)

theorem hexEscape_eq (count : Nat) :
    hexEscape flags count = fun cs => ifHead '\x7b'
      (fun rest => untilBrace flags rest >>= fun (digits, rest) =>
        codePoint digits >>= fun c => .ok (c, flags.skip rest))
      (fun rest => hexDigits flags count [] rest >>= fun (c, rest) =>
        if count == 2 && !flags.unicode && c.toNat ≥ 128 then .error .notUnicode
        else .ok (c, rest))
      (flags.skip cs) := by
  funext cs
  unfold hexEscape
  cases flags.skip cs with
  | nil => rfl
  | cons c rest => by_cases hc : c = '\x7b' <;> simp [hc]

theorem agrees_hexEscape (count : Nat) :
    Agrees never k (hexEscape flags count) (hexEscape flags count) := by
  rw [hexEscape_eq]
  apply Agrees.skip
  apply Agrees.ifHead (by decide)
  . apply (agrees_untilBrace flags).bind
    intro digits
    exact .value (x := codePoint digits) fun c => .skip flags (.pure c)
  . apply (agrees_hexDigits flags count []).bind
    intro c
    exact .ite (.error _) (.pure c)

theorem propertyEscape_eq (negated : Bool) :
    propertyEscape flags negated
      = fun cs => (if flags.unicode then .ok () else .error .notUnicode) >>= fun _ =>
        ifHead '\x7b'
          (fun rest => untilBrace flags rest >>= fun (text, rest) =>
            property text >>= fun found => .ok (found, rest))
          (take .invalidEscape fun c rest =>
            property [c] >>= fun found => .ok (found, flags.skip rest))
          (flags.skip cs)
        >>= fun (found, rest) =>
          .ok (.set (if negated != found.2 then .complement (flags.fold found.1)
            else flags.fold found.1), rest) := by
  funext cs
  unfold propertyEscape
  cases flags.unicode with
  | false => rfl
  | true =>
    cases flags.skip cs with
    | nil => rfl
    | cons c rest => by_cases hc : c = '\x7b' <;> simp [hc]

theorem agrees_propertyEscape (negated : Bool) :
    Agrees never k (propertyEscape flags negated) (propertyEscape flags negated) := by
  have hfound : ∀ {k : Nat} (text : List Char), Agrees never k
      (fun rest => property text >>= fun found => .ok (found, rest))
      fun rest => property text >>= fun found => .ok (found, rest) :=
    fun text => .value (x := property text) .pure
  rw [propertyEscape_eq]
  apply Agrees.value
  intro _
  apply Agrees.bind
  . apply Agrees.skip
    apply Agrees.ifHead (by decide)
    . exact (agrees_untilBrace flags).bind hfound
    . have htake : ∀ {k : Nat} (c : Char), Agrees never k
          (fun rest => property [c] >>= fun found => .ok (found, flags.skip rest))
          fun rest => property [c] >>= fun found => .ok (found, flags.skip rest) :=
        fun c => .value (x := property [c]) fun found => .skip flags (.pure found)
      exact .take (fun c => (htake (k := k) c).shortens) fun c _ => htake c
  . exact fun found => .pure _

def boundaryName (narrow : Bool) (name : List Char) : Except PatternError Look :=
  match String.ofList name with
  | "start" => .ok (.startOfWord narrow)
  | "end" => .ok (.endOfWord narrow)
  | "start-half" => .ok (.startOfWordHalf narrow)
  | "end-half" => .ok (.endOfWordHalf narrow)
  | _ => .error .invalidEscape

def boundary (rest : List Char) : Except PatternError (Look × List Char) :=
  untilBrace flags rest >>= fun (name, rest) =>
    boundaryName (!flags.unicode) name >>= fun l => .ok (l, rest)

theorem agrees_boundary : Agrees never k (boundary flags) (boundary flags) := by
  apply (agrees_untilBrace flags).bind
  intro name
  exact .value (x := boundaryName (!flags.unicode) name) .pure

theorem boundaryEscape_brace (rest : List Char) :
    boundaryEscape flags ('\x7b' :: rest)
      = match flags.skip rest with
        | [] => .error .invalidEscape
        | c :: _ =>
          if Unicode.isAsciiLetter c || c == '-' then boundary flags rest
          else .ok (.wordBoundary (!flags.unicode), '\x7b' :: rest) := by
  simp only [boundaryEscape]
  cases flags.skip rest with
  | nil => rfl
  | cons c _ =>
    by_cases hc : Unicode.isAsciiLetter c || c == '-'
    . simp only [hc, boundary, boundaryName]
      simp
      congr 1
      funext r
      split <;> simp_all
    . simp [hc]

theorem boundaryEscape_other {cs : List Char} (h : cs.head? ≠ some '\x7b') :
    boundaryEscape flags cs = .ok (.wordBoundary (!flags.unicode), cs) := by
  cases cs with
  | nil => rfl
  | cons c rest =>
    have hc : c ≠ '\x7b' := by simpa using h
    simp [boundaryEscape, hc]

def Dangling (rest : List Char) : Prop :=
  ∃ blanks, rest = '\x7b' :: blanks ∧ flags.skip blanks = []

theorem shortens_boundaryEscape : Shortens (boundaryEscape flags) := by
  intro cs a rest h
  by_cases hbrace : cs.head? = some '\x7b'
  . obtain ⟨blanks, rfl⟩ := List.head?_eq_some_iff.mp hbrace
    rw [boundaryEscape_brace] at h
    split at h
    . cases h
    . split at h
      . exact ((agrees_boundary flags (k := 0)).shortens _ _ _ h).trans (List.suffix_cons _ _)
      . cases h
        exact List.suffix_rfl
  . rw [boundaryEscape_other flags hbrace] at h
    cases h
    exact List.suffix_rfl

theorem agrees_boundaryEscape :
    Agrees (fun _ => Dangling flags) k (boundaryEscape flags) (boundaryEscape flags) where
  shortens := shortens_boundaryEscape flags
  extend {cs t rest a} hk ht h := by
    by_cases hbrace : cs.head? = some '\x7b'
    . obtain ⟨blanks, rfl⟩ := List.head?_eq_some_iff.mp hbrace
      rw [boundaryEscape_brace] at h
      rw [List.cons_append, boundaryEscape_brace]
      split at h
      . cases h
      . next hskip =>
        rw [skip_append_cons hskip ht]
        split at h
        . next hname =>
          simp only [hname, if_true]
          exact (agrees_boundary flags).extend (Nat.le_of_succ_le hk) ht h
        . next hname =>
          cases h
          simp [hname]
    . rw [boundaryEscape_other flags hbrace] at h
      cases h
      have hbrace' := mt (ht.head?_ne (by decide)).mp hbrace
      exact ⟨cs ++ t, boundaryEscape_other flags hbrace', .inl rfl⟩
  retract {cs t rest a} hk ht h := by
    by_cases hbrace : cs.head? = some '\x7b'
    . obtain ⟨blanks, rfl⟩ := List.head?_eq_some_iff.mp hbrace
      rw [List.cons_append, boundaryEscape_brace] at h
      rw [boundaryEscape_brace]
      cases hskip : flags.skip blanks with
      | nil =>
        -- Without a name the brace is no part of the escape, but only a trailer tells so.
        have hempty : ∀ {c : Char} {rest : List Char}, c :: rest = t →
            (Unicode.isAsciiLetter c || c == '-') = false := by
          rintro c rest rfl
          cases ht
          decide
        split at h
        . cases h
        . next hskip' =>
          have ht' := skip_append flags blanks ht
          simp only [hskip', hskip, List.nil_append, reduceCtorEq, false_and, or_false] at ht'
          simp only [hempty ht', Bool.false_eq_true, if_false, Except.ok.injEq, Prod.mk.injEq,
            ← List.cons_append, List.append_cancel_right_eq] at h
          exact .inr ⟨blanks, h.2.symm, hskip⟩
      | cons c _ =>
        rw [skip_append_cons hskip ht] at h
        simp only at h ⊢
        split at h
        . next hname =>
          simp only [hname, if_true]
          have hboundary : Agrees (fun _ => Dangling flags) k (boundary flags) (boundary flags) :=
            (agrees_boundary flags).of_never
          exact hboundary.retract (Nat.le_of_succ_le hk) ht h
        . next hname =>
          simp only [hname, Bool.false_eq_true, if_false]
          simp only [Except.ok.injEq, Prod.mk.injEq, ← List.cons_append,
            List.append_cancel_right_eq] at h
          obtain ⟨rfl, rfl⟩ := h
          exact .inl rfl
    . have hbrace' := mt (ht.head?_ne (by decide)).mp hbrace
      rw [boundaryEscape_other flags hbrace'] at h
      rw [boundaryEscape_other flags hbrace]
      simp_all

theorem escape_eq :
    escape flags = take .invalidEscape fun c rest => escape flags (c :: rest) := by
  funext cs
  cases cs <;> rfl

theorem escape_single {c : Char} (hc : c ∉ ['x', 'u', 'U', 'p', 'P', 'b']) :
    ∃ x : Except PatternError Atom,
      ∀ rest, escape flags (c :: rest) = x >>= fun atom => .ok (atom, rest) := by
  refine ⟨(escape flags [c]).map Prod.fst, fun rest => ?_⟩
  have hclass : ∀ x : Except PatternError Atom,
      x.map (·, rest)
        = ((x.map (·, ([] : List Char))).map Prod.fst >>= fun atom => .ok (atom, rest)) := by
    intro x
    cases x <;> rfl
  simp only [List.mem_cons, not_or] at hc
  unfold escape
  simp only
  split
  . rfl
  split
  . rfl
  split
  all_goals first
    | rfl
    | exact hclass _
    | simp at hc

def Unfinished : Atom → List Char → Prop
  | .look _, rest => Dangling flags rest
  | _, _ => False

theorem agrees_escape : Agrees (Unfinished flags) k (escape flags) (escape flags) := by
  have hcons : ∀ {k : Nat} (c : Char), Agrees (Unfinished flags) k
      (fun rest => escape flags (c :: rest)) fun rest => escape flags (c :: rest) := by
    intro k c
    by_cases hc : c ∈ ['x', 'u', 'U', 'p', 'P', 'b']
    . simp only [List.mem_cons, List.not_mem_nil, or_false] at hc
      obtain rfl | rfl | rfl | rfl | rfl | rfl := hc
      . exact (agrees_hexEscape flags 2).map fun _ _ => False.elim
      . exact (agrees_hexEscape flags 4).map fun _ _ => False.elim
      . exact (agrees_hexEscape flags 8).map fun _ _ => False.elim
      . exact (agrees_propertyEscape flags false).of_never
      . exact (agrees_propertyEscape flags true).of_never
      . exact (agrees_boundaryEscape flags).map fun _ _ => id
    . obtain ⟨x, hx⟩ := escape_single flags hc
      simp only [hx]
      exact .value .pure
  rw [escape_eq]
  exact .take (fun c => (hcons (k := k) c).shortens) fun c _ => hcons c

end Pattern

end Stencil
