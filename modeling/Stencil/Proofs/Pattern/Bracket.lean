import Mathlib.Data.List.TakeDrop
import Stencil.Proofs.Pattern.Escape

/-!
This module contains the proof that character classes in brackets are read alike from a pattern alone
and from one with a trailer. A class ends with its bracket, so no class reaches into the trailer.
-/

namespace Stencil

open Outcome

namespace Pattern

open Reader

variable {k : Nat} (flags : Flags)

def checkAtom : Atom → Except PatternError Atom
  | .literal c => classAtom.check flags c >>= fun c => .ok (.literal c)
  | atom => .ok atom

theorem classAtom_eq :
    classAtom flags = ifHead '\\'
      (fun rest => escape flags rest >>= fun (atom, rest) =>
        checkAtom flags atom >>= fun atom => .ok (atom, rest))
      (take .unclosedClass fun c rest =>
        checkAtom flags (.literal c) >>= fun atom => .ok (atom, rest)) := by
  funext cs
  cases cs with
  | nil => rfl
  | cons c rest =>
    by_cases hc : c = '\\'
    . subst hc
      simp only [classAtom, ifHead_cons, if_true]
      congr 1
      funext ⟨atom, rest⟩
      cases atom with
      | literal c => cases h : classAtom.check flags c <;> simp [checkAtom, h]
      | set | look => rfl
    . cases h : classAtom.check flags c <;> simp [classAtom, checkAtom, hc, h]

theorem agrees_checkAtom {E : Atom → List Char → Prop} (atom : Atom) :
    Agrees E k (fun rest => checkAtom flags atom >>= fun atom => .ok (atom, rest))
      fun rest => checkAtom flags atom >>= fun atom => .ok (atom, rest) :=
  .value .pure

theorem shortens_checkAtom (atom : Atom) :
    Shortens fun rest => checkAtom flags atom >>= fun atom => .ok (atom, rest) :=
  .value .pure

theorem agrees_classAtom : Agrees (Unfinished flags) k (classAtom flags) (classAtom flags) := by
  rw [classAtom_eq]
  apply Agrees.ifHead (by decide)
  . apply (agrees_escape flags).bind_except (shortens_checkAtom flags)
    . exact fun _ atom _ _ _ => agrees_checkAtom flags atom
    . intro atom mid t b rest hE ht h
      cases atom with
      | look l =>
        simp only [checkAtom, ok_bind, Except.ok.injEq, Prod.mk.injEq,
          List.append_cancel_right_eq] at h
        obtain ⟨rfl, rfl⟩ := h
        exact hE
      | literal | set => exact hE.elim
  . exact .take (fun c => shortens_checkAtom flags (.literal c))
      fun c _ => agrees_checkAtom flags (.literal c)

theorem consumes_classAtom : Consumes (classAtom flags) := by
  rw [classAtom_eq]
  apply Consumes.ifHead
  . exact (agrees_escape flags (k := 0)).shortens.bind (shortens_checkAtom flags)
  . exact .take fun c => shortens_checkAtom flags (.literal c)

def makesRange : List Char → Bool
  | '-' :: after => afterHyphen flags after != some ']' && afterHyphen flags after != some '-'
  | _ => false

theorem afterHyphen_append {t : List Char} (ht : Trailer t) {c : Char} (hc : c ≠ ')')
    (cs : List Char) : afterHyphen flags (cs ++ t) = some c ↔ afterHyphen flags cs = some c := by
  unfold afterHyphen
  split
  . rw [ht.dropWhile (by decide)]
    match cs.dropWhile Unicode.isBlank with
    | [] => cases ht <;> simp [Ne.symm hc]
    | d :: rest =>
      by_cases hd : d = '#'
      . subst hd
        simp only [List.cons_append, ht.dropWhile (p := Unicode.isBlank) (by decide), ht.head?_ne hc]
      . simp [hd]
  . exact ht.head?_ne hc

theorem makesRange_append (cs t : List Char) (ht : Trailer t) :
    makesRange flags (cs ++ t) = makesRange flags cs := by
  have hne : ∀ {c : Char}, c ≠ ')' → ∀ cs : List Char,
      (afterHyphen flags (cs ++ t) != some c) = (afterHyphen flags cs != some c) := by
    intro c hc cs
    rw [Bool.eq_iff_iff, bne_iff_ne, bne_iff_ne, ne_eq, ne_eq, afterHyphen_append flags ht hc]
  match cs with
  | [] => cases ht <;> rfl
  | c :: cs =>
    by_cases hc : c = '-'
    . subst hc
      simp [makesRange, hne (c := ']') (by decide), hne (c := '-') (by decide)]
    . simp [makesRange, hc]

def single : Atom → Except PatternError CharSet
  | .literal c => .ok (.single c)
  | .set s => .ok s
  | .look _ => .error .invalidClass

def range : Atom → Atom → Except PatternError CharSet
  | .literal c, .literal d => if c ≤ d then .ok (.range c d) else .error .invalidClass
  | _, _ => .error .invalidClass

def rangeRest (first : Atom) : Reader CharSet :=
  fun cs => if makesRange flags cs then
      take .unclosedClass (fun _ rest => classAtom flags (flags.skip rest) >>= fun (last, rest) =>
        range first last >>= fun set => .ok (set, rest)) cs
    else single first >>= fun set => .ok (set, cs)

theorem classRange_eq :
    classRange flags = fun cs => classAtom flags cs >>= fun (first, rest) =>
      rangeRest flags first (flags.skip rest) := by
  funext cs
  unfold classRange rangeRest
  congr 1
  funext ⟨first, rest⟩
  simp only
  generalize flags.skip rest = cs
  change (if !makesRange flags cs then _ else _) = if makesRange flags cs then _ else _
  cases hrange : makesRange flags cs with
  | false => cases first <;> rfl
  | true =>
    match cs with
    | c :: after =>
      simp only [Bool.not_true, Bool.false_eq_true, if_false, if_true, take_cons]
      congr 1
      funext ⟨last, rest⟩
      cases first <;> cases last <;> simp only [range] <;> first | rfl | (split <;> rfl)

theorem agrees_rangeRest (first : Atom) :
    Agrees never k (rangeRest flags first) (rangeRest flags first) := by
  have hlast : ∀ {k : Nat}, Agrees never k
      (fun rest => classAtom flags (flags.skip rest) >>= fun (last, rest) =>
        range first last >>= fun set => .ok (set, rest))
      fun rest => classAtom flags (flags.skip rest) >>= fun (last, rest) =>
        range first last >>= fun set => .ok (set, rest) := by
    intro k
    apply ((agrees_classAtom flags).skip flags).bind_except
    . exact fun last => .value (x := range first last) .pure
    . exact fun _ last _ _ _ => .value (x := range first last) .pure
    . intro last mid t b rest hE ht h
      cases last with
      | look => cases first <;> cases h
      | literal | set => exact hE.elim
  apply Agrees.branch (makesRange_append flags)
  . exact .take (fun _ => (hlast (k := k)).shortens) fun _ _ => hlast
  . exact .value (x := single first) .pure

theorem shortens_rangeRest (first : Atom) :
    Shortens fun rest => rangeRest flags first (flags.skip rest) :=
  (agrees_rangeRest flags (k := 0) first).shortens.after (skip_suffix flags)

theorem agrees_classRange : Agrees never k (classRange flags) (classRange flags) := by
  rw [classRange_eq]
  apply (agrees_classAtom flags).bind_except (shortens_rangeRest flags)
  . exact fun _ first _ _ _ => .skip flags (agrees_rangeRest flags first)
  . intro first mid t b rest hE ht h
    cases first with
    | look l =>
      obtain ⟨blanks, rfl, -⟩ := hE
      simp only [List.cons_append] at h
      rw [skip_cons flags (by decide) (by decide)] at h
      cases h
    | literal | set => exact hE.elim

theorem consumes_classRange : Consumes (classRange flags) := by
  rw [classRange_eq]
  exact (consumes_classAtom flags).bind (shortens_rangeRest flags)

theorem hyphens_zero (s : ClassState) (cs : List Char) :
    classStart.hyphens flags s 0 cs = (s, cs) := by
  unfold classStart.hyphens
  rfl

theorem hyphens_succ (s : ClassState) (fuel : Nat) :
    (fun cs => .ok (classStart.hyphens flags s (fuel + 1) cs))
      = ifHead '-' (fun rest =>
          .ok (classStart.hyphens flags (s.push (.single '-') 0) fuel (flags.skip rest)))
        (fun cs => .ok (s, cs)) := by
  funext cs
  cases cs with
  | nil => simp [classStart.hyphens]
  | cons c rest => by_cases hc : c = '-' <;> simp [classStart.hyphens, hc]

theorem shortens_hyphens (s : ClassState) (fuel : Nat) :
    Shortens fun cs => .ok (classStart.hyphens flags s fuel cs) := by
  induction fuel generalizing s with
  | zero =>
    simp only [hyphens_zero]
    exact .pure s
  | succ fuel ih =>
    rw [hyphens_succ]
    exact .ifHead ((ih _).after (skip_suffix flags)) (.pure s)

theorem agrees_hyphens (s : ClassState) {fuel fuel' : Nat} (hk : k ≤ fuel) (hfuel : fuel ≤ fuel') :
    Agrees never k (fun cs => .ok (classStart.hyphens flags s fuel cs))
      fun cs => .ok (classStart.hyphens flags s fuel' cs) := by
  induction fuel generalizing k fuel' s with
  | zero =>
    obtain rfl : k = 0 := by omega
    cases fuel' with
    | zero =>
      simp only [hyphens_zero]
      exact .pure s
    | succ fuel' =>
      have hsucc : Agrees never 0 (fun cs => .ok (classStart.hyphens flags s (fuel' + 1) cs))
          fun cs => .ok (classStart.hyphens flags s (fuel' + 1) cs) := by
        rw [hyphens_succ]
        exact .ifHead_of_pos (by decide) ((shortens_hyphens flags _ fuel').after (skip_suffix flags))
          (fun hpos => absurd hpos (Nat.lt_irrefl 0)) (.pure s)
      apply hsucc.congr_left
      intro cs hk
      rw [List.length_eq_zero_iff.mp (Nat.le_zero.mp hk), hyphens_zero]
      rfl
  | succ fuel ih =>
    obtain ⟨fuel', rfl⟩ : ∃ n, fuel' = n + 1 := ⟨fuel' - 1, by omega⟩
    rw [hyphens_succ, hyphens_succ]
    exact .ifHead (by decide) (.skip flags (ih _ (by omega) (by omega))) (.pure s)

theorem classStart_eq :
    (fun cs => .ok (classStart flags cs))
      = ifHead ']' (fun rest => .ok (({} : ClassState).push (.single ']') 0, flags.skip rest))
        (fun cs => .ok (classStart.hyphens flags {} cs.length cs)) := by
  funext cs
  cases cs with
  | nil => rfl
  | cons c rest => by_cases hc : c = ']' <;> simp [classStart, hc]

theorem agrees_classStart :
    Agrees never k (fun cs => .ok (classStart flags cs)) fun cs => .ok (classStart flags cs) := by
  rw [classStart_eq]
  apply Agrees.ifHead (by decide)
  . exact .skip flags (.pure _)
  . exact .length (shortens_hyphens flags {})
      fun _ _ _ hm => agrees_hyphens flags {} (Nat.le_refl _) hm

def namedClass? (negated : Bool) (cs : List Char) : Option ((CharSet × Bool) × List Char) :=
  match asciiClass? (cs.takeWhile (· != ':')), cs.dropWhile (· != ':') with
  | some set, ':' :: ']' :: rest => some ((set, negated), rest)
  | _, _ => none

theorem readAsciiClass?_colon (cs : List Char) :
    readAsciiClass? (':' :: cs)
      = if cs.head? = some '^' then namedClass? true cs.tail else namedClass? false cs := by
  cases cs with
  | nil => simp [readAsciiClass?, namedClass?, List.span_eq_takeWhile_dropWhile]
  | cons c rest =>
    by_cases hc : c = '^'
    . subst hc
      simp only [readAsciiClass?, List.span_eq_takeWhile_dropWhile]
      rfl
    . simp only [readAsciiClass?, List.span_eq_takeWhile_dropWhile, List.cons.injEq, hc, false_and,
        imp_false, not_false_eq_true, implies_true, List.head?_cons, Option.some.injEq, if_false]
      rfl

theorem readAsciiClass?_other {cs : List Char} (h : cs.head? ≠ some ':') :
    readAsciiClass? cs = none := by
  cases cs with
  | nil => rfl
  | cons c rest =>
    have hc : c ≠ ':' := by simpa using h
    simp [readAsciiClass?, hc]

theorem namedClass?_append (negated : Bool) (cs : List Char) {t : List Char} (ht : Trailer t) :
    namedClass? negated (cs ++ t)
      = (namedClass? negated cs).map fun (set, rest) => (set, rest ++ t) := by
  unfold namedClass?
  rw [List.dropWhile_append]
  cases hdrop : cs.dropWhile (· != ':') with
  | nil =>
    have hnot : t.dropWhile (· != ':') = [] := by cases ht <;> decide
    simp [hnot]
  | cons c rest =>
    rw [takeWhile_append_of_ne (by simp [hdrop])]
    simp only [List.isEmpty_cons, Bool.false_eq_true, if_false]
    cases rest with
    | nil => cases ht <;> cases asciiClass? _ <;> simp
    | cons d rest =>
      cases asciiClass? _ with
      | none => simp
      | some set => by_cases hc : c = ':' <;> by_cases hd : d = ']' <;> simp [hc, hd]

theorem readAsciiClass?_append (cs : List Char) {t : List Char} (ht : Trailer t) :
    readAsciiClass? (cs ++ t) = (readAsciiClass? cs).map fun (set, rest) => (set, rest ++ t) := by
  by_cases hcolon : cs.head? = some ':'
  . obtain ⟨rest, rfl⟩ := List.head?_eq_some_iff.mp hcolon
    rw [List.cons_append, readAsciiClass?_colon, readAsciiClass?_colon]
    by_cases hhat : rest.head? = some '^'
    . obtain ⟨rest, rfl⟩ := List.head?_eq_some_iff.mp hhat
      exact namedClass?_append true rest ht
    . rw [if_neg hhat, if_neg (mt (ht.head?_ne (by decide)).mp hhat)]
      exact namedClass?_append false rest ht
  . rw [readAsciiClass?_other hcolon,
      readAsciiClass?_other (mt (ht.head?_ne (by decide)).mp hcolon)]
    rfl

theorem namedClass?_suffix {negated : Bool} {cs rest : List Char} {set : CharSet × Bool}
    (h : namedClass? negated cs = some (set, rest)) : rest <:+ cs := by
  unfold namedClass? at h
  split at h
  . next hdrop =>
    cases h
    have hsuffix : ':' :: ']' :: rest <:+ cs := by
      rw [← hdrop]
      exact List.dropWhile_suffix _
    exact (List.suffix_append [':', ']'] rest).trans hsuffix
  . cases h

theorem readAsciiClass?_suffix {cs rest : List Char} {set : CharSet × Bool}
    (h : readAsciiClass? cs = some (set, rest)) : rest <:+ cs := by
  by_cases hcolon : cs.head? = some ':'
  . obtain ⟨cs, rfl⟩ := List.head?_eq_some_iff.mp hcolon
    rw [readAsciiClass?_colon] at h
    split at h
    . exact (namedClass?_suffix h).trans ((List.tail_suffix cs).trans (List.suffix_cons ':' cs))
    . exact (namedClass?_suffix h).trans (List.suffix_cons ':' cs)
  . rw [readAsciiClass?_other hcolon] at h
    cases h

def nested (fuel : Nat) (s : ClassState) : Reader (CharSet × Nat) :=
  fun cs =>
    match readAsciiClass? cs with
    | some ((set, negated), rest) =>
      foldAndNegate flags negated set >>= fun set => bracketRest flags fuel (s.push set 0) rest
    | none =>
      bracket flags fuel cs >>= fun ((set, depth), rest) =>
        bracketRest flags fuel (s.push set depth) rest

theorem bracketRest_succ (fuel : Nat) (s : ClassState) :
    bracketRest flags (fuel + 1) s = fun cs =>
      ifHead '[' (nested flags fuel s)
        (ifHead ']' (fun rest => .ok (s.close flags, rest))
          (ifPair '&' (bracketRest flags fuel (s.operator flags .inter))
            (ifPair '-' (bracketRest flags fuel (s.operator flags .diff))
              (ifPair '~' (bracketRest flags fuel (s.operator flags .symmDiff))
                (fun cs => classRange flags cs >>= fun (set, rest) =>
                  bracketRest flags fuel (s.push set 0) rest)))))
        (flags.skip cs) := by
  funext cs
  rw [bracketRest]
  generalize flags.skip cs = cs
  split
  . rfl
  . rfl
  . rfl
  . rfl
  . rfl
  . rfl
  . next hopen hclose hand hminus htilde =>
    rw [ifHead_of_ne hopen, ifHead_of_ne hclose, ifPair_of_ne hand, ifPair_of_ne hminus,
      ifPair_of_ne htilde]

def bracketBody (fuel : Nat) (negated : Bool) : Reader (CharSet × Nat) :=
  fun cs => .ok (classStart flags cs) >>= fun (start, rest) =>
    bracketRest flags fuel start rest >>= fun ((set, depth), rest) =>
      foldAndNegate flags negated set >>= fun set => .ok ((set, depth + 1), rest)

theorem bracket_succ (fuel : Nat) :
    bracket flags (fuel + 1) = fun cs =>
      ifHead '^' (fun rest => bracketBody flags fuel true (flags.skip rest))
        (bracketBody flags fuel false) (flags.skip cs) := by
  funext cs
  rw [bracket]
  cases flags.skip cs with
  | nil => rfl
  | cons c rest => by_cases hc : c = '^' <;> simp [hc, bracketBody]

theorem shortens_nested {fuel : Nat} (s : ClassState) (hbracket : Shortens (bracket flags fuel))
    (hrest : ∀ s, Shortens (bracketRest flags fuel s)) : Shortens (nested flags fuel s) := by
  intro cs a rest h
  rw [nested] at h
  split at h
  . next hnamed =>
    exact (Shortens.value (fun set => hrest (s.push set 0)) _ a rest h).trans
      (readAsciiClass?_suffix hnamed)
  . exact hbracket.bind (fun b => hrest (s.push b.1 b.2)) cs a rest h

theorem shortens_brackets (fuel : Nat) :
    Shortens (bracket flags fuel) ∧ ∀ s, Shortens (bracketRest flags fuel s) := by
  induction fuel with
  | zero =>
    constructor
    . exact .error .unclosedClass
    . exact fun s => .error .unclosedClass
  | succ fuel ih =>
    obtain ⟨hbracket, hrest⟩ := ih
    have hbody : ∀ negated, Shortens (bracketBody flags fuel negated) := fun negated =>
      (agrees_classStart flags (k := 0)).shortens.bind fun start =>
        (hrest start).bind fun b =>
          .value (x := foldAndNegate flags negated b.1) fun set => .pure (set, b.2 + 1)
    constructor
    . rw [bracket_succ]
      exact .after (skip_suffix flags)
        (.ifHead ((hbody true).after (skip_suffix flags)) (hbody false))
    . intro s
      rw [bracketRest_succ]
      exact .after (skip_suffix flags)
        (.ifHead (shortens_nested flags s hbracket hrest)
          (.ifHead (.pure _)
            (.ifPair (hrest _)
              (.ifPair (hrest _)
                (.ifPair (hrest _)
                  ((agrees_classRange flags (k := 0)).shortens.bind fun set =>
                    hrest (s.push set 0)))))))

theorem agrees_nested {fuel fuel' : Nat} (s : ClassState)
    (hbracket : Agrees never k (bracket flags fuel) (bracket flags fuel'))
    (hrest : ∀ s, Agrees never k (bracketRest flags fuel s) (bracketRest flags fuel' s)) :
    Agrees never k (nested flags fuel s) (nested flags fuel' s) := by
  have hset : ∀ negated set, Agrees never k
      (fun rest => foldAndNegate flags negated set >>= fun set =>
        bracketRest flags fuel (s.push set 0) rest)
      fun rest => foldAndNegate flags negated set >>= fun set =>
        bracketRest flags fuel' (s.push set 0) rest :=
    fun negated set => .value fun set => hrest (s.push set 0)
  have hclass : Agrees never k
      (fun cs => bracket flags fuel cs >>= fun (b, rest) =>
        bracketRest flags fuel (s.push b.1 b.2) rest)
      fun cs => bracket flags fuel' cs >>= fun (b, rest) =>
        bracketRest flags fuel' (s.push b.1 b.2) rest :=
    hbracket.bind fun b => hrest (s.push b.1 b.2)
  constructor
  case shortens => exact shortens_nested flags s hbracket.shortens fun s => (hrest s).shortens
  case extend =>
    intro cs t rest a hk ht h
    rw [nested] at h ⊢
    rw [readAsciiClass?_append cs ht]
    cases hnamed : readAsciiClass? cs with
    | none =>
      rw [hnamed] at h
      exact hclass.extend hk ht h
    | some named =>
      obtain ⟨⟨set, negated⟩, mid⟩ := named
      rw [hnamed] at h
      have hle := (readAsciiClass?_suffix hnamed).length_le
      exact (hset negated set).extend (Nat.le_trans hle hk) ht h
  case retract =>
    intro cs t rest a hk ht h
    rw [nested] at h ⊢
    rw [readAsciiClass?_append cs ht] at h
    cases hnamed : readAsciiClass? cs with
    | none =>
      rw [hnamed] at h
      exact hclass.retract hk ht h
    | some named =>
      obtain ⟨⟨set, negated⟩, mid⟩ := named
      rw [hnamed] at h
      have hle := (readAsciiClass?_suffix hnamed).length_le
      exact (hset negated set).retract (Nat.le_trans hle hk) ht h

theorem agrees_brackets (fuel : Nat) :
    (∀ {k fuel'}, 2 * k + 2 ≤ fuel → fuel ≤ fuel' →
        Agrees never k (bracket flags fuel) (bracket flags fuel'))
      ∧ ∀ {k fuel'} (s : ClassState), 2 * k + 1 ≤ fuel → fuel ≤ fuel' →
        Agrees never k (bracketRest flags fuel s) (bracketRest flags fuel' s) := by
  -- Two steps are enough for each character: one for its class, and one for what comes after it.
  induction fuel with
  | zero => exact ⟨fun hk => absurd hk (by omega), fun _ hk => absurd hk (by omega)⟩
  | succ fuel ih =>
    obtain ⟨hbracket, hrest⟩ := ih
    constructor
    . intro k fuel' hk hfuel
      obtain ⟨fuel', rfl⟩ : ∃ n, fuel' = n + 1 := ⟨fuel' - 1, by omega⟩
      have hbody : ∀ {j} negated, j ≤ k →
          Agrees never j (bracketBody flags fuel negated) (bracketBody flags fuel' negated) :=
        fun negated hj =>
          (agrees_classStart flags).bind fun start =>
            (hrest start (by omega) (by omega)).bind fun b =>
              .value (x := foldAndNegate flags negated b.1) fun set => .pure (set, b.2 + 1)
      rw [bracket_succ, bracket_succ]
      exact .skip flags
        (.ifHead (by decide) (.skip flags (hbody true (Nat.sub_le k 1)))
          (hbody false (Nat.le_refl k)))
    . intro k fuel' s hk hfuel
      obtain ⟨fuel', rfl⟩ : ∃ n, fuel' = n + 1 := ⟨fuel' - 1, by omega⟩
      -- Whatever is read first, there is a character less for the rest.
      have hless : ∀ s, 0 < k → Agrees never (k - 1) (bracketRest flags fuel s)
          (bracketRest flags fuel' s) :=
        fun s hpos => hrest s (by omega) (by omega)
      have hshort : ∀ s, Shortens (bracketRest flags fuel' s) := (shortens_brackets flags fuel').2
      rw [bracketRest_succ, bracketRest_succ]
      apply Agrees.skip flags
      apply Agrees.ifHead_of_pos (by decide)
        (shortens_nested flags s (shortens_brackets flags fuel').1 hshort)
      . exact fun hpos => agrees_nested flags s (hbracket (by omega) (by omega))
          fun s => hless s hpos
      apply Agrees.ifHead (by decide) (.pure _)
      apply Agrees.ifPair (by decide) (hshort _) (hless _)
      apply Agrees.ifPair (by decide) (hshort _) (hless _)
      apply Agrees.ifPair (by decide) (hshort _) (hless _)
      exact (agrees_classRange flags).bind_of_pos (consumes_classRange flags)
        (fun set => hshort (s.push set 0)) fun set => hless (s.push set 0)

theorem agrees_bracket {fuel fuel' : Nat} (hk : 2 * k + 2 ≤ fuel) (hfuel : fuel ≤ fuel') :
    Agrees never k (bracket flags fuel) (bracket flags fuel') :=
  (agrees_brackets flags fuel).1 hk hfuel

end Pattern

end Stencil
