import Stencil.Proofs.Pattern.Bracket

/-!
This module contains the proof that alternatives and groups are read alike from a pattern alone and
from one with a trailer.
-/

namespace Stencil

open Outcome

namespace Pattern

open Reader

variable {k : Nat} (flags : Flags) (groups : Groups) (done parts : List Part)

def checkName : List Char → List Char → Except PatternError (String × List Char)
  | first :: others, _ :: rest =>
    if (first == '_' || Unicode.isAlphabetic first)
        && others.all fun c =>
          c == '_' || c == '.' || c == '[' || c == ']' || Unicode.isAlphanumeric c
    then .ok (String.ofList (first :: others), rest) else .error .invalidName
  | _, _ => .error .invalidName

theorem groupName_eq (cs : List Char) :
    groupName cs = checkName (cs.takeWhile (· != '>')) (cs.dropWhile (· != '>')) := by
  rw [groupName, List.span_eq_takeWhile_dropWhile]
  simp only
  cases cs.takeWhile (· != '>') <;> cases cs.dropWhile (· != '>') <;> rfl

theorem checkName_append (name rest t : List Char) (c : Char) :
    checkName name (c :: rest ++ t)
      = (checkName name (c :: rest)).map fun (name, rest) => (name, rest ++ t) := by
  cases name with
  | nil => rfl
  | cons first others =>
    simp only [List.cons_append, checkName]
    split <;> rfl

theorem checkName_nil (name : List Char) : checkName name [] = .error .invalidName := by
  cases name <;> rfl

theorem shortens_groupName : Shortens groupName := by
  intro cs a rest h
  rw [groupName_eq] at h
  cases hdrop : cs.dropWhile (· != '>') with
  | nil =>
    rw [hdrop, checkName_nil] at h
    cases h
  | cons c after =>
    have hafter : after <:+ cs :=
      (List.suffix_cons c after).trans (hdrop ▸ List.dropWhile_suffix _)
    rw [hdrop] at h
    cases hname : cs.takeWhile (· != '>') with
    | nil =>
      rw [hname] at h
      cases h
    | cons first others =>
      rw [hname, checkName] at h
      split at h
      . cases h
        exact hafter
      . cases h

theorem agrees_groupName : Agrees never k groupName groupName := by
  apply Agrees.of_append shortens_groupName
  intro cs t ht
  rw [groupName_eq, groupName_eq, List.dropWhile_append]
  cases hdrop : cs.dropWhile (· != '>') with
  | nil =>
    have hnot : t.dropWhile (· != '>') = [] := by cases ht <;> decide
    simp only [List.isEmpty_nil, if_true, hnot, checkName_nil]
    rfl
  | cons c rest =>
    rw [takeWhile_append_of_ne (by simp [hdrop])]
    exact checkName_append _ rest t c

theorem readFlags_cons (seen : List Char) (c : Char) :
    (∃ x : Except PatternError (Flags × Bool),
        ∀ rest, readFlags flags seen (c :: rest) = x >>= fun a => .ok (a, c :: rest))
      ∨ ∃ flags', ∀ rest, readFlags flags seen (c :: rest) = readFlags flags' (c :: seen) rest := by
  have herror : ∀ cs : List Char, (.error .invalidFlags : Except PatternError _)
      = (.error .invalidFlags : Except PatternError (Flags × Bool)) >>= fun a => .ok (a, cs) :=
    fun cs => rfl
  simp only [readFlags]
  split
  . split
    . exact .inl ⟨_, fun rest => herror _⟩
    . exact .inl ⟨.ok (flags, !seen.isEmpty), fun rest => rfl⟩
  split
  . exact .inl ⟨_, fun rest => herror _⟩
  split
  . exact .inr ⟨flags, fun rest => rfl⟩
  split
  . next flags' _ => exact .inr ⟨flags', fun rest => rfl⟩
  . exact .inl ⟨_, fun rest => herror _⟩

theorem readFlags_suffix {seen cs rest : List Char} {a : Flags × Bool}
    (h : readFlags flags seen cs = .ok (a, rest)) : rest ≠ [] ∧ rest <:+ cs := by
  induction cs generalizing flags seen with
  | nil => cases h
  | cons c cs ih =>
    obtain ⟨x, hx⟩ | ⟨flags', hstep⟩ := readFlags_cons flags seen c
    . rw [hx] at h
      obtain ⟨b, -, heq⟩ := bind_eq_ok.mp h
      cases heq
      exact ⟨List.cons_ne_nil c cs, List.suffix_rfl⟩
    . rw [hstep] at h
      obtain ⟨hne, hsuffix⟩ := ih flags' h
      exact ⟨hne, hsuffix.trans (List.suffix_cons c cs)⟩

theorem agrees_readFlags (seen : List Char) :
    Agrees (fun _ rest => rest = []) k (readFlags flags seen) (readFlags flags seen) where
  shortens cs a rest h := (readFlags_suffix flags h).2
  extend {cs t rest a} hk ht h := by
    refine ⟨rest ++ t, ?_, .inl rfl⟩
    induction cs generalizing flags seen with
    | nil => cases h
    | cons c cs ih =>
      obtain ⟨x, hx⟩ | ⟨flags', hstep⟩ := readFlags_cons flags seen c
      . rw [hx] at h
        obtain ⟨b, rfl, heq⟩ := bind_eq_ok.mp h
        cases heq
        exact hx (cs ++ t)
      . rw [hstep] at h
        rw [List.cons_append, hstep]
        exact ih flags' (c :: seen) (Nat.le_of_succ_le hk) h
  retract {cs t rest a} hk ht h := by
    induction cs generalizing flags seen with
    | nil =>
      have hle := (readFlags_suffix flags h).2.length_le
      rw [List.nil_append, List.length_append] at hle
      exact .inr (List.length_eq_zero_iff.mp (by omega))
    | cons c cs ih =>
      obtain ⟨x, hx⟩ | ⟨flags', hstep⟩ := readFlags_cons flags seen c
      . rw [List.cons_append, hx, ← List.cons_append] at h
        obtain ⟨b, rfl, heq⟩ := bind_eq_ok.mp h
        simp only [Except.ok.injEq, Prod.mk.injEq, List.append_cancel_right_eq] at heq
        obtain ⟨rfl, rfl⟩ := heq
        exact .inl (hx cs)
      . rw [List.cons_append, hstep] at h
        rw [hstep]
        exact ih flags' (c :: seen) (Nat.le_of_succ_le hk) h

theorem digits_zero (digits : List Char) (cs : List Char) :
    readNumber?.go flags digits 0 cs = (digits, cs) := by
  unfold readNumber?.go
  rfl

theorem digits_succ (digits : List Char) (fuel : Nat) :
    (fun cs => .ok (readNumber?.go flags digits (fuel + 1) cs))
      = fun cs : List Char => if cs.head?.any Unicode.isAsciiDigit then
          take .invalidCount (fun c rest =>
            .ok (readNumber?.go flags (digits ++ [c]) fuel (flags.skip rest))) cs
        else .ok (digits, cs) := by
  funext cs
  cases cs with
  | nil => simp [readNumber?.go]
  | cons c rest => by_cases hc : Unicode.isAsciiDigit c <;> simp [readNumber?.go, hc]

theorem shortens_digits (digits : List Char) (fuel : Nat) :
    Shortens fun cs => .ok (readNumber?.go flags digits fuel cs) := by
  induction fuel generalizing digits with
  | zero =>
    simp only [digits_zero]
    exact .pure digits
  | succ fuel ih =>
    rw [digits_succ]
    exact .branch (.take fun c => (ih _).after (skip_suffix flags)) (.pure digits)

theorem agrees_digits (digits : List Char) {fuel fuel' : Nat} (hk : k ≤ fuel)
    (hfuel : fuel ≤ fuel') :
    Agrees never k (fun cs => .ok (readNumber?.go flags digits fuel cs))
      fun cs => .ok (readNumber?.go flags digits fuel' cs) := by
  have hdigit : ∀ cs t, Trailer t →
      (cs ++ t).head?.any Unicode.isAsciiDigit = cs.head?.any Unicode.isAsciiDigit := by
    intro cs t ht
    cases cs with
    | nil => cases ht <;> decide
    | cons => rfl
  induction fuel generalizing k fuel' digits with
  | zero =>
    obtain rfl : k = 0 := by omega
    cases fuel' with
    | zero =>
      simp only [digits_zero]
      exact .pure digits
    | succ fuel' =>
      have hsucc : Agrees never 0 (fun cs => .ok (readNumber?.go flags digits (fuel' + 1) cs))
          fun cs => .ok (readNumber?.go flags digits (fuel' + 1) cs) := by
        rw [digits_succ]
        exact .branch hdigit
          (.take (fun c => (shortens_digits flags _ fuel').after (skip_suffix flags))
            fun c hpos => absurd hpos (Nat.lt_irrefl 0))
          (.pure digits)
      apply hsucc.congr_left
      intro cs hk
      rw [List.length_eq_zero_iff.mp (Nat.le_zero.mp hk), digits_zero]
      rfl
  | succ fuel ih =>
    obtain ⟨fuel', rfl⟩ : ∃ n, fuel' = n + 1 := ⟨fuel' - 1, by omega⟩
    rw [digits_succ, digits_succ]
    exact .branch hdigit
      (.take (fun c => (shortens_digits flags _ fuel').after (skip_suffix flags))
        fun c hpos => .skip flags (ih _ (by omega) (by omega)))
      (.pure digits)

def digits (fuel : Nat) : Reader (List Char) :=
  fun cs => .ok (readNumber?.go flags [] (fuel + 1) (cs.dropWhile Unicode.isBlank))

def number? (digits : List Char) : Except PatternError (Option Nat) :=
  if digits.isEmpty then .ok none
  else
    match Integer.readNat 10 greatestRepetition .tooLarge digits with
    | .ok n => .ok (some n)
    | .error _ => .error .invalidCount

theorem readNumber?_eq :
    readNumber? flags = fun cs => digits flags cs.length cs >>= fun (text, rest) =>
      number? text >>= fun n =>
        .ok (n, if n.isSome then flags.skip ((flags.skip rest).dropWhile Unicode.isBlank)
          else (flags.skip rest).dropWhile Unicode.isBlank) := by
  funext cs
  rw [readNumber?, digits]
  generalize readNumber?.go flags [] (cs.length + 1) (cs.dropWhile Unicode.isBlank) = r
  obtain ⟨digits, rest⟩ := r
  simp only [ok_bind, number?]
  split
  . rfl
  . cases Integer.readNat 10 greatestRepetition .tooLarge digits <;> rfl

theorem agrees_readNumber? : Agrees never k (readNumber? flags) (readNumber? flags) := by
  rw [readNumber?_eq]
  apply Agrees.bind
  . apply Agrees.length
    . intro m
      have hshort := (shortens_digits flags [] (m + 1)).after fun cs : List Char =>
        List.dropWhile_suffix (l := cs) Unicode.isBlank
      exact hshort
    . exact fun m m' _ hm =>
        .dropWhile (by decide) (agrees_digits flags [] (Nat.le_succ m) (Nat.succ_le_succ hm))
  . intro text
    apply Agrees.value
    intro n
    cases n with
    | none => exact .skip flags (.dropWhile (by decide) (.pure none))
    | some n => exact .skip flags (.dropWhile (by decide) (.skip flags (.pure (some n))))

def upperBound (least : Nat) : Reader (Nat × Option Nat) :=
  ifHead '\x7d' (fun rest => .ok ((least, none), rest)) fun cs =>
    readNumber? flags cs >>= fun (most, rest) =>
      ifHead '\x7d'
        (fun rest => (match most with
          | some most => if least ≤ most then .ok (least, some most) else .error .invalidCount
          | none => .error .invalidCount) >>= fun counts => .ok (counts, rest))
        (fun _ => .error .invalidCount) rest

theorem readCounts_eq :
    readCounts flags = fun cs => readNumber? flags (flags.skip cs) >>= fun (least, rest) =>
      (match least with
        | some least => .ok least
        | none => .error .invalidCount) >>= fun least =>
          ifHead '\x7d' (fun rest => .ok ((least, some least), rest))
            (ifHead ',' (fun rest => upperBound flags least (flags.skip rest))
              fun _ => .error .invalidCount) rest := by
  funext cs
  rw [readCounts]
  congr 1
  funext ⟨least, rest⟩
  cases least with
  | none => rfl
  | some least =>
    simp only [ok_bind]
    split
    . rfl
    . next rest =>
      simp only [ifHead_cons, upperBound]
      generalize flags.skip rest = rest
      split
      . rfl
      . next hclose =>
        simp only [Char.reduceEq, if_false, if_true]
        rw [ifHead_of_ne hclose]
        congr 1
        funext ⟨most, rest⟩
        cases rest with
        | nil => cases most <;> rfl
        | cons c rest =>
          by_cases hc : c = '\x7d'
          . subst hc
            cases most <;> simp
            split <;> rfl
          . cases most <;> simp [hc]
    . next hclose hcomma =>
      rw [ifHead_of_ne hclose, ifHead_of_ne hcomma]
      rfl

theorem agrees_upperBound (least : Nat) :
    Agrees never k (upperBound flags least) (upperBound flags least) := by
  apply Agrees.ifHead (by decide) (.pure _)
  apply (agrees_readNumber? flags).bind
  intro most
  exact .ifHead (by decide) (.value .pure) (.error _)

theorem agrees_readCounts : Agrees never k (readCounts flags) (readCounts flags) := by
  rw [readCounts_eq]
  apply (Agrees.skip flags (agrees_readNumber? flags)).bind
  intro least
  apply Agrees.value
  intro least
  apply Agrees.ifHead (by decide) (.pure _)
  exact .ifHead (by decide) (.skip flags (agrees_upperBound flags least)) (.error _)

theorem agrees_repeatLast (least : Nat) (most : Option Nat) :
    Agrees never k (repeatLast flags parts least most) (repeatLast flags parts least most) := by
  match parts with
  | ⟨some p, depth⟩ :: parts =>
    have heq : repeatLast flags (⟨some p, depth⟩ :: parts) least most
        = ifHead '?'
          (fun rest =>
            .ok (⟨some (p.times least most (true == flags.lazy)), depth + 1⟩ :: parts, rest))
          (fun cs =>
            .ok (⟨some (p.times least most (false == flags.lazy)), depth + 1⟩ :: parts, cs)) := by
      funext cs
      cases cs with
      | nil => rfl
      | cons c cs => by_cases hc : c = '?' <;> simp [repeatLast, hc]
    rw [heq]
    exact .ifHead (by decide) (.pure _) (.pure _)
  | ⟨none, depth⟩ :: parts => exact .error .missingOperand
  | [] => exact .error .missingOperand

def afterOperator (fuel least : Nat) (most : Option Nat) : Reader (Part × Groups) :=
  fun cs => repeatLast flags parts least most cs >>= fun (parts, rest) =>
    alternatives flags groups done parts fuel rest

def nextPart (fuel length : Nat) : Reader (Part × Groups) :=
  fun cs => stop (alternatives.finish done parts, groups)
    (ifHead '|' (alternatives flags groups (done ++ [joinParts parts.reverse]) [] fuel)
    (ifHead '(' (fun rest => group flags groups fuel rest >>= fun ((part, flags, groups), rest) =>
      alternatives flags groups done (part :: parts) fuel rest)
    (ifHead '[' (fun rest =>
      bracket flags (2 * length + 2) rest >>= fun ((set, depth), rest) =>
        alternatives flags groups done (⟨some (.char set), depth⟩ :: parts) fuel rest)
    (ifHead '?' (afterOperator flags groups done parts fuel 0 (some 1))
    (ifHead '*' (afterOperator flags groups done parts fuel 0 none)
    (ifHead '+' (afterOperator flags groups done parts fuel 1 none)
    (ifHead '\x7b' (fun rest =>
      (if parts.isEmpty then .error .missingOperand else .ok ()) >>= fun _ =>
        readCounts flags rest >>= fun ((least, most), rest) =>
          afterOperator flags groups done parts fuel least most (flags.skip rest))
    (ifHead '.' (fun rest => flags.dot >>= fun set =>
      alternatives flags groups done (⟨some (.char set), 0⟩ :: parts) fuel rest)
    (ifHead '^' (alternatives flags groups done (⟨some (.look flags.startOfLine), 0⟩ :: parts) fuel)
    (ifHead '$' (alternatives flags groups done (⟨some (.look flags.endOfLine), 0⟩ :: parts) fuel)
    (ifHead '\\' (fun rest => escape flags rest >>= fun (atom, rest) =>
      alternatives flags groups done (atomPart flags atom :: parts) fuel rest)
    (take .invalidEscape fun c =>
      alternatives flags groups done (atomPart flags (.literal c) :: parts) fuel))))))))))))
    (flags.skip cs)

theorem alternatives_succ (fuel : Nat) :
    alternatives flags groups done parts (fuel + 1)
      = fun cs => nextPart flags groups done parts fuel cs.length cs := by
  funext cs
  rw [alternatives, nextPart]
  generalize flags.skip cs = rest
  split
  case h_9 =>
    cases parts <;> rfl
  case h_14 c rest hclose hbar hopen hclass hoption hstar hplus hbrace hdot hhat hdollar hslash =>
    simp only [stop_cons, ifHead_cons, take_cons]
    rw [if_neg hclose, if_neg hbar, if_neg hopen, if_neg hclass, if_neg hoption, if_neg hstar,
      if_neg hplus, if_neg hbrace, if_neg hdot, if_neg hhat, if_neg hdollar, if_neg hslash]
  all_goals rfl

def closing {α : Type} (a : α) : Reader α :=
  take .unclosedGroup fun c rest => if c = ')' then .ok (a, rest) else .error .unclosedGroup

theorem closed_bind {α : Type} (a : α) (cs : List Char) :
    (closed cs >>= fun rest => .ok (a, rest)) = closing a cs := by
  cases cs with
  | nil => rfl
  | cons c rest => by_cases hc : c = ')' <;> simp [closed, closing, hc]

theorem agrees_closing {α : Type} (a : α) : Agrees never k (closing a) (closing a) := by
  have hclosing : ∀ {k : Nat} (c : Char), Agrees never k
      (fun rest => if c = ')' then .ok (a, rest) else .error .unclosedGroup)
      fun rest => if c = ')' then .ok (a, rest) else .error .unclosedGroup :=
    fun c => .ite (.pure a) (.error .unclosedGroup)
  exact .take (fun c => (hclosing (k := k) c).shortens) fun c _ => hclosing c

def enclosed (fuel : Nat) (result : Part → Groups → Part × Flags × Groups) :
    Reader (Part × Flags × Groups) :=
  fun cs => alternatives flags groups [] [] fuel cs >>= fun ((part, after), rest) =>
    closing (result part after) rest

theorem shortens_enclosed {fuel : Nat} {result : Part → Groups → Part × Flags × Groups}
    (h : Shortens (alternatives flags groups [] [] fuel)) :
    Shortens (enclosed flags groups fuel result) :=
  h.bind fun r => (agrees_closing (k := 0) (result r.1 r.2)).shortens

theorem agrees_enclosed {fuel fuel' : Nat} {result : Part → Groups → Part × Flags × Groups}
    (h : Agrees never k (alternatives flags groups [] [] fuel)
      (alternatives flags groups [] [] fuel')) :
    Agrees never k (enclosed flags groups fuel result) (enclosed flags groups fuel' result) :=
  h.bind fun r => agrees_closing (result r.1 r.2)

def Groups.opened (name : Option String) : Groups :=
  ⟨groups.next + 1,
    match name with
    | some name => groups.names ++ [(name, groups.next)]
    | none => groups.names⟩

theorem captured_succ (name : Option String) (fuel : Nat) :
    captured flags groups name (fuel + 1)
      = enclosed flags (groups.opened name) fuel fun part after =>
        (⟨part.tree.map (.capture groups.next), part.depth + 1⟩, flags, after) := by
  funext cs
  simp only [enclosed, ← closed_bind, captured]
  rfl

theorem named_succ (fuel : Nat) :
    named flags groups (fuel + 1) = fun cs => groupName cs >>= fun (name, rest) =>
      (if groups.names.any (·.1 == name) then .error .invalidName else .ok ()) >>= fun _ =>
        captured flags groups (some name) fuel rest := by
  funext cs
  rw [named]
  congr 1
  funext ⟨name, rest⟩
  simp only
  split <;> rfl

def setting (fuel : Nat) : Reader (Part × Flags × Groups) :=
  fun cs => readFlags flags [] cs >>= fun ((inner, changed), rest) =>
    take .unclosedGroup (fun c rest =>
      if c = ')' then
        if changed then .ok ((⟨none, 0⟩, inner, groups), rest) else .error .missingOperand
      else
        enclosed inner groups fuel (fun part after => (⟨part.tree, part.depth + 1⟩, flags, after))
          rest) rest

theorem setting_eq (fuel : Nat) (cs : List Char) :
    (do
      let ((inner, changed), rest) ← readFlags flags [] cs
      match rest with
      | ')' :: rest =>
        if changed then return ((⟨none, 0⟩, inner, groups), rest) else throw .missingOperand
      | _ =>
        let ((part, groups), rest) ← alternatives inner groups [] [] fuel (rest.drop 1)
        let rest ← closed rest
        return ((⟨part.tree, part.depth + 1⟩, flags, groups), rest))
      = setting flags groups fuel cs := by
  rw [setting]
  cases hread : readFlags flags [] cs with
  | error e => rfl
  | ok r =>
    obtain ⟨⟨inner, changed⟩, rest⟩ := r
    cases rest with
    | nil => exact absurd rfl (readFlags_suffix flags hread).1
    | cons c rest =>
      by_cases hc : c = ')'
      . subst hc
        rfl
      . simp only [ok_bind, take_cons, if_neg hc, enclosed, ← closed_bind, List.drop_succ_cons,
          List.drop_zero]
        split
        . simp_all
        . rfl

theorem setting_named (fuel : Nat) (rest : List Char) :
    setting flags groups fuel ('P' :: rest) = .error .invalidFlags := by
  have hread : readFlags flags [] ('P' :: rest) = .error .invalidFlags := by
    simp [readFlags, Flags.set?]
  rw [setting, hread]
  rfl

theorem group_succ (fuel : Nat) :
    group flags groups (fuel + 1) = fun cs =>
      ifHead '?'
        (ifHead '=' (fun _ => .error .lookAround)
        (ifHead '!' (fun _ => .error .lookAround)
        (ifHead '<'
          (ifHead '=' (fun _ => .error .lookAround)
          (ifHead '!' (fun _ => .error .lookAround)
          (named flags groups fuel)))
        (ifHead 'P' (ifHead '<' (named flags groups fuel) fun _ => .error .invalidFlags)
        (setting flags groups fuel)))))
        (captured flags groups none fuel) (flags.skip cs) := by
  funext cs
  rw [group]
  generalize flags.skip cs = rest
  split
  case h_6 rest hequals hmark =>
    exact ((ifHead_of_ne hequals).trans (ifHead_of_ne hmark)).symm
  case h_7 rest hequals hmark _ _ hname hangle =>
    rw [ifHead_cons, if_pos rfl, ifHead_of_ne hequals, ifHead_of_ne hmark, ifHead_of_ne hangle]
    apply (setting_eq flags groups fuel rest).trans
    match rest with
    | [] => rfl
    | c :: rest =>
      by_cases hc : c = 'P'
      . subst hc
        have hangle' : ∀ after, rest ≠ '<' :: after := by
          rintro after rfl
          exact hname after rfl
        rw [setting_named, ifHead_cons, if_pos rfl, ifHead_of_ne hangle']
      . rw [ifHead_cons, if_neg hc]
  case h_8 hmark =>
    rw [ifHead_of_ne hmark]
  all_goals rfl

theorem shortens_nextPart {fuel : Nat} (length : Nat)
    (halternatives : ∀ flags groups done parts, Shortens (alternatives flags groups done parts fuel))
    (hgroup : ∀ flags groups, Shortens (group flags groups fuel)) :
    Shortens (nextPart flags groups done parts fuel length) := by
  have hoperator : ∀ least most,
      Shortens (afterOperator flags groups done parts fuel least most) := fun least most =>
    (agrees_repeatLast flags parts (k := 0) least most).shortens.bind fun parts =>
      halternatives flags groups done parts
  apply Shortens.after (skip_suffix flags)
  apply Shortens.stop
  apply Shortens.ifHead (halternatives _ _ _ _)
  apply Shortens.ifHead ((hgroup flags groups).bind fun r => halternatives r.2.1 r.2.2 done _)
  apply Shortens.ifHead ((shortens_brackets flags _).1.bind fun r => halternatives _ _ _ _)
  apply Shortens.ifHead (hoperator 0 (some 1))
  apply Shortens.ifHead (hoperator 0 none)
  apply Shortens.ifHead (hoperator 1 none)
  apply Shortens.ifHead
  . exact .value fun _ => (agrees_readCounts flags (k := 0)).shortens.bind fun counts =>
      (hoperator counts.1 counts.2).after (skip_suffix flags)
  apply Shortens.ifHead (.value fun set => halternatives _ _ _ _)
  apply Shortens.ifHead (halternatives _ _ _ _)
  apply Shortens.ifHead (halternatives _ _ _ _)
  apply Shortens.ifHead
    ((agrees_escape flags (k := 0)).shortens.bind fun atom => halternatives _ _ _ _)
  exact .take fun c => halternatives _ _ _ _

theorem shortens_setting {fuel : Nat}
    (halternatives : ∀ flags groups done parts,
      Shortens (alternatives flags groups done parts fuel)) :
    Shortens (setting flags groups fuel) := by
  apply (agrees_readFlags flags (k := 0) []).shortens.bind
  intro r
  apply Shortens.take
  intro c
  split
  . split
    . exact .pure _
    . exact .error _
  . exact shortens_enclosed r.1 groups (halternatives _ _ _ _)

theorem shortens_groups (fuel : Nat) :
    (∀ flags groups done parts, Shortens (alternatives flags groups done parts fuel))
      ∧ (∀ flags groups, Shortens (group flags groups fuel))
      ∧ (∀ flags groups, Shortens (named flags groups fuel))
      ∧ ∀ flags groups name, Shortens (captured flags groups name fuel) := by
  induction fuel with
  | zero =>
    refine ⟨?_, ?_, ?_, ?_⟩
    all_goals
      intros
      exact .error .tooDeep
  | succ fuel ih =>
    obtain ⟨halternatives, hgroup, hnamed, hcaptured⟩ := ih
    refine ⟨?_, ?_, ?_, ?_⟩
    . intro flags groups done parts cs
      rw [alternatives_succ]
      exact shortens_nextPart flags groups done parts cs.length halternatives hgroup cs
    . intro flags groups
      rw [group_succ]
      have hnamed := hnamed flags groups
      have hset := shortens_setting flags groups halternatives
      apply Shortens.after (skip_suffix flags)
      apply Shortens.ifHead _ (hcaptured flags groups none)
      apply Shortens.ifHead (.error .lookAround)
      apply Shortens.ifHead (.error .lookAround)
      apply Shortens.ifHead
      . exact .ifHead (.error .lookAround) (.ifHead (.error .lookAround) hnamed)
      exact .ifHead (.ifHead hnamed (.error .invalidFlags)) hset
    . intro flags groups
      rw [named_succ]
      apply shortens_groupName.bind
      exact fun name => .value fun _ => hcaptured flags groups (some name)
    . intro flags groups name
      rw [captured_succ]
      exact shortens_enclosed flags _ (halternatives _ _ _ _)

theorem readCounts_of_skip {blanks t : List Char} (hblanks : flags.skip blanks = [])
    (ht : Trailer t) : readCounts flags (blanks ++ t) = .error .invalidCount := by
  have hnone : ∀ cs, cs = [] ∨ cs = [')', '$'] →
      ∃ rest, readNumber? flags cs = .ok (none, rest) := by
    rintro cs (rfl | rfl)
    . exact ⟨_, rfl⟩
    . exact ⟨_, rfl⟩
  have hskip : flags.skip (blanks ++ t) = [] ∨ flags.skip (blanks ++ t) = [')', '$'] := by
    obtain heq | ⟨heq, -⟩ := skip_append flags blanks ht
    . rw [heq, hblanks, List.nil_append]
      cases ht with
      | nothing => exact .inl rfl
      | closing => exact .inr rfl
    . exact .inl heq
  obtain ⟨rest, hrest⟩ := hnone _ hskip
  simp [readCounts_eq, hrest]

theorem alternatives_dangling {mid t : List Char} (hmid : Dangling flags mid) (ht : Trailer t)
    (fuel : Nat) : ∃ e, alternatives flags groups done parts fuel (mid ++ t) = .error e := by
  obtain ⟨blanks, rfl, hblanks⟩ := hmid
  cases fuel with
  | zero => exact ⟨_, rfl⟩
  | succ fuel =>
    rw [alternatives_succ, List.cons_append]
    simp only [nextPart]
    rw [skip_cons flags (by decide) (by decide)]
    simp only [stop_cons, ifHead_cons, Char.reduceEq, if_false, if_true,
      readCounts_of_skip flags hblanks ht]
    cases parts with
    | nil => exact ⟨_, rfl⟩
    | cons => exact ⟨_, rfl⟩

theorem agrees_nextPart {fuel fuel' length length' : Nat} (hk : k ≤ length)
    (hlength : length ≤ length')
    (hshort : ∀ flags groups done parts, Shortens (alternatives flags groups done parts fuel'))
    (hgroupShort : ∀ flags groups, Shortens (group flags groups fuel'))
    (halternatives : 0 < k → ∀ flags groups done parts, Agrees never (k - 1)
      (alternatives flags groups done parts fuel) (alternatives flags groups done parts fuel'))
    (hgroup : 0 < k → ∀ flags groups,
      Agrees never (k - 1) (group flags groups fuel) (group flags groups fuel')) :
    Agrees never k (nextPart flags groups done parts fuel length)
      (nextPart flags groups done parts fuel' length') := by
  have hpush : 0 < k → ∀ part, Agrees never (k - 1)
      (alternatives flags groups done (part :: parts) fuel)
      (alternatives flags groups done (part :: parts) fuel') :=
    fun hpos part => halternatives hpos flags groups done (part :: parts)
  have hoperator : 0 < k → ∀ least most, Agrees never (k - 1)
      (afterOperator flags groups done parts fuel least most)
      (afterOperator flags groups done parts fuel' least most) := fun hpos least most =>
    (agrees_repeatLast flags parts least most).bind fun parts =>
      halternatives hpos flags groups done parts
  have hoperatorShort : ∀ least most,
      Shortens (afterOperator flags groups done parts fuel' least most) := fun least most =>
    (agrees_repeatLast flags parts (k := 0) least most).shortens.bind fun parts =>
      hshort flags groups done parts
  apply Agrees.skip
  apply Agrees.stop
  apply Agrees.ifHead_of_pos (by decide) (hshort _ _ _ _) fun hpos => halternatives hpos _ _ _ _
  apply Agrees.ifHead_of_pos (by decide)
    ((hgroupShort flags groups).bind fun r => hshort r.2.1 r.2.2 done _)
  . exact fun hpos => (hgroup hpos flags groups).bind fun r => halternatives hpos _ _ _ _
  apply Agrees.ifHead_of_pos (by decide)
    ((shortens_brackets flags _).1.bind fun r => hshort _ _ _ _)
  . exact fun hpos => (agrees_bracket flags (by omega) (by omega)).bind fun r => hpush hpos _
  apply Agrees.ifHead_of_pos (by decide) (hoperatorShort _ _) fun hpos => hoperator hpos _ _
  apply Agrees.ifHead_of_pos (by decide) (hoperatorShort _ _) fun hpos => hoperator hpos _ _
  apply Agrees.ifHead_of_pos (by decide) (hoperatorShort _ _) fun hpos => hoperator hpos _ _
  apply Agrees.ifHead_of_pos (by decide)
  . exact .value fun _ => (agrees_readCounts flags (k := 0)).shortens.bind fun counts =>
      (hoperatorShort counts.1 counts.2).after (skip_suffix flags)
  . exact fun hpos => .value fun _ => (agrees_readCounts flags).bind fun counts =>
      .skip flags (hoperator hpos counts.1 counts.2)
  apply Agrees.ifHead_of_pos (by decide) (.value fun set => hshort _ _ _ _)
  . exact fun hpos => .value fun set => hpush hpos _
  apply Agrees.ifHead_of_pos (by decide) (hshort _ _ _ _) fun hpos => hpush hpos _
  apply Agrees.ifHead_of_pos (by decide) (hshort _ _ _ _) fun hpos => hpush hpos _
  apply Agrees.ifHead_of_pos (by decide)
    ((agrees_escape flags (k := 0)).shortens.bind fun atom => hshort _ _ _ _)
  . intro hpos
    apply (agrees_escape flags).bind_except (fun atom => hshort _ _ _ _)
    . intro cs atom rest hcs hread
      exact (hpush hpos _).mono
        (Nat.le_trans ((agrees_escape flags).suffix hcs hread).length_le hcs)
    . intro atom mid t b rest hE ht h
      cases atom with
      | look l =>
        obtain ⟨e, herror⟩ := alternatives_dangling flags groups done _ hE ht fuel'
        cases herror.symm.trans h
      | literal | set => exact hE.elim
  exact .take (fun c => hshort _ _ _ _) fun c hpos => hpush hpos _

theorem agrees_setting {fuel fuel' : Nat}
    (hshort : ∀ flags groups done parts, Shortens (alternatives flags groups done parts fuel'))
    (halternatives : ∀ flags groups done parts, Agrees never (k - 1)
      (alternatives flags groups done parts fuel) (alternatives flags groups done parts fuel')) :
    Agrees never k (setting flags groups fuel) (setting flags groups fuel') := by
  -- The parenthesis of the trailer may end the flags, but then not all of the trailer is left.
  have hbody : ∀ (r : Flags × Bool) (c : Char), Shortens fun rest =>
      if c = ')' then
        if r.2 then .ok ((⟨none, 0⟩, r.1, groups), rest) else .error .missingOperand
      else
        enclosed r.1 groups fuel' (fun part after => (⟨part.tree, part.depth + 1⟩, flags, after))
          rest := by
    intro r c
    split
    . split
      . exact .pure _
      . exact .error _
    . exact shortens_enclosed r.1 groups (hshort _ _ _ _)
  apply (agrees_readFlags flags []).bind_except fun r => .take (hbody r)
  . intro cs r rest hcs hread
    have hle := Nat.le_trans (readFlags_suffix flags hread).2.length_le hcs
    apply Agrees.take (hbody r)
    intro c hpos
    split
    . split
      . exact .pure _
      . exact .error _
    . exact agrees_enclosed r.1 groups ((halternatives _ _ _ _).mono (by omega))
  . rintro r _ t a rest rfl ht h
    cases ht with
    | nothing => cases h
    | closing =>
      have hle := (hbody r ')' ['$'] a _ h).length_le
      rw [List.length_append, List.length_cons, List.length_singleton] at hle
      omega

theorem agrees_groups (fuel : Nat) :
    (∀ {k fuel'} flags groups done parts, 4 * k + 1 ≤ fuel → fuel ≤ fuel' →
        Agrees never k (alternatives flags groups done parts fuel)
          (alternatives flags groups done parts fuel'))
      ∧ (∀ {k fuel'} flags groups, 4 * k + 4 ≤ fuel → fuel ≤ fuel' →
        Agrees never k (group flags groups fuel) (group flags groups fuel'))
      ∧ (∀ {k fuel'} flags groups, 4 * k + 3 ≤ fuel → fuel ≤ fuel' →
        Agrees never k (named flags groups fuel) (named flags groups fuel'))
      ∧ ∀ {k fuel'} flags groups name, 4 * k + 2 ≤ fuel → fuel ≤ fuel' →
        Agrees never k (captured flags groups name fuel) (captured flags groups name fuel') := by
  -- One step is enough for each character, and three more for a group.
  induction fuel with
  | zero =>
    refine ⟨?_, ?_, ?_, ?_⟩
    all_goals
      intros
      omega
  | succ fuel ih =>
    obtain ⟨halternatives, hgroup, hnamed, hcaptured⟩ := ih
    refine ⟨?_, ?_, ?_, ?_⟩
    . intro k fuel' flags groups done parts hk hfuel
      obtain ⟨fuel', rfl⟩ : ∃ n, fuel' = n + 1 := ⟨fuel' - 1, by omega⟩
      obtain ⟨hshort, hgroupShort, -, -⟩ := shortens_groups fuel'
      rw [alternatives_succ, alternatives_succ]
      apply Agrees.length
      . exact fun m => shortens_nextPart flags groups done parts m hshort hgroupShort
      . intro m m' hm hm'
        apply agrees_nextPart flags groups done parts (Nat.le_refl m) hm' hshort hgroupShort
        . exact fun hpos flags groups done parts =>
            halternatives flags groups done parts (by omega) (by omega)
        . exact fun hpos flags groups => hgroup flags groups (by omega) (by omega)
    . intro k fuel' flags groups hk hfuel
      obtain ⟨fuel', rfl⟩ : ∃ n, fuel' = n + 1 := ⟨fuel' - 1, by omega⟩
      have hnamed : ∀ {j}, j ≤ k →
          Agrees never j (named flags groups fuel) (named flags groups fuel') :=
        fun hj => hnamed flags groups (by omega) (by omega)
      have hset : ∀ {j}, j ≤ k →
          Agrees never j (setting flags groups fuel) (setting flags groups fuel') :=
        fun hj => agrees_setting flags groups (shortens_groups fuel').1
          fun flags groups done parts => halternatives flags groups done parts (by omega) (by omega)
      rw [group_succ, group_succ]
      apply Agrees.skip
      apply Agrees.ifHead (by decide) _ (hcaptured flags groups none (by omega) (by omega))
      apply Agrees.ifHead (by decide) (.error .lookAround)
      apply Agrees.ifHead (by decide) (.error .lookAround)
      apply Agrees.ifHead (by decide)
      . exact .ifHead (by decide) (.error .lookAround)
          (.ifHead (by decide) (.error .lookAround) (hnamed (by omega)))
      . exact .ifHead (by decide)
          (.ifHead (by decide) (hnamed (by omega)) (.error .invalidFlags)) (hset (by omega))
    . intro k fuel' flags groups hk hfuel
      obtain ⟨fuel', rfl⟩ : ∃ n, fuel' = n + 1 := ⟨fuel' - 1, by omega⟩
      rw [named_succ, named_succ]
      apply agrees_groupName.bind
      exact fun name => .value fun _ =>
        hcaptured flags groups (some name) (by omega) (by omega)
    . intro k fuel' flags groups name hk hfuel
      obtain ⟨fuel', rfl⟩ : ∃ n, fuel' = n + 1 := ⟨fuel' - 1, by omega⟩
      rw [captured_succ, captured_succ]
      exact agrees_enclosed flags _ (halternatives _ _ _ _ (by omega) (by omega))

theorem agrees_alternatives {fuel fuel' : Nat} (hk : 4 * k + 1 ≤ fuel) (hfuel : fuel ≤ fuel') :
    Agrees never k (alternatives flags groups done parts fuel)
      (alternatives flags groups done parts fuel') :=
  (agrees_groups fuel).1 flags groups done parts hk hfuel

end Pattern

end Stencil
