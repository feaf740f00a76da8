import Stencil.Pattern.Tree

/-!
This module contains the language of a pattern: from which places of a text to which ones it leads.
Of a text only the character before a place and what comes after it are ever looked at, so that is
what a place is.
-/

namespace Stencil

/--
A place in a text: the character before it, which is missing at the start, and the text after it.
-/
structure Place where
  before : Option Char
  after : List Char

namespace Place

def start (text : List Char) : Place :=
  ⟨none, text⟩

inductive Later : Place → Place → Prop where
  | here (p : Place) : Later p p
  | next {before : Option Char} {c : Char} {rest : List Char} {q : Place}
      (h : Later ⟨some c, rest⟩ q) : Later ⟨before, c :: rest⟩ q

theorem later_nil {before : Option Char} {q : Place} : Later ⟨before, []⟩ q ↔ q = ⟨before, []⟩ := by
  constructor
  . intro h
    cases h
    rfl
  . rintro rfl
    exact .here _

theorem later_cons {before : Option Char} {c : Char} {rest : List Char} {q : Place} :
    Later ⟨before, c :: rest⟩ q ↔ q = ⟨before, c :: rest⟩ ∨ Later ⟨some c, rest⟩ q := by
  constructor
  . intro h
    cases h with
    | here => exact .inl rfl
    | next h => exact .inr h
  . rintro (rfl | h)
    . exact .here _
    . exact .next h

theorem Later.eq_of_before {p q : Place} (h : Later p q) (hq : q.before = none) : q = p := by
  induction h with
  | here => rfl
  | next h ih =>
    cases ih hq
    simp at hq

end Place

namespace Pattern

def Times (leads : Place → Place → Prop) : Nat → Place → Place → Prop
  | 0, p, q => p = q
  | n + 1, p, q => ∃ m, leads p m ∧ Times leads n m q

/--
The pattern matches the text between two places. Which match is preferred makes no difference here.
-/
def Leads : Pattern → Place → Place → Prop
  | empty, p, q => p = q
  | char set, p, q => ∃ c, set.contains c ∧ p.after = c :: q.after ∧ q.before = some c
  | look l, p, q => l.holds p.before p.after.head? ∧ p = q
  | cat first second, p, q => ∃ m, first.Leads p m ∧ second.Leads m q
  | alt left right, p, q => left.Leads p q ∨ right.Leads p q
  | repeated body least most _, p, q =>
    ∃ n, least ≤ n ∧ (∀ m ∈ most, n ≤ max least m) ∧ Times body.Leads n p q
  | capture _ body, p, q => body.Leads p q

/--
The text as a whole belongs to the language of the pattern.
-/
def Describes (pattern : Pattern) (text : List Char) : Prop :=
  ∃ before, pattern.Leads (.start text) ⟨before, []⟩

def OccursIn (pattern : Pattern) (text : List Char) : Prop :=
  ∃ p q, Place.Later (.start text) p ∧ pattern.Leads p q

theorem times_add {leads : Place → Place → Prop} {m n : Nat} {p q : Place} :
    Times leads (m + n) p q ↔ ∃ o, Times leads m p o ∧ Times leads n o q := by
  induction m generalizing p with
  | zero => simp [Times]
  | succ m ih =>
    simp only [Nat.succ_add, Times, ih]
    constructor
    . rintro ⟨o, hp, r, hr, hq⟩
      exact ⟨r, ⟨o, hp, hr⟩, hq⟩
    . rintro ⟨r, ⟨o, hp, hr⟩, hq⟩
      exact ⟨o, hp, r, hr, hq⟩

theorem times_succ {leads : Place → Place → Prop} {n : Nat} {p q : Place} :
    Times leads (n + 1) p q ↔ ∃ o, Times leads n p o ∧ leads o q := by
  rw [times_add]
  simp [Times]

theorem isEmpty_iff {pattern : Pattern} : pattern.isEmpty ↔ pattern = empty := by
  cases pattern <;> simp [isEmpty]

def LeadsAll : List Pattern → Place → Place → Prop
  | [], p, q => p = q
  | first :: rest, p, q => ∃ m, first.Leads p m ∧ LeadsAll rest m q

theorem leads_join {patterns : List Pattern} {p q : Place} :
    (sequence.join patterns).Leads p q ↔ LeadsAll patterns p q := by
  fun_induction sequence.join patterns generalizing p with
  | case1 => simp [Leads, LeadsAll]
  | case2 first => simp [LeadsAll]
  | case3 first rest hrest ih => simp [Leads, LeadsAll, ih]

theorem leadsAll_filter {patterns : List Pattern} {p q : Place} :
    LeadsAll (patterns.filter (!·.isEmpty)) p q ↔ LeadsAll patterns p q := by
  induction patterns generalizing p with
  | nil => simp
  | cons first rest ih =>
    by_cases hempty : first.isEmpty
    . rw [List.filter_cons_of_neg (by simpa using hempty), ih]
      simp [isEmpty_iff.mp hempty, LeadsAll, Leads]
    . rw [List.filter_cons_of_pos (by simpa using hempty)]
      simp only [LeadsAll, ih]

theorem leads_sequence {patterns : List Pattern} {p q : Place} :
    (sequence patterns).Leads p q ↔ LeadsAll patterns p q := by
  rw [sequence, leads_join, leadsAll_filter]

theorem occursIn_whole {pattern : Pattern} {text : List Char} :
    (sequence [.look .startOfText, pattern, .look .endOfText]).OccursIn text
      ↔ pattern.Describes text := by
  simp only [OccursIn, Describes, leads_sequence, LeadsAll, Leads, Look.holds]
  constructor
  . rintro ⟨p, q, hlater, m, ⟨hstart, rfl⟩, n, hn, o, ⟨hend, rfl⟩, rfl⟩
    have hp : p = .start text := hlater.eq_of_before (by simpa using hstart)
    have hafter : n.after = [] := by simpa using hend
    refine ⟨n.before, ?_⟩
    rw [← hp, ← hafter]
    exact hn
  . rintro ⟨before, h⟩
    exact ⟨.start text, ⟨before, []⟩, .here _, .start text, ⟨by simp [Place.start], rfl⟩,
      ⟨before, []⟩, h, ⟨before, []⟩, ⟨by simp, rfl⟩, rfl⟩

end Pattern

end Stencil
