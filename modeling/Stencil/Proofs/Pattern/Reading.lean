import Stencil.Pattern.Reader
import Stencil.Proofs.Outcome

/-!
This module contains the two texts in which a pattern is read: alone, or as a group with the test for
the end of the text behind it. Readers are put together from a few pieces, and what is shown of the
pieces here holds of every reader: the same is read from both texts, unless what stands behind the
pattern becomes a part of its last comment.
-/

namespace Stencil

open Outcome

namespace Pattern

abbrev Reader (α : Type) : Type :=
  List Char → Except PatternError (α × List Char)

/--
What stands behind a pattern: nothing, or the end of its group and the test for the end of the text.
-/
inductive Trailer : List Char → Prop where
  | nothing : Trailer []
  | closing : Trailer [')', '$']

theorem Trailer.head?_ne {t : List Char} (ht : Trailer t) {c : Char} (hc : c ≠ ')')
    {cs : List Char} : (cs ++ t).head? = some c ↔ cs.head? = some c := by
  cases cs with
  | nil => cases ht <;> simp [Ne.symm hc]
  | cons => simp

theorem takeWhile_append_of_ne {p : Char → Bool} {cs : List Char} (h : cs.dropWhile p ≠ [])
    (t : List Char) : (cs ++ t).takeWhile p = cs.takeWhile p := by
  have hlength := congrArg List.length (List.takeWhile_append_dropWhile (p := p) (l := cs))
  have hpos := List.length_pos_iff.mpr h
  rw [List.length_append] at hlength
  rw [List.takeWhile_append, if_neg (by omega)]

theorem Trailer.dropWhile {t : List Char} (ht : Trailer t) {p : Char → Bool} (hp : p ')' = false)
    (cs : List Char) : (cs ++ t).dropWhile p = cs.dropWhile p ++ t := by
  induction cs with
  | nil => cases ht <;> simp [List.dropWhile, hp]
  | cons c cs ih =>
    simp only [List.cons_append, List.dropWhile_cons]
    split
    . exact ih
    . rfl

namespace Reader

variable {α β : Type} {k : Nat}

def Shortens (f : Reader α) : Prop :=
  ∀ cs a rest, f cs = .ok (a, rest) → rest <:+ cs

def Consumes (f : Reader α) : Prop :=
  ∀ cs a rest, f cs = .ok (a, rest) → rest.length < cs.length

/--
From texts of limited length, the second reader reads with a trailer what the first one reads
without: the trailer is left as well, or was passed over in a comment. The exception `E` is for what
only the trailer makes readable, and what cannot be read on.
-/
structure Agrees (E : α → List Char → Prop) (k : Nat) (f f' : Reader α) : Prop where
  shortens : f'.Shortens
  extend {cs t rest : List Char} {a : α} (hk : cs.length ≤ k) (ht : Trailer t)
    (h : f cs = .ok (a, rest)) :
    ∃ rest', f' (cs ++ t) = .ok (a, rest') ∧ (rest' = rest ++ t ∨ rest' = rest)
  retract {cs t rest : List Char} {a : α} (hk : cs.length ≤ k) (ht : Trailer t)
    (h : f' (cs ++ t) = .ok (a, rest ++ t)) :
    f cs = .ok (a, rest) ∨ E a rest

abbrev never (_ : α) (_ : List Char) : Prop :=
  False

def ifHead (c : Char) (f g : Reader α) : Reader α
  | [] => g []
  | d :: rest => if d = c then f rest else g (d :: rest)

def ifPair (c : Char) (f g : Reader α) : Reader α
  | a :: b :: rest => if a = c ∧ b = c then f rest else g (a :: b :: rest)
  | cs => g cs

def take (e : PatternError) (f : Char → Reader α) : Reader α
  | [] => .error e
  | c :: rest => f c rest

def stop (a : α) (f : Reader α) : Reader α
  | [] => .ok (a, [])
  | c :: rest => if c = ')' then .ok (a, c :: rest) else f (c :: rest)

@[simp]
theorem ifHead_nil (c : Char) (f g : Reader α) : ifHead c f g [] = g [] := by
  rfl

@[simp]
theorem ifHead_cons (c d : Char) (f g : Reader α) (rest : List Char) :
    ifHead c f g (d :: rest) = if d = c then f rest else g (d :: rest) := by
  rfl

@[simp]
theorem ifPair_nil (c : Char) (f g : Reader α) : ifPair c f g [] = g [] := by
  rfl

@[simp]
theorem ifPair_single (c d : Char) (f g : Reader α) : ifPair c f g [d] = g [d] := by
  rfl

@[simp]
theorem ifPair_cons (c a b : Char) (f g : Reader α) (rest : List Char) :
    ifPair c f g (a :: b :: rest) = if a = c ∧ b = c then f rest else g (a :: b :: rest) := by
  rfl

theorem ifHead_of_ne {c : Char} {f g : Reader α} {cs : List Char} (h : ∀ rest, cs ≠ c :: rest) :
    ifHead c f g cs = g cs := by
  cases cs with
  | nil => rfl
  | cons d rest =>
    rw [ifHead_cons, if_neg]
    rintro rfl
    exact h rest rfl

theorem ifPair_of_ne {c : Char} {f g : Reader α} {cs : List Char} (h : ∀ rest, cs ≠ c :: c :: rest) :
    ifPair c f g cs = g cs := by
  match cs with
  | [] | [_] => rfl
  | a :: b :: rest =>
    rw [ifPair_cons, if_neg]
    rintro ⟨rfl, rfl⟩
    exact h rest rfl

@[simp]
theorem take_nil (e : PatternError) (f : Char → Reader α) : take e f [] = .error e := by
  rfl

@[simp]
theorem take_cons (e : PatternError) (f : Char → Reader α) (c : Char) (rest : List Char) :
    take e f (c :: rest) = f c rest := by
  rfl

@[simp]
theorem stop_nil (a : α) (f : Reader α) : stop a f [] = .ok (a, []) := by
  rfl

@[simp]
theorem stop_cons (a : α) (f : Reader α) (c : Char) (rest : List Char) :
    stop a f (c :: rest) = if c = ')' then .ok (a, c :: rest) else f (c :: rest) := by
  rfl

namespace Shortens

theorem pure (a : α) : Shortens fun cs => .ok (a, cs) := by
  rintro cs _ _ h
  cases h
  exact List.suffix_rfl

theorem error (e : PatternError) : Shortens (fun _ => .error e : Reader α) := by
  rintro cs _ _ h
  cases h

theorem bind {f : Reader α} {g : α × List Char → Except PatternError (β × List Char)}
    (hf : f.Shortens) (hg : ∀ a, Shortens fun rest => g (a, rest)) :
    Shortens fun cs => f cs >>= g := by
  intro cs b rest h
  obtain ⟨⟨a, mid⟩, ha, hb⟩ := bind_eq_ok.mp h
  exact (hg a mid b rest hb).trans (hf cs a mid ha)

theorem value {x : Except PatternError α} {g : α → Reader β} (hg : ∀ a, (g a).Shortens) :
    Shortens fun cs => x >>= fun a => g a cs := by
  intro cs b rest h
  obtain ⟨a, -, hb⟩ := bind_eq_ok.mp h
  exact hg a cs b rest hb

theorem after {f : Reader α} {skip : List Char → List Char} (hskip : ∀ cs, skip cs <:+ cs)
    (hf : f.Shortens) : Shortens fun cs => f (skip cs) :=
  fun cs a rest h => (hf (skip cs) a rest h).trans (hskip cs)

theorem branch {p : List Char → Bool} {f g : Reader α} (hf : f.Shortens) (hg : g.Shortens) :
    Shortens fun cs => if p cs then f cs else g cs := by
  intro cs a rest h
  cases hcs : p cs <;> simp only [hcs, Bool.false_eq_true, if_true, if_false] at h
  . exact hg cs a rest h
  . exact hf cs a rest h

theorem ifHead {c : Char} {f g : Reader α} (hf : f.Shortens) (hg : g.Shortens) :
    (ifHead c f g).Shortens := by
  rintro (_ | ⟨d, cs⟩) a rest h
  . exact hg [] a rest h
  . rw [Reader.ifHead] at h
    split at h
    . exact (hf cs a rest h).trans (List.suffix_cons d cs)
    . exact hg (d :: cs) a rest h

theorem ifPair {c : Char} {f g : Reader α} (hf : f.Shortens) (hg : g.Shortens) :
    (ifPair c f g).Shortens := by
  rintro (_ | ⟨d, _ | ⟨d', cs⟩⟩) a rest h
  . exact hg [] a rest h
  . exact hg [d] a rest h
  . rw [ifPair_cons] at h
    split at h
    . exact (hf cs a rest h).trans (List.suffix_append [d, d'] cs)
    . exact hg (d :: d' :: cs) a rest h

theorem take {e : PatternError} {f : Char → Reader α} (hf : ∀ c, (f c).Shortens) :
    (take e f).Shortens := by
  -- At the end of the pattern, a character that is taken belongs to the trailer, which is not left
  -- then.
  rintro (_ | ⟨c, cs⟩) a rest h
  . cases h
  . exact (hf c cs a rest h).trans (List.suffix_cons c cs)

theorem stop {a : α} {f : Reader α} (hf : f.Shortens) : (stop a f).Shortens := by
  rintro (_ | ⟨c, cs⟩) b rest h
  . cases h
    exact List.suffix_rfl
  . rw [Reader.stop] at h
    split at h
    . cases h
      exact List.suffix_rfl
    . exact hf (c :: cs) b rest h

end Shortens

namespace Consumes

theorem take {e : PatternError} {f : Char → Reader α} (hf : ∀ c, (f c).Shortens) :
    (take e f).Consumes := by
  rintro (_ | ⟨c, cs⟩) a rest h
  . cases h
  . exact Nat.lt_succ_of_le (hf c cs a rest h).length_le

theorem ifHead {c : Char} {f g : Reader α} (hf : f.Shortens) (hg : g.Consumes) :
    (ifHead c f g).Consumes := by
  rintro (_ | ⟨d, cs⟩) a rest h
  . exact hg [] a rest h
  . rw [ifHead_cons] at h
    split at h
    . exact Nat.lt_succ_of_le (hf cs a rest h).length_le
    . exact hg (d :: cs) a rest h

theorem bind {f : Reader α} {g : α × List Char → Except PatternError (β × List Char)}
    (hf : f.Consumes) (hg : ∀ a, Shortens fun rest => g (a, rest)) :
    Consumes fun cs => f cs >>= g := by
  intro cs b rest h
  obtain ⟨⟨a, mid⟩, ha, hb⟩ := bind_eq_ok.mp h
  exact Nat.lt_of_le_of_lt (hg a mid b rest hb).length_le (hf cs a mid ha)

end Consumes

namespace Agrees

variable {E : α → List Char → Prop} {f f' g g' : Reader α}

theorem mono (h : Agrees E k f f') {j : Nat} (hj : j ≤ k) : Agrees E j f f' where
  shortens := h.shortens
  extend hk := h.extend (Nat.le_trans hk hj)
  retract hk := h.retract (Nat.le_trans hk hj)

theorem congr_left (h : Agrees E k f f') (heq : ∀ cs, cs.length ≤ k → g cs = f cs) :
    Agrees E k g f' where
  shortens := h.shortens
  extend hk ht hok := h.extend hk ht ((heq _ hk).symm.trans hok)
  retract hk ht hok := by
    rw [heq _ hk]
    exact h.retract hk ht hok

theorem of_never (h : Agrees never k f f') : Agrees E k f f' where
  shortens := h.shortens
  extend := h.extend
  retract hk ht heq := (h.retract hk ht heq).imp id False.elim

theorem eq_ok (h : Agrees E k f f') {cs rest : List Char} {a : α} (hk : cs.length ≤ k)
    (heq : f cs = .ok (a, rest)) : f' cs = .ok (a, rest) := by
  obtain ⟨rest', heq', rfl | rfl⟩ := h.extend hk .nothing heq
  all_goals simpa using heq'

theorem suffix (h : Agrees E k f f') {cs rest : List Char} {a : α} (hk : cs.length ≤ k)
    (heq : f cs = .ok (a, rest)) : rest <:+ cs :=
  h.shortens cs a rest (h.eq_ok hk heq)

theorem pure (a : α) : Agrees E k (fun cs => .ok (a, cs)) fun cs => .ok (a, cs) where
  shortens := .pure a
  extend _ _ h := by
    cases h
    exact ⟨_, rfl, .inl rfl⟩
  retract _ _ h := by
    simp only [Except.ok.injEq, Prod.mk.injEq, List.append_cancel_right_eq] at h
    obtain ⟨rfl, rfl⟩ := h
    exact .inl rfl

theorem error (e : PatternError) :
    Agrees E k (fun _ => .error e : Reader α) fun _ => .error e where
  shortens := .error e
  extend _ _ h := by cases h
  retract _ _ h := by cases h

theorem bind_except {E' : β → List Char → Prop}
    {g g' : α × List Char → Except PatternError (β × List Char)} (hf : Agrees E k f f')
    (hs : ∀ a, Shortens fun rest => g' (a, rest))
    (hg : ∀ cs a rest, cs.length ≤ k → f cs = .ok (a, rest) →
      Agrees E' rest.length (fun r => g (a, r)) fun r => g' (a, r))
    (hE : ∀ a mid t b rest, E a mid → Trailer t → g' (a, mid ++ t) = .ok (b, rest ++ t) →
      E' b rest) :
    Agrees E' k (fun cs => f cs >>= g) fun cs => f' cs >>= g' where
  shortens := hf.shortens.bind hs
  extend {cs t rest b} hk ht h := by
  -- What only the trailer makes readable must not be read on with success, unless that is excepted
  -- again.
    obtain ⟨⟨a, mid⟩, ha, hb⟩ := bind_eq_ok.mp h
    have hmid := hg cs a mid hk ha
    obtain ⟨mid', ha', rfl | rfl⟩ := hf.extend hk ht ha
    . obtain ⟨rest', hb', hrest'⟩ := hmid.extend (Nat.le_refl _) ht hb
      exact ⟨rest', by rw [ha']; exact hb', hrest'⟩
    . exact ⟨rest, by rw [ha']; exact hmid.eq_ok (Nat.le_refl _) hb, .inr rfl⟩
  retract {cs t rest b} hk ht h := by
    obtain ⟨⟨a, mid'⟩, ha', hb'⟩ := bind_eq_ok.mp h
    -- The trailer is still there at the end, so it was there in between.
    obtain ⟨read, rfl⟩ := hs a mid' b (rest ++ t) hb'
    rw [← List.append_assoc] at ha' hb'
    obtain ha | hE' := hf.retract hk ht ha'
    . obtain hb | hE' := (hg cs a _ hk ha).retract (Nat.le_refl _) ht hb'
      . exact .inl (by rw [ha]; exact hb)
      . exact .inr hE'
    . exact .inr (hE a _ t b rest hE' ht hb')

theorem bind {E' : β → List Char → Prop}
    {g g' : α × List Char → Except PatternError (β × List Char)} (hf : Agrees never k f f')
    (hg : ∀ a, Agrees E' k (fun rest => g (a, rest)) fun rest => g' (a, rest)) :
    Agrees E' k (fun cs => f cs >>= g) fun cs => f' cs >>= g' := by
  apply hf.bind_except (fun a => (hg a).shortens)
  . exact fun cs a rest hk ha => (hg a).mono (Nat.le_trans (hf.suffix hk ha).length_le hk)
  . exact fun _ _ _ _ _ hE => hE.elim

theorem bind_of_pos {E' : β → List Char → Prop}
    {g g' : α × List Char → Except PatternError (β × List Char)} (hf : Agrees never k f f')
    (hconsumes : f.Consumes) (hs : ∀ a, Shortens fun rest => g' (a, rest))
    (hg : ∀ a, 0 < k → Agrees E' (k - 1) (fun rest => g (a, rest)) fun rest => g' (a, rest)) :
    Agrees E' k (fun cs => f cs >>= g) fun cs => f' cs >>= g' := by
  apply hf.bind_except hs
  . intro cs a rest hk ha
    have hlt := hconsumes cs a rest ha
    exact (hg a (by omega)).mono (by omega)
  . exact fun _ _ _ _ _ hE => hE.elim

theorem value {E' : β → List Char → Prop} {x : Except PatternError α} {g g' : α → Reader β}
    (hg : ∀ a, Agrees E' k (g a) (g' a)) :
    Agrees E' k (fun cs => x >>= fun a => g a cs) fun cs => x >>= fun a => g' a cs := by
  cases x with
  | ok a => exact hg a
  | error e => exact error e

theorem map {E' : β → List Char → Prop} {F : α → β} (hf : Agrees E k f f')
    (hE : ∀ a rest, E a rest → E' (F a) rest) :
    Agrees E' k (fun cs => (f cs).map fun (a, rest) => (F a, rest))
      fun cs => (f' cs).map fun (a, rest) => (F a, rest) where
  shortens cs b rest h := by
    obtain ⟨⟨a, _⟩, ha, heq⟩ := map_eq_ok.mp h
    cases heq
    exact hf.shortens cs a rest ha
  extend {cs t rest b} hk ht h := by
    obtain ⟨⟨a, _⟩, ha, heq⟩ := map_eq_ok.mp h
    cases heq
    obtain ⟨rest', ha', hrest'⟩ := hf.extend hk ht ha
    exact ⟨rest', by rw [ha']; rfl, hrest'⟩
  retract {cs t rest b} hk ht h := by
    obtain ⟨⟨a, _⟩, ha', heq⟩ := map_eq_ok.mp h
    cases heq
    obtain ha | hE' := hf.retract hk ht ha'
    . exact .inl (by rw [ha]; rfl)
    . exact .inr (hE a rest hE')

theorem ite {p : Prop} [Decidable p] (hf : Agrees E k f f') (hg : Agrees E k g g') :
    Agrees E k (fun cs => if p then f cs else g cs) fun cs => if p then f' cs else g' cs := by
  split
  . exact hf
  . exact hg

theorem ifHead_of_pos {c : Char} (hc : c ≠ ')') (hs : f'.Shortens)
    (hf : 0 < k → Agrees E (k - 1) f f') (hg : Agrees E k g g') :
    Agrees E k (ifHead c f g) (ifHead c f' g') where
  shortens := hs.ifHead hg.shortens
  extend {cs t rest a} hk ht h := by
    cases cs with
    | nil =>
      have heq : Reader.ifHead c f' g' t = g' t := by cases ht <;> simp [Ne.symm hc]
      simpa [heq] using hg.extend hk ht h
    | cons d cs =>
      rw [List.cons_append, ifHead_cons]
      rw [ifHead_cons] at h
      split at h
      . next hd =>
        rw [if_pos hd]
        simp only [List.length_cons] at hk
        exact (hf (by omega)).extend (by omega) ht h
      . next hd =>
        rw [if_neg hd]
        exact hg.extend hk ht h
  retract {cs t rest a} hk ht h := by
    cases cs with
    | nil =>
      have heq : Reader.ifHead c f' g' t = g' t := by cases ht <;> simp [Ne.symm hc]
      rw [List.nil_append, heq] at h
      exact hg.retract (Nat.zero_le k) ht h
    | cons d cs =>
      rw [List.cons_append, ifHead_cons] at h
      rw [ifHead_cons]
      split at h
      . next hd =>
        rw [if_pos hd]
        simp only [List.length_cons] at hk
        exact (hf (by omega)).retract (by omega) ht h
      . next hd =>
        rw [if_neg hd]
        exact hg.retract hk ht h

theorem ifHead {c : Char} (hc : c ≠ ')') (hf : Agrees E (k - 1) f f') (hg : Agrees E k g g') :
    Agrees E k (ifHead c f g) (ifHead c f' g') :=
  ifHead_of_pos hc hf.shortens (fun _ => hf) hg

theorem ifPair {c : Char} (hc : c ≠ ')') (hs : f'.Shortens)
    (hf : 0 < k → Agrees E (k - 1) f f') (hg : Agrees E k g g') :
    Agrees E k (ifPair c f g) (ifPair c f' g') where
  shortens := hs.ifPair hg.shortens
  extend {cs t rest a} hk ht h := by
    match cs with
    | [] =>
      have heq : Reader.ifPair c f' g' t = g' t := by cases ht <;> simp [Ne.symm hc]
      simpa [heq] using hg.extend hk ht h
    | [d] =>
      have heq : Reader.ifPair c f' g' (d :: t) = g' (d :: t) := by
        cases ht <;> simp [Ne.symm hc]
      simpa [heq] using hg.extend hk ht h
    | d :: d' :: cs =>
      simp only [List.cons_append, ifPair_cons] at h ⊢
      split at h
      . next hd =>
        rw [if_pos hd]
        simp only [List.length_cons] at hk
        exact (hf (by omega)).extend (by omega) ht h
      . next hd =>
        rw [if_neg hd]
        exact hg.extend hk ht h
  retract {cs t rest a} hk ht h := by
    match cs with
    | [] =>
      have heq : Reader.ifPair c f' g' t = g' t := by cases ht <;> simp [Ne.symm hc]
      rw [List.nil_append, heq] at h
      exact hg.retract hk ht h
    | [d] =>
      have heq : Reader.ifPair c f' g' ([d] ++ t) = g' ([d] ++ t) := by
        cases ht <;> simp [Ne.symm hc]
      rw [heq] at h
      exact hg.retract hk ht h
    | d :: d' :: cs =>
      simp only [List.cons_append, ifPair_cons] at h ⊢
      split at h
      . next hd =>
        rw [if_pos hd]
        simp only [List.length_cons] at hk
        exact (hf (by omega)).retract (by omega) ht h
      . next hd =>
        rw [if_neg hd]
        exact hg.retract hk ht h

theorem branch {p : List Char → Bool} (hp : ∀ cs t, Trailer t → p (cs ++ t) = p cs)
    (hf : Agrees E k f f') (hg : Agrees E k g g') :
    Agrees E k (fun cs => if p cs then f cs else g cs)
      fun cs => if p cs then f' cs else g' cs where
  shortens := hf.shortens.branch hg.shortens
  extend {cs t rest a} hk ht h := by
    rw [hp cs t ht]
    cases hcs : p cs <;> simp only [hcs, Bool.false_eq_true, if_true, if_false] at h ⊢
    . exact hg.extend hk ht h
    . exact hf.extend hk ht h
  retract {cs t rest a} hk ht h := by
    rw [hp cs t ht] at h
    cases hcs : p cs <;> simp only [hcs, Bool.false_eq_true, if_true, if_false] at h ⊢
    . exact hg.retract hk ht h
    . exact hf.retract hk ht h

theorem take {e e' : PatternError} {f f' : Char → Reader α} (hs : ∀ c, (f' c).Shortens)
    (hf : ∀ c, 0 < k → Agrees E (k - 1) (f c) (f' c)) :
    Agrees E k (take e f) (take e' f') where
  shortens := .take hs
  extend {cs t rest a} hk ht h := by
    cases cs with
    | nil => cases h
    | cons c cs =>
      simp only [List.length_cons] at hk
      exact (hf c (by omega)).extend (by omega) ht h
  retract {cs t rest a} hk ht h := by
    cases cs with
    | nil =>
      cases ht with
      | nothing => cases h
      | closing =>
        have hle := (hs ')' ['$'] a (rest ++ [')', '$']) h).length_le
        simp at hle
    | cons c cs =>
      simp only [List.length_cons] at hk
      exact (hf c (by omega)).retract (by omega) ht h

theorem exhausted {e e' : PatternError} {f' : Char → Reader α} (hs : ∀ c, (f' c).Shortens) :
    Agrees E 0 (fun _ => .error e) (Reader.take e' f') := by
  have htake : Agrees E 0 (Reader.take e f') (Reader.take e' f') :=
    take hs fun _ hpos => absurd hpos (Nat.lt_irrefl 0)
  apply htake.congr_left
  intro cs hk
  rw [List.length_eq_zero_iff.mp (Nat.le_zero.mp hk)]
  rfl

theorem stop {a : α} (hf : Agrees E k f f') : Agrees E k (stop a f) (stop a f') where
  shortens := hf.shortens.stop
  extend {cs t rest b} hk ht h := by
    cases cs with
    | nil =>
      cases h
      cases ht <;> exact ⟨_, rfl, .inl rfl⟩
    | cons c cs =>
      rw [Reader.stop] at h
      rw [List.cons_append, Reader.stop]
      split at h
      . next hc =>
        cases h
        exact ⟨_, if_pos hc, .inl rfl⟩
      . next hc =>
        rw [if_neg hc]
        exact hf.extend hk ht h
  retract {cs t rest b} hk ht h := by
    cases cs with
    | nil =>
      have heq : Reader.stop a f' t = .ok (a, t) := by cases ht <;> rfl
      rw [List.nil_append, heq] at h
      simp only [Except.ok.injEq, Prod.mk.injEq, List.self_eq_append_left] at h
      obtain ⟨rfl, rfl⟩ := h
      exact .inl rfl
    | cons c cs =>
      rw [List.cons_append, Reader.stop] at h
      rw [Reader.stop]
      split at h
      . next hc =>
        rw [if_pos hc]
        simp only [Except.ok.injEq, Prod.mk.injEq, ← List.cons_append,
          List.append_cancel_right_eq] at h
        obtain ⟨rfl, rfl⟩ := h
        exact .inl rfl
      . next hc =>
        rw [if_neg hc]
        exact hf.retract hk ht h

theorem length {f f' : Nat → Reader α} (hs : ∀ m, (f' m).Shortens)
    (hf : ∀ m m', m ≤ k → m ≤ m' → Agrees E m (f m) (f' m')) :
    Agrees E k (fun cs => f cs.length cs) fun cs => f' cs.length cs where
  shortens cs := hs cs.length cs
  extend hk ht h := (hf _ _ hk (by simp)).extend (Nat.le_refl _) ht h
  retract hk ht h := (hf _ _ hk (by simp)).retract (Nat.le_refl _) ht h

theorem of_append (hs : f.Shortens)
    (h : ∀ cs t, Trailer t → f (cs ++ t) = (f cs).map fun (a, rest) => (a, rest ++ t)) :
    Agrees never k f f where
  shortens := hs
  extend {cs t rest a} _ ht heq := ⟨rest ++ t, by rw [h cs t ht, heq]; rfl, .inl rfl⟩
  retract {cs t rest a} _ ht heq := by
    rw [h cs t ht] at heq
    obtain ⟨⟨a', rest'⟩, hok, heq⟩ := map_eq_ok.mp heq
    simp only [Prod.mk.injEq, List.append_cancel_right_eq] at heq
    obtain ⟨rfl, rfl⟩ := heq
    exact .inl hok

theorem dropWhile {p : Char → Bool} (hp : p ')' = false) (hf : Agrees E k f f') :
    Agrees E k (fun cs => f (cs.dropWhile p)) fun cs => f' (cs.dropWhile p) := by
  have hle : ∀ cs : List Char, (cs.dropWhile p).length ≤ cs.length :=
    fun cs => (List.dropWhile_suffix p).length_le
  constructor
  case shortens => exact hf.shortens.after fun cs => List.dropWhile_suffix p
  case extend =>
    intro cs t rest a hk ht h
    rw [ht.dropWhile hp]
    exact hf.extend (Nat.le_trans (hle cs) hk) ht h
  case retract =>
    intro cs t rest a hk ht h
    rw [ht.dropWhile hp] at h
    exact hf.retract (Nat.le_trans (hle cs) hk) ht h

end Agrees

end Reader

theorem skip_go_suffix (comment : Bool) (cs : List Char) : Flags.skip.go comment cs <:+ cs := by
  fun_induction Flags.skip.go comment cs with
  | case1 => exact List.suffix_rfl
  | case5 => exact List.suffix_rfl
  | _ => exact List.IsSuffix.trans ‹_› (List.suffix_cons _ _)

theorem skip_suffix (flags : Flags) (cs : List Char) : flags.skip cs <:+ cs := by
  rw [Flags.skip]
  split
  . exact skip_go_suffix false cs
  . exact List.suffix_rfl

theorem skip_cons (flags : Flags) {c : Char} (hblank : Unicode.isBlank c = false) (hmark : c ≠ '#')
    (rest : List Char) : flags.skip (c :: rest) = c :: rest := by
  rw [Flags.skip]
  split
  . simp [Flags.skip.go, hblank, hmark]
  . rfl

theorem skip_go_append {t : List Char} (comment : Bool) (cs : List Char) (ht : Trailer t) :
    Flags.skip.go comment (cs ++ t) = Flags.skip.go comment cs ++ t
      ∨ (Flags.skip.go comment (cs ++ t) = [] ∧ Flags.skip.go comment cs = []) := by
  fun_induction Flags.skip.go comment cs with
  | case1 comment =>
    cases ht with
    | nothing => exact .inl rfl
    | closing =>
      cases comment with
      | true => exact .inr (by decide)
      | false => exact .inl (by decide)
  | case2 c cs ih => exact ih
  | case3 comment c cs hcomment hblank ih =>
    rw [List.cons_append, Flags.skip.go, if_neg hcomment, if_pos hblank]
    exact ih
  | case4 comment c cs hcomment hblank hmark ih =>
    rw [List.cons_append, Flags.skip.go, if_neg hcomment, if_neg hblank, if_pos hmark]
    exact ih
  | case5 comment c cs hcomment hblank hmark =>
    rw [List.cons_append, Flags.skip.go, if_neg hcomment, if_neg hblank, if_neg hmark]
    exact .inl rfl

theorem skip_append {t : List Char} (flags : Flags) (cs : List Char) (ht : Trailer t) :
    flags.skip (cs ++ t) = flags.skip cs ++ t
      ∨ (flags.skip (cs ++ t) = [] ∧ flags.skip cs = []) := by
  -- Either the trailer is left or it belongs to a comment, which is the last thing in the text
  -- then.
  rw [Flags.skip, Flags.skip]
  split
  . exact skip_go_append false cs ht
  . exact .inl rfl

theorem skip_append_cons {t rest : List Char} {flags : Flags} {cs : List Char} {c : Char}
    (h : flags.skip cs = c :: rest) (ht : Trailer t) :
    flags.skip (cs ++ t) = c :: (rest ++ t) := by
  simpa [h] using skip_append flags cs ht

theorem Reader.Agrees.skip {α : Type} {E : α → List Char → Prop} {k : Nat} {f f' : Reader α}
    (flags : Flags) (hf : Agrees E k f f') :
    Agrees E k (fun cs => f (flags.skip cs)) fun cs => f' (flags.skip cs) := by
  have hle : ∀ cs : List Char, (flags.skip cs).length ≤ cs.length :=
    fun cs => (skip_suffix flags cs).length_le
  constructor
  case shortens => exact hf.shortens.after (skip_suffix flags)
  case extend =>
    intro cs t rest a hk ht h
    have hk' := Nat.le_trans (hle cs) hk
    obtain heq | ⟨hnil', hnil⟩ := skip_append flags cs ht
    . rw [heq]
      exact hf.extend hk' ht h
    . rw [hnil']
      rw [hnil] at h
      exact ⟨rest, hf.eq_ok (Nat.zero_le k) h, .inr rfl⟩
  case retract =>
    intro cs t rest a hk ht h
    have hk' := Nat.le_trans (hle cs) hk
    obtain heq | ⟨hnil', hnil⟩ := skip_append flags cs ht
    . rw [heq] at h
      exact hf.retract hk' ht h
    . rw [hnil'] at h
      obtain rfl : t = [] := by
        have hsuffix := hf.shortens [] a (rest ++ t) h
        simp_all
      rw [hnil]
      exact hf.retract (Nat.zero_le k) .nothing h

end Pattern

end Stencil
