import Stencil.Proofs.Acceptance
import Stencil.Proofs.Expr.Blame
import Stencil.Proofs.Expr.Folding
import Stencil.Proofs.Expr.Inversion

/-!
This module contains the proof that what is compiled from a source brings along only what is the
language's own, if the source could name only the built-in classes.
-/

namespace Stencil

open Outcome

variable {H : Type}

def Phrase.parts : Phrase H → List (Expr H)
  | expr e => [e]
  | items es => es
  | key k => [k]
  | entries es => es.flatMap fun entry => [entry.1, entry.2]
  | steps ss => ss.flatMap Step.children

theorem Lexeme.hostFree {v : Value H} {tok : Token} (h : Lexeme v tok) : v.HostFree := by
  cases h <;> simp

theorem Parser.hostFree_keyword? {name : String} :
    ((Parser.keyword? name).getD (.str name) : Value H).HostFree := by
  unfold Parser.keyword?
  repeat' split
  all_goals simp

theorem ClassRegistry.mem_of_resolve {r : ClassRegistry H} {name : String} {cls : StaticClass H}
    (h : r.resolve name = some cls) : cls ∈ r.classes :=
  List.mem_of_find?_eq_some h

variable [HostObject H] {now : Int64}

namespace Expr

theorem Homemade.intro {e : Expr H} (h : e.IsHomemade now)
    (hchildren : ∀ s ∈ e.children, s.Homemade now) : e.Homemade now :=
  homemade_iff.mpr ⟨h, hchildren⟩

theorem homemade_const {v : Value H} (h : v.HostFree) : (const v).Homemade now :=
  .intro h (by simp [children])

end Expr

theorem Written.homemade {phrase : Phrase H} {ts : List Token}
    (h : Written Lexeme (ClassRegistry.builtin now).resolve phrase ts) :
    ∀ e ∈ phrase.parts, e.Homemade now := by
  have hexpr {e : Expr H} (he : e.IsHomemade now) (hchildren : ∀ s ∈ e.children, s.Homemade now) :
      ∀ s ∈ [e], s.Homemade now :=
    List.forall_mem_singleton.mpr (.intro he hchildren)
  have hentry {k e : Expr H} (hk : ∀ s ∈ [k], s.Homemade now) (he : ∀ s ∈ [e], s.Homemade now) :
      ∀ s ∈ [k, e], s.Homemade now :=
    List.forall_mem_append.mpr ⟨hk, he⟩
  induction h with
  | literal h => exact hexpr h.hostFree (by simp [Expr.children])
  | var _ _ => exact hexpr trivial (by simp [Expr.children])
  | unary _ _ ih => exact hexpr trivial ih
  | binary _ _ _ _ ih ih' => exact hexpr trivial (List.forall_mem_append.mpr ⟨ih, ih'⟩)
  | ternary _ _ _ _ ih ih' ih'' =>
    exact hexpr trivial (List.forall_mem_append.mpr ⟨ih, List.forall_mem_append.mpr ⟨ih', ih''⟩⟩)
  | group _ ih => exact hexpr trivial ih
  | array _ ih => exact hexpr trivial ih
  | map _ ih => exact hexpr trivial ih
  | emptyMap => exact hexpr trivial (by simp [Expr.children])
  | staticField _ h _ =>
    exact hexpr (ClassRegistry.mem_of_resolve h) (by simp [Expr.children])
  | staticCall _ h _ _ ih => exact hexpr (ClassRegistry.mem_of_resolve h) ih
  | chain _ _ _ _ ih ih' => exact hexpr trivial (List.forall_mem_append.mpr ⟨ih, ih'⟩)
  | noItems | noEntries | noSteps => simp [Phrase.parts]
  | lastItem _ ih => exact ih
  | item _ _ ih ih' => exact List.forall_mem_append.mpr ⟨ih, ih'⟩
  | nameKey _ => exact hexpr Parser.hostFree_keyword? (by simp [Expr.children])
  | key _ _ _ ih => exact ih
  | lastEntry _ _ ih ih' => exact hentry ih ih'
  | entry _ _ _ ih ih' ih'' => exact List.forall_mem_append.mpr ⟨hentry ih ih', ih''⟩
  | property _ _ ih => exact ih
  | method _ _ _ ih ih' => exact List.forall_mem_append.mpr ⟨ih, ih'⟩
  | index _ _ ih ih' => exact List.forall_mem_append.mpr ⟨ih, ih'⟩

namespace Expr

theorem hostFree_of_fold {e : Expr H} {v : Value H} (he : e.Homemade now)
    (h : e.fold = .ok (const v)) : v.HostFree := by
  have heval := eval_fold ⟨fun _ => none, Members.builtin⟩ h
  have hclosed : e.Enclosed now (fun _ => none) fun _ => True :=
    ⟨he, fun _ _ => trivial, by simp⟩
  have hends := ends_eval e hclosed
  rw [← heval, eval] at hends
  exact hends

-- Where folding has computed a constant, its value is judged by evaluating the node it stands for:
-- what the operators do is not looked into again.

mutual
theorem homemade_of_fold : ∀ e r : Expr H, e.Homemade now → e.fold = .ok r → r.Homemade now
  | const _, r, he, h | var _, r, he, h | classRef _, r, he, h | staticField _ _, r, he, h => by
    cases h
    exact he
  | unary op operand, r, he, h => by
    have hfold := h
    have hchildren := (homemade_iff.mp he).2
    obtain ⟨operand', hoperand, h⟩ := bind_eq_ok.mp h
    have hoperand' := homemade_of_fold operand operand' (hchildren _ (by simp [children])) hoperand
    rcases foldUnary_eq_ok h with ⟨v, rfl⟩ | ⟨rfl, _⟩
    . exact homemade_const (hostFree_of_fold he hfold)
    . exact .intro trivial (by simpa [children] using hoperand')
  | binary op left right, r, he, h => by
    have hfold := h
    have hchildren := (homemade_iff.mp he).2
    obtain ⟨left', hleft, h⟩ := bind_eq_ok.mp h
    obtain ⟨right', hright, h⟩ := bind_eq_ok.mp h
    have hleft' := homemade_of_fold left left' (hchildren _ (by simp [children])) hleft
    have hright' := homemade_of_fold right right' (hchildren _ (by simp [children])) hright
    rcases foldBinary_eq_ok h with ⟨v, rfl⟩ | ⟨rfl, _⟩
    . exact homemade_const (hostFree_of_fold he hfold)
    . exact .intro trivial (by simpa [children] using ⟨hleft', hright'⟩)
  | ternary cond yes no, r, he, h => by
    have hchildren := (homemade_iff.mp he).2
    obtain ⟨cond', hcond, h⟩ := bind_eq_ok.mp h
    obtain ⟨yes', hyes, h⟩ := bind_eq_ok.mp h
    obtain ⟨no', hno, h⟩ := bind_eq_ok.mp h
    have hcond' := homemade_of_fold cond cond' (hchildren _ (by simp [children])) hcond
    have hyes' := homemade_of_fold yes yes' (hchildren _ (by simp [children])) hyes
    have hno' := homemade_of_fold no no' (hchildren _ (by simp [children])) hno
    rcases foldTernary_eq_ok h with ⟨rfl | rfl, _⟩ | ⟨rfl, _⟩
    . exact hyes'
    . exact hno'
    . exact .intro trivial (by simpa [children] using ⟨hcond', hyes', hno'⟩)
  | array items, r, he, h => by
    obtain ⟨items', hitems, rfl⟩ := bind_pure_eq_ok.mp h
    exact .intro trivial (homemade_of_foldAll items items' (homemade_iff.mp he).2 hitems)
  | map entries, r, he, h => by
    obtain ⟨entries', hentries, rfl⟩ := bind_pure_eq_ok.mp h
    exact .intro trivial (homemade_of_foldEntries entries entries' (homemade_iff.mp he).2 hentries)
  | group inner, r, he, h => by
    have hfold := h
    obtain ⟨inner', hinner, rfl⟩ := bind_pure_eq_ok.mp h
    have hchildren := (homemade_iff.mp he).2
    have hinner' := homemade_of_fold inner inner' (hchildren _ (by simp [children])) hinner
    rcases foldGroup_eq inner' with ⟨v, hv⟩ | ⟨hgroup, _⟩
    . rw [hv]
      rw [hv] at hfold
      exact homemade_const (hostFree_of_fold he hfold)
    . rw [hgroup]
      exact .intro trivial (by simpa [children] using hinner')
  | staticCall cls method args, r, he, h => by
    obtain ⟨args', hargs, rfl⟩ := bind_pure_eq_ok.mp h
    have hown := homemade_iff.mp he
    exact .intro hown.1 (homemade_of_foldAll args args' hown.2 hargs)
  | chain base steps, r, he, h => by
    have hchildren := (homemade_iff.mp he).2
    rw [children, List.forall_mem_cons] at hchildren
    obtain ⟨base', hbase, h⟩ := bind_eq_ok.mp h
    obtain ⟨steps', hsteps, rfl⟩ := bind_pure_eq_ok.mp h
    refine .intro trivial ?_
    rw [children, List.forall_mem_cons]
    exact ⟨homemade_of_fold base base' hchildren.1 hbase,
      homemade_of_foldSteps steps steps' hchildren.2 hsteps⟩

theorem homemade_of_foldAll : ∀ es rs : List (Expr H), (∀ e ∈ es, e.Homemade now) →
    foldAll es = .ok rs → ∀ r ∈ rs, r.Homemade now
  | [], rs, hes, h => by
    cases h
    exact hes
  | e :: rest, rs, hes, h => by
    rw [List.forall_mem_cons] at hes
    obtain ⟨r, hr, h⟩ := bind_eq_ok.mp h
    obtain ⟨rs, hrs, rfl⟩ := bind_pure_eq_ok.mp h
    exact List.forall_mem_cons.mpr
      ⟨homemade_of_fold e r hes.1 hr, homemade_of_foldAll rest rs hes.2 hrs⟩

theorem homemade_of_foldEntries : ∀ es rs : List (Expr H × Expr H),
    (∀ e ∈ es.flatMap fun entry => [entry.1, entry.2], e.Homemade now) →
      foldEntries es = .ok rs → ∀ r ∈ rs.flatMap fun entry => [entry.1, entry.2], r.Homemade now
  | [], rs, hes, h => by
    cases h
    exact hes
  | (k, e) :: rest, rs, hes, h => by
    rw [List.flatMap_cons, List.forall_mem_append] at hes
    obtain ⟨k', hk, h⟩ := bind_eq_ok.mp h
    obtain ⟨r, hr, h⟩ := bind_eq_ok.mp h
    obtain ⟨rs, hrs, rfl⟩ := bind_pure_eq_ok.mp h
    have hk' := homemade_of_fold k k' (hes.1 _ (by simp)) hk
    have hr' := homemade_of_fold e r (hes.1 _ (by simp)) hr
    rw [List.flatMap_cons, List.forall_mem_append]
    exact ⟨by simpa using ⟨hk', hr'⟩, homemade_of_foldEntries rest rs hes.2 hrs⟩

theorem homemade_of_foldSteps : ∀ ss rs : List (Step H),
    (∀ e ∈ ss.flatMap Step.children, e.Homemade now) →
      foldSteps ss = .ok rs → ∀ r ∈ rs.flatMap Step.children, r.Homemade now
  | [], rs, hss, h => by
    cases h
    exact hss
  | s :: rest, rs, hss, h => by
    rw [List.flatMap_cons, List.forall_mem_append] at hss
    obtain ⟨r, hr, h⟩ := bind_eq_ok.mp h
    obtain ⟨rs, hrs, rfl⟩ := bind_pure_eq_ok.mp h
    rw [List.flatMap_cons, List.forall_mem_append]
    exact ⟨homemade_of_foldStep s r hss.1 hr, homemade_of_foldSteps rest rs hss.2 hrs⟩

theorem homemade_of_foldStep : ∀ s r : Step H, (∀ e ∈ s.children, e.Homemade now) →
    foldStep s = .ok r → ∀ e ∈ r.children, e.Homemade now
  | .property _, r, hs, h => by
    cases h
    exact hs
  | .method name args, r, hs, h => by
    obtain ⟨args', hargs, rfl⟩ := bind_pure_eq_ok.mp h
    exact homemade_of_foldAll args args' hs hargs
  | .index key, r, hs, h => by
    obtain ⟨key', hkey, rfl⟩ := bind_pure_eq_ok.mp h
    have hkey' := homemade_of_fold key key' (hs _ (by simp [Step.children])) hkey
    simpa [Step.children] using hkey'
end

theorem homemade_of_parse {limit : Nat} {src : String} {r : Expr H}
    (h : Expr.parse (ClassRegistry.builtin now).resolve limit src = .ok r) : r.Homemade now := by
  obtain ⟨ts, _, ⟨e, hwritten, _, hfold, _⟩, _, _⟩ := derives_of_parse h
  exact homemade_of_fold e r (hwritten.homemade e (by simp [Phrase.parts])) hfold

end Expr

structure Settings.BuiltIn (now : Int64) (s : Settings H) : Prop where
  classes_eq : s.classes = (ClassRegistry.builtin now).resolve
  members_eq : s.members = Members.builtin

namespace Template

structure Homemade (now : Int64) (t : Template H) : Prop where
  members_eq : t.members = Members.builtin
  expr (e : Expr H) : .expr e ∈ t.segments → e.Homemade now

theorem homemade_of_compilePieces {s : Settings H} (hs : s.BuiltIn now) (d : Delimiters)
    (pieces : List Piece) (segments : List (Segment H)) (h : compilePieces s d pieces = .ok segments) :
    ∀ e, .expr e ∈ segments → e.Homemade now := by
  induction pieces generalizing segments with
  | nil =>
    cases h
    simp
  | cons piece rest ih =>
    obtain ⟨segment, hsegment, h⟩ := bind_eq_ok.mp h
    obtain ⟨segments, hsegments, rfl⟩ := bind_pure_eq_ok.mp h
    intro e he
    rw [List.mem_cons] at he
    rcases he with he | he
    . subst he
      unfold compilePiece at hsegment
      split at hsegment
      . cases hsegment
      . split at hsegment
        . next hparse =>
          cases hsegment
          rw [Settings.parse, hs.classes_eq] at hparse
          exact Expr.homemade_of_parse hparse
        . cases hsegment
      . cases hsegment
    . exact ih segments hsegments e he

theorem homemade_of_compile {s : Settings H} (hs : s.BuiltIn now) {d : Delimiters} {src : String}
    {t : Template H} (h : compile s d src = .ok t) : t.Homemade now := by
  obtain ⟨segments, hsegments, rfl⟩ := bind_pure_eq_ok.mp h
  exact ⟨hs.members_eq, homemade_of_compilePieces hs d _ segments hsegments⟩

end Template

end Stencil
