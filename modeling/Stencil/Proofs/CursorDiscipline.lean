import Mathlib.Data.List.Chain
import Stencil.Proofs.Parser.Calls
import Stencil.Proofs.Parser.Termination

/-!
This module contains the proof that the parsers respect the cursor: from every place in a source they
come to an end, they never go back, beyond the source or below the limit on the way, and a good end
lies further on, on the level on which they started.
-/

namespace Stencil

namespace Cursor

variable {src : List Char} {limit : Nat} {c c' : Cursor}

theorem Moves.on (h : c.Moves c') (hc : c.On src limit) : c'.On src limit := by
  cases h with
  | stay => exact hc
  | read h => exact hc.after h
  | enter _ => exact ⟨hc.rest_eq, hc.pos_le, hc.maxDepth_eq⟩
  | leave _ => exact ⟨hc.rest_eq, hc.pos_le, hc.maxDepth_eq⟩

theorem Moves.depth_le (h : c.Moves c') (hmax : c.maxDepth = limit) (hc : c.depth ≤ limit) :
    c'.depth ≤ limit := by
  cases h with
  | stay => exact hc
  | read _ => exact hc
  | enter h => exact hmax ▸ h
  | leave _ => exact Nat.le_trans (Nat.sub_le _ _) hc

theorem Moves.pos_le (h : c.Moves c') : c.pos ≤ c'.pos := by
  cases h with
  | stay => exact Nat.le_refl _
  | read _ => exact Nat.le_add_right _ _
  | enter _ => exact Nat.le_refl _
  | leave _ => exact Nat.le_refl _

theorem On.pos_add_length (hc : c.On src limit) : c.pos + c.rest.length = src.length := by
  have hpos := hc.pos_le
  rw [hc.rest_eq, List.length_drop]
  omega

end Cursor

namespace Trail

variable {src : List Char} {limit : Nat} {c : Cursor} {t : Trail}

theorem cursors_move (t : Trail) (c : Cursor) : (t.move c).cursors = t.cursors ++ [c] := by
  simp [cursors, move]

theorem getLast?_cursors (t : Trail) : t.cursors.getLast? = some t.cursor := by
  simp [cursors]

theorem Leads.isChain (h : (start c).Leads t) :
    t.cursors.head? = some c ∧ t.cursors.IsChain Cursor.Moves := by
  induction h with
  | refl => exact ⟨rfl, .singleton _⟩
  | @tail t₁ t₂ _ hnext ih =>
    obtain ⟨c', hmoves, rfl⟩ := hnext
    obtain ⟨hhead, hchain⟩ := ih
    rw [cursors_move]
    refine ⟨?_, List.isChain_append.mpr ⟨hchain, .singleton _, ?_⟩⟩
    . rw [List.head?_append, hhead]
      rfl
    . rw [getLast?_cursors]
      rintro _ ⟨⟩ _ ⟨⟩
      exact hmoves

/--
A course over the source from the cursor `c` on: each cursor comes from the one before by a single
move and stands on the source, on a level within the limit, and none has read less than an earlier
one.
-/
structure Course (src : List Char) (limit : Nat) (c : Cursor) (t : Trail) : Prop where
  starts : t.cursors.head? = some c
  moves : t.cursors.IsChain Cursor.Moves
  on : ∀ c' ∈ t.cursors, c'.On src limit
  depth_le : ∀ c' ∈ t.cursors, c'.depth ≤ limit
  pos_le : t.cursors.Pairwise (·.pos ≤ ·.pos)

theorem Leads.course (h : (start c).Leads t) (hc : c.On src limit) (hdepth : c.depth ≤ limit) :
    Course src limit c t := by
  obtain ⟨hhead, hchain⟩ := h.isChain
  have hwithin : ∀ c' ∈ t.cursors, c'.On src limit ∧ c'.depth ≤ limit := by
    apply hchain.induction
    . intro c₁ c₂ hmoves hc₁
      exact ⟨hmoves.on hc₁.1, hmoves.depth_le hc₁.1.maxDepth_eq hc₁.2⟩
    . intro hne
      have hfirst : t.cursors.head hne = c := (List.head_eq_iff_head?_eq_some hne).mpr hhead
      rw [hfirst]
      exact ⟨hc, hdepth⟩
  have hforward : (t.cursors.map Cursor.pos).IsChain (· ≤ ·) :=
    (List.isChain_map _).mpr (hchain.imp fun _ _ hmoves => hmoves.pos_le)
  exact {
    starts := hhead
    moves := hchain
    on := fun c' hc' => (hwithin c' hc').1
    depth_le := fun c' hc' => (hwithin c' hc').2
    pos_le := List.pairwise_map.mp hforward.pairwise
  }

end Trail

namespace Walk

variable {α H : Type} {src : List Char} {limit : Nat} {c : Cursor}

/--
From the cursor, walk and parser come to an end. With enough calls it is always the same one, behind
the same finitely many steps. On the way, and also if they fail, they keep to a course over the
source. If they succeed, they are on the level on which they started, at least `gain` characters
further on.
-/
def Respects (src : List Char) (limit gain : Nat) (c : Cursor) (w : Nat → Walk α)
    (p : Nat → Parser α) : Prop :=
  ∃ result t, (∀ calls, Parser.callBound c.rest.length ≤ calls →
      w calls (.start c) = some (result, t) ∧ p calls c = result.map (·, t.cursor))
    ∧ Trail.Course src limit c t
    ∧ ∀ a, result = .ok a → t.cursor.depth = c.depth ∧ c.pos + gain ≤ t.cursor.pos

theorem respects_of_returns {rank gain : Nat} {w : Nat → Walk α} {p : Nat → Parser α}
    (h : ∀ calls, Returns calls rank gain (w calls) (p calls))
    (hextends : ∀ calls, (w calls).Extends (w (calls + 1))) (hrank : rank ≤ 16)
    (hc : c.On src limit) (hdepth : c.depth ≤ limit) : Respects src limit gain c w p := by
  have henough {calls : Nat} (hcalls : Parser.callBound c.rest.length ≤ calls) :
      16 * c.rest.length + rank ≤ calls := by
    unfold Parser.callBound at hcalls
    omega
  obtain ⟨result, t, hw, _, hleads, hresult⟩ := h _ c (henough (Nat.le_refl _)) []
  have hcourse := Trail.Leads.course hleads hc hdepth
  refine ⟨result, t, fun calls hcalls => ?_, hcourse, fun a ha => ?_⟩
  . obtain ⟨result', t', hw', hp, _⟩ := h calls c (henough hcalls) []
    have hsame := extends_of_le hextends hcalls _ _ hw
    rw [hw'] at hsame
    cases hsame
    exact ⟨hw', hp⟩
  . obtain ⟨hrest, hlevel⟩ := hresult a ha
    have hlast : t.cursor.On src limit :=
      hcourse.on t.cursor (List.mem_of_getLast? t.getLast?_cursors)
    have hlength := hc.pos_add_length
    have hlength' := hlast.pos_add_length
    exact ⟨hlevel, by omega⟩

variable [HostObject H]

structure AllRespect (classes : Parser.ClassLookup H) (src : List Char) (limit : Nat) (c : Cursor) :
    Prop where
  expression : Respects src limit 1 c (expression classes) (Parser.expression classes)
  binary : ∀ least, Respects src limit 1 c (binary classes · least) (Parser.binary classes · least)
  unary : Respects src limit 1 c (unary classes) (Parser.unary classes)
  postfixed : Respects src limit 1 c (postfixed classes) (Parser.postfixed classes)
  primary : Respects src limit 1 c (primary classes) (Parser.primary classes)
  group : Respects src limit 1 c (group classes) (Parser.group classes)
  sequence : ∀ close start construct,
    Respects src limit 1 c (sequence classes · close start construct)
      (Parser.sequence classes · close start construct)
  array : Respects src limit 1 c (array classes) (Parser.array classes)
  arguments : Respects src limit 1 c (arguments classes) (Parser.arguments classes)
  map : Respects src limit 1 c (map classes) (Parser.map classes)
  mapKey : Respects src limit 1 c (mapKey classes) (Parser.mapKey classes)
  staticAccess : Respects src limit 1 c (staticAccess classes) (Parser.staticAccess classes)
  steps : Respects src limit 0 c (steps classes) (Parser.steps classes)
  stringLiteral : Respects src limit 1 c (fun _ => stringLiteral)
    (fun _ => (Parser.stringLiteral : Parser (Expr H)))
  number : Respects src limit 1 c (fun _ => number) (fun _ => (Parser.number : Parser (Expr H)))

/--
Every parser respects the cursor, wherever on the source it stands.
-/
theorem parsers_respect_cursor (classes : Parser.ClassLookup H) (hc : c.On src limit)
    (hdepth : c.depth ≤ limit) : AllRespect classes src limit c := by
  have hreturn := allReturn classes
  have hextend := allExtend classes
  -- The literals take no calls.
  have hstring (calls : Nat) :
      Returns calls 0 1 (stringLiteral : Walk (Expr H)) Parser.stringLiteral :=
    fun _ _ => agrees_stringLiteral fun _ _ hc' => hc'
  have hnumber (calls : Nat) : Returns calls 0 1 (number : Walk (Expr H)) Parser.number :=
    fun _ _ => agrees_number fun _ _ hc' => hc'
  exact {
    expression := respects_of_returns (fun calls => (hreturn calls).expression)
      (fun calls => (hextend calls).expression) (by decide) hc hdepth
    binary := fun least => respects_of_returns (fun calls => (hreturn calls).binary least)
      (fun calls => (hextend calls).binary least) (by decide) hc hdepth
    unary := respects_of_returns (fun calls => (hreturn calls).unary)
      (fun calls => (hextend calls).unary) (by decide) hc hdepth
    postfixed := respects_of_returns (fun calls => (hreturn calls).postfixed)
      (fun calls => (hextend calls).postfixed) (by decide) hc hdepth
    primary := respects_of_returns (fun calls => (hreturn calls).primary)
      (fun calls => (hextend calls).primary) (by decide) hc hdepth
    group := respects_of_returns (fun calls => (hreturn calls).group)
      (fun calls => (hextend calls).group) (by decide) hc hdepth
    sequence := fun close start construct =>
      respects_of_returns (fun calls => (hreturn calls).sequence close start construct)
        (fun calls => (hextend calls).sequence close start construct) (by decide) hc hdepth
    array := respects_of_returns (fun calls => (hreturn calls).array)
      (fun calls => (hextend calls).array) (by decide) hc hdepth
    arguments := respects_of_returns (fun calls => (hreturn calls).arguments)
      (fun calls => (hextend calls).arguments) (by decide) hc hdepth
    map := respects_of_returns (fun calls => (hreturn calls).map)
      (fun calls => (hextend calls).map) (by decide) hc hdepth
    mapKey := respects_of_returns (fun calls => (hreturn calls).mapKey)
      (fun calls => (hextend calls).mapKey) (by decide) hc hdepth
    staticAccess := respects_of_returns (fun calls => (hreturn calls).staticAccess)
      (fun calls => (hextend calls).staticAccess) (by decide) hc hdepth
    steps := respects_of_returns (fun calls => (hreturn calls).steps)
      (fun calls => (hextend calls).steps) (by decide) hc hdepth
    stringLiteral := respects_of_returns hstring (fun _ => .refl _) (by decide) hc hdepth
    number := respects_of_returns hnumber (fun _ => .refl _) (by decide) hc hdepth
  }

theorem parsers_respect_cursor_inside :
    let src := "[a, (b ? c[2] : -d)]".toList
    let c : Cursor := ⟨src.drop 4, 4, 1, 3⟩
    c.On src 3 ∧ c.depth ≤ 3 ∧ AllRespect (H := Empty) (fun _ => none) src 3 c := by
  intro src c
  have hc : c.On src 3 := ⟨rfl, by decide, rfl⟩
  have hdepth : c.depth ≤ 3 := by decide
  exact ⟨hc, hdepth, parsers_respect_cursor (fun _ => none) hc hdepth⟩

end Walk

end Stencil
