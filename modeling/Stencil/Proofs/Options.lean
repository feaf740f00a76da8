import Stencil.CommandLine
import Stencil.Proofs.Outcome
import Stencil.Proofs.Text.Search

/-!
This module contains the ways in which options can be written as arguments, and the proof that reading
the arguments gives the options back, in whatever order the options are written.
-/

namespace Stencil

namespace ValueOption

def flag : ValueOption → Char
  | config => 'f'
  | delimiters => 'D'
  | binding => 'v'
  | expr => 'e'
  | template => 't'

end ValueOption

namespace Options

inductive Part where
  | config (path : String)
  | delimiters (start stop : String)
  | binding (name src : String)
  | input (input : Input)

namespace Part

def option : Part → ValueOption
  | config _ => .config
  | delimiters _ _ => .delimiters
  | binding _ _ => .binding
  | input (.expr _) => .expr
  | input (.template _) => .template

def value : Part → String
  | config path => path
  | delimiters start _ => start
  | binding name src => name ++ "=" ++ src
  | input (.expr src) | input (.template src) => src

def more : Part → List String
  | delimiters _ stop => [stop]
  | _ => []

def config? : Part → Option String
  | config path => some path
  | _ => none

def delimiters? : Part → Option (String × String)
  | delimiters start stop => some (start, stop)
  | _ => none

def binding? : Part → Option (String × String)
  | binding name src => some (name, src)
  | _ => none

def input? : Part → Option Input
  | input i => some i
  | _ => none

end Part

inductive IsPositional : List Char → Prop where
  | nil : IsPositional []
  | other {first : Char} {rest : List Char} : first ≠ '-' → IsPositional (first :: rest)
  | hyphen : IsPositional ['-']
  | negative {next : Char} {rest : List Char} :
      Unicode.isAsciiDigit next = true ∨ next = '(' ∨ next = ' ' → IsPositional ('-' :: next :: rest)

/--
The arguments for one option: its value is attached to the flag or stands behind it, and flags for
debugging may stand in front of it. They can also stand alone, and an expression needs no flag.
-/
inductive Group where
  | debug (others : Nat)
  | attached (debugs : Nat) (part : Part) (given : part.value ≠ "")
  | separate (debugs : Nat) (part : Part)
  | positional (src : String) (positional : IsPositional src.toList)

namespace Group

def flags (debugs : Nat) (rest : List Char) : String :=
  String.ofList ('-' :: (List.replicate debugs 'd' ++ rest))

def args : Group → List String
  | debug others => [flags (others + 1) []]
  | attached debugs part _ => flags debugs (part.option.flag :: part.value.toList) :: part.more
  | separate debugs part => flags debugs [part.option.flag] :: part.value :: part.more
  | positional src _ => [src]

def part? : Group → Option Part
  | debug _ => none
  | attached _ part _ | separate _ part => some part
  | positional src _ => some (.input (.expr src))

def debugs : Group → Nat
  | debug others => others + 1
  | attached debugs _ _ | separate debugs _ => debugs
  | positional _ _ => 0

def said {α : Type} (kind : Part → Option α) (groups : List Group) : List α :=
  (groups.filterMap part?).filterMap kind

end Group

/--
The groups say what `o` has and `start` has not yet: every part once, and the bindings in their order.
-/
structure Renders (start : Options) (groups : List Group) (o : Options) : Prop where
  config_eq : start.config.toList ++ Group.said Part.config? groups = o.config.toList
  delimiters_eq : start.delimiters.toList ++ Group.said Part.delimiters? groups = o.delimiters.toList
  bindings_eq : start.bindings ++ Group.said Part.binding? groups = o.bindings
  input_eq : start.input.toList ++ Group.said Part.input? groups = o.input.toList
  debug_eq : (start.debug || groups.any (0 < ·.debugs)) = o.debug

def IsBindable (name : String) : Prop :=
  name ≠ "" ∧ '=' ∉ name.toList

variable {o start : Options}

theorem isPositional_of_isPositional {arg : List Char} (h : IsPositional arg) :
    isPositional arg = true := by
  cases h with
  | nil => rfl
  | hyphen => rfl
  | other hfirst =>
    unfold isPositional
    split <;> simp_all
  | @negative next rest hnext =>
    have hnext' : (Unicode.isAsciiDigit next || next == '(' || next == ' ') = true := by
      simpa [or_assoc] using hnext
    exact hnext'

theorem readFrom_positional {src : String} (h : IsPositional src.toList) (hinput : o.input = none)
    (rest : List String) :
    readFrom o .argument (src :: rest)
      = readFrom { o with input := some (.expr src) } .argument rest := by
  have hne : (src == "--") = false := by
    rw [beq_eq_false_iff_ne]
    rintro rfl
    have hhyphens : "--".toList = ['-', '-'] := by decide
    rw [hhyphens] at h
    cases h with
    | other hfirst => exact hfirst rfl
    | negative hnext => revert hnext; decide
  rw [readFrom, if_neg (Bool.eq_false_iff.mp hne), if_pos (isPositional_of_isPositional h), setInput,
    hinput]
  rfl

-- Flags

def debugged (o : Options) (debugs : Nat) : Options :=
  { o with debug := o.debug || 0 < debugs }

theorem readFlags_replicate (o : Options) (debugs : Nat) (rest : List Char) :
    o.readFlags (List.replicate debugs 'd' ++ rest) = (o.debugged debugs).readFlags rest := by
  induction debugs generalizing o with
  | zero => simp [debugged]
  | succ debugs ih =>
    rw [List.replicate_succ, List.cons_append, readFlags, if_pos (beq_self_eq_true 'd'), ih]
    simp [debugged]

theorem readFlags_flag (o : Options) (option : ValueOption) (rest : List Char) :
    o.readFlags (option.flag :: rest)
      = if rest.isEmpty then .ok (o, .value option) else o.setValue option (String.ofList rest) := by
  cases option <;> rfl

theorem readFrom_flags (o : Options) {debugs : Nat} {flags : List Char} (rest : List String)
    (hflags : flags = [] ∧ 0 < debugs ∨ ∃ option more, flags = ValueOption.flag option :: more) :
    readFrom o .argument (Group.flags debugs flags :: rest) = (do
      let (o, expected) ← (o.debugged debugs).readFlags flags
      readFrom o expected rest) := by
  have hfirst : ∃ first others, List.replicate debugs 'd' ++ flags = first :: others
      ∧ first ∈ ['d', 'f', 'D', 'v', 'e', 't'] := by
    cases debugs with
    | succ debugs => exact ⟨'d', _, rfl, by decide⟩
    | zero =>
      rcases hflags with ⟨_, hpos⟩ | ⟨option, more, rfl⟩
      . cases hpos
      . refine ⟨option.flag, more, rfl, ?_⟩
        cases option <;> decide
  obtain ⟨first, others, heq, hmem⟩ := hfirst
  -- None of the flags makes the argument an expression.
  have hnot : ∀ first ∈ ['d', 'f', 'D', 'v', 'e', 't'],
      (Unicode.isAsciiDigit first || first == '(' || first == ' ') = false ∧ first ≠ '-' := by
    simp [Unicode.isAsciiDigit]
  have hlist : (Group.flags debugs flags).toList = '-' :: first :: others := by
    rw [Group.flags, String.toList_ofList, heq]
  have hne : (Group.flags debugs flags == "--") = false := by
    rw [beq_eq_false_iff_ne]
    intro h
    have hhyphens : "--".toList = ['-', '-'] := by decide
    rw [h, hhyphens] at hlist
    cases hlist
    exact (hnot _ hmem).2 rfl
  have hpositional : isPositional (Group.flags debugs flags).toList = false := by
    rw [hlist]
    exact (hnot first hmem).1
  rw [readFrom, if_neg (Bool.eq_false_iff.mp hne), if_neg (Bool.eq_false_iff.mp hpositional), hlist,
    List.drop_one, List.tail_cons, ← heq, readFlags_replicate]

-- Values

def add (o : Options) : Part → Options
  | .config path => { o with config := some path }
  | .delimiters start stop => { o with delimiters := some (start, stop) }
  | .binding name src => { o with bindings := o.bindings ++ [(name, src)] }
  | .input input => { o with input := some input }

def Admits (o : Options) : Part → Prop
  | .binding name _ => IsBindable name
  | .input _ => o.input = none
  | _ => True

theorem readFrom_setValue {part : Part} (h : o.Admits part) (rest : List String) :
    (do
      let (o, expected) ← o.setValue part.option part.value
      readFrom o expected (part.more ++ rest)) = readFrom (o.add part) .argument rest := by
  cases part with
  | config path => rfl
  | delimiters start stop => rfl
  | input i =>
    have hinput : o.input = none := h
    cases i <;> simp only [Part.option, Part.value, Part.more, setValue, setInput, hinput] <;> rfl
  | binding name src =>
    have hvalue : (name ++ "=" ++ src).toList = name.toList ++ '=' :: src.toList := by simp
    have hname : name.toList.isEmpty = false := by simpa using h.1
    have hsign : ∀ c ∈ name.toList, (c == '=') = false := by
      intro c hc
      rw [beq_eq_false_iff_ne]
      rintro rfl
      exact h.2 hc
    simp only [Part.option, Part.value, Part.more, setValue, hvalue,
      Text.splitOnceBy?_append hsign (beq_self_eq_true '='), hname, String.ofList_toList]
    rfl

-- Groups

def extend (o : Options) (g : Group) : Options :=
  match g.part? with
  | none => o.debugged g.debugs
  | some part => (o.debugged g.debugs).add part

theorem Admits.debugged {part : Part} (h : o.Admits part) (debugs : Nat) :
    (o.debugged debugs).Admits part := by
  cases part <;> exact h

theorem readFrom_group {g : Group} (h : ∀ part, g.part? = some part → o.Admits part)
    (rest : List String) :
    readFrom o .argument (g.args ++ rest) = readFrom (o.extend g) .argument rest := by
  cases g with
  | debug others =>
    rw [Group.args, List.singleton_append, readFrom_flags o rest (.inl ⟨rfl, Nat.succ_pos others⟩)]
    rfl
  | attached debugs part given =>
    have hgiven : part.value.toList.isEmpty = false := by simpa using given
    rw [Group.args, List.cons_append, readFrom_flags o _ (.inr ⟨part.option, _, rfl⟩),
      readFlags_flag, if_neg (Bool.eq_false_iff.mp hgiven), String.ofList_toList]
    exact readFrom_setValue ((h part rfl).debugged debugs) rest
  | separate debugs part =>
    rw [Group.args, List.cons_append, readFrom_flags o _ (.inr ⟨part.option, [], rfl⟩),
      readFlags_flag, if_pos List.isEmpty_nil]
    exact readFrom_setValue ((h part rfl).debugged debugs) rest
  | positional src hpositional =>
    have hextend : o.extend (.positional src hpositional) = { o with input := some (.expr src) } := by
      simp [extend, Group.part?, Group.debugs, Options.debugged, add]
    rw [Group.args, List.singleton_append, readFrom_positional hpositional (h _ rfl), hextend]

theorem toList_append_cons {α : Type} {given wanted : Option α} {a : α} {others : List α}
    (h : given.toList ++ a :: others = wanted.toList) :
    given = none ∧ (some a).toList ++ others = wanted.toList := by
  cases given with
  | none => exact ⟨rfl, h⟩
  | some b => cases wanted <;> simp at h

def parts (o : Options) : List Part :=
  o.config.toList.map .config ++ o.delimiters.toList.map (fun d => .delimiters d.1 d.2)
    ++ o.bindings.map (fun b => .binding b.1 b.2) ++ o.input.toList.map .input

def groups (o : Options) : List Group :=
  (if o.debug then [Group.debug 0] else []) ++ o.parts.map (Group.separate 0)

theorem renders_groups (o : Options) : Renders {} o.groups o := by
  have hparts : o.groups.filterMap Group.part? = o.parts := by
    have hdebug : (if o.debug then [Group.debug 0] else []).filterMap Group.part? = [] := by
      split <;> rfl
    rw [groups, List.filterMap_append, hdebug, List.nil_append, List.filterMap_map]
    exact List.filterMap_some
  have hnone {α β : Type} (l : List α) : l.filterMap (fun _ => (none : Option β)) = [] := by
    induction l <;> simp_all
  constructor
  case debug_eq =>
    rw [groups, List.any_append, List.any_map]
    cases o.debug <;> simp [Group.debugs, Function.comp_def]
  all_goals
    rw [Group.said, hparts, parts]
    simp [List.filterMap_map, Function.comp_def, hnone, Part.config?, Part.delimiters?, Part.binding?,
      Part.input?]

namespace Renders

variable {g : Group} {groups : List Group}

theorem nil (h : Renders start [] o) : start = o := by
  obtain ⟨hconfig, hdelimiters, hbindings, hinput, hdebug⟩ := h
  have hinj {α : Type} {a b : Option α} (h : a.toList ++ [] = b.toList) : a = b := by
    cases a <;> cases b <;> simp_all
  rw [Group.said, List.filterMap_nil, List.filterMap_nil] at hconfig hdelimiters hbindings hinput
  rw [List.append_nil] at hbindings
  rw [List.any_nil, Bool.or_false] at hdebug
  cases start
  cases o
  rw [Options.mk.injEq]
  exact ⟨hinj hconfig, hinj hdelimiters, hbindings, hdebug, hinj hinput⟩

theorem cons (h : Renders start (g :: groups) o) (hnames : ∀ b ∈ o.bindings, IsBindable b.1) :
    (∀ part, g.part? = some part → start.Admits part) ∧ Renders (start.extend g) groups o := by
  obtain ⟨hconfig, hdelimiters, hbindings, hinput, hdebug⟩ := h
  rw [List.any_cons, ← Bool.or_assoc] at hdebug
  unfold extend
  cases hpart : g.part? with
  | none =>
    simp only [Group.said, List.filterMap_cons_none hpart] at hconfig hdelimiters hbindings hinput
    exact ⟨fun _ h => (Option.some_ne_none _ h.symm).elim,
      hconfig, hdelimiters, hbindings, hinput, hdebug⟩
  | some part =>
    simp only [Group.said, List.filterMap_cons_some hpart] at hconfig hdelimiters hbindings hinput
    have hadmits (h : start.Admits part) (part' : Part) (heq : some part = some part') :
        start.Admits part' :=
      Option.some.inj heq ▸ h
    cases part with
    | config path =>
      obtain ⟨_, hconfig⟩ := toList_append_cons hconfig
      exact ⟨hadmits trivial, hconfig, hdelimiters, hbindings, hinput, hdebug⟩
    | delimiters first stop =>
      obtain ⟨_, hdelimiters⟩ := toList_append_cons hdelimiters
      exact ⟨hadmits trivial, hconfig, hdelimiters, hbindings, hinput, hdebug⟩
    | binding name src =>
      have hname : IsBindable name := by
        refine hnames (name, src) ?_
        rw [← hbindings]
        simp [Part.binding?]
      refine ⟨hadmits hname, hconfig, hdelimiters, ?_, hinput, hdebug⟩
      rw [← hbindings]
      simp [Group.said, Part.binding?, add, debugged]
    | input i =>
      obtain ⟨hnone, hinput⟩ := toList_append_cons hinput
      exact ⟨hadmits hnone, hconfig, hdelimiters, hbindings, hinput, hdebug⟩

theorem toList_append_perm {α : Type} {given wanted : Option α} {said said' : List α}
    (hperm : said'.Perm said) (h : given.toList ++ said = wanted.toList) :
    given.toList ++ said' = wanted.toList := by
  have hlength : said.length ≤ 1 := by
    have := congrArg List.length h
    rw [List.length_append] at this
    have : wanted.toList.length ≤ 1 := by cases wanted <;> simp
    omega
  -- Not more than one thing is said, so that there is only one order.
  have hsame : said' = said := by
    match said with
    | [] => exact hperm.eq_nil
    | [a] => exact List.perm_singleton.mp hperm
    | _ :: _ :: _ => simp at hlength
  rw [hsame]
  exact h

theorem perm {groups' : List Group} (h : Renders start groups o) (hperm : groups'.Perm groups)
    (horder : Group.said Part.binding? groups' = Group.said Part.binding? groups) :
    Renders start groups' o where
  config_eq := toList_append_perm ((hperm.filterMap _).filterMap _) h.config_eq
  delimiters_eq := toList_append_perm ((hperm.filterMap _).filterMap _) h.delimiters_eq
  bindings_eq := horder ▸ h.bindings_eq
  input_eq := toList_append_perm ((hperm.filterMap _).filterMap _) h.input_eq
  debug_eq := by rw [hperm.any_eq, h.debug_eq]

end Renders

theorem readFrom_groups {groups : List Group} (h : Renders start groups o)
    (hnames : ∀ b ∈ o.bindings, IsBindable b.1) (rest : List String) :
    readFrom start .argument (groups.flatMap Group.args ++ rest) = readFrom o .argument rest := by
  induction groups generalizing start with
  | nil =>
    rw [List.flatMap_nil, List.nil_append, h.nil]
  | cons g groups ih =>
    obtain ⟨hadmits, hgroups⟩ := h.cons hnames
    rw [List.flatMap_cons, List.append_assoc, readFrom_group hadmits]
    exact ih hgroups

-- Arguments behind the groups

variable {first : Options}

/--
Every command line can be written in groups, and however it is written, reading the arguments gives the
same options again: the groups can stand in any order that leaves the bindings in theirs.
-/
theorem read_rendered (o : Options) (hinput : o.input ≠ none)
    (hnames : ∀ b ∈ o.bindings, IsBindable b.1) :
    (∃ groups, Renders {} groups o)
      ∧ ∀ groups groups' : List Group, Renders {} groups o → groups'.Perm groups →
        Group.said Part.binding? groups' = Group.said Part.binding? groups →
          read (groups'.flatMap Group.args) = .ok o := by
  refine ⟨⟨o.groups, o.renders_groups⟩, ?_⟩
  intro groups groups' h hperm horder
  have hread := readFrom_groups (h.perm hperm horder) hnames []
  have hsome : o.input.isNone = false := by
    cases hi : o.input with
    | none => exact absurd hi hinput
    | some i => rfl
  rw [List.append_nil] at hread
  rw [read, hread, readFrom, Outcome.ok_bind, if_neg (Bool.eq_false_iff.mp hsome)]
  rfl

theorem read_rendered_hyphens :
    let o : Options := ⟨some "", some ("--", "-v"), [("x", "-d")], true, some (.expr "-(x)")⟩
    o.input ≠ none ∧ (∀ b ∈ o.bindings, IsBindable b.1)
      ∧ Options.read ["-(x)", "-D", "--", "-v", "-ddvx=-d", "-f", ""] = .ok o := by
  intro o
  have hinput : o.input ≠ none := by
    simp [o]
  have hnames : ∀ b ∈ o.bindings, IsBindable b.1 := by
    simp [o, IsBindable]
  let groups : List Group :=
    [.positional "-(x)" (.negative (.inr (.inl rfl))), .separate 0 (.delimiters "--" "-v"),
      .attached 2 (.binding "x" "-d") (by decide), .separate 0 (.config "")]
  have hargs : groups.flatMap Group.args = ["-(x)", "-D", "--", "-v", "-ddvx=-d", "-f", ""] := by
    decide
  have hrenders : Renders {} groups o := by
    constructor <;> rfl
  rw [← hargs]
  exact ⟨hinput, hnames, (read_rendered o hinput hnames).2 groups groups hrenders (.refl _) rfl⟩

end Options

end Stencil
