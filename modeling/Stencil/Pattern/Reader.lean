import Stencil.Pattern.Bracket

/-!
This module contains the reading of patterns: from their text to a tree in which flags, points,
anchors and named sets are resolved.
-/

namespace Stencil

namespace Pattern

def nestLimit : Nat := 250

def greatestRepetition : Nat := 0xffffffff

/--
A part of a pattern and its nesting depth. A setting of flags is a part without a tree.
-/
structure Part where
  tree : Option Pattern
  depth : Nat
  deriving Inhabited

structure Groups where
  next : Nat := 1
  names : List (String × Nat) := []
  deriving Repr, Inhabited

def joinParts (parts : List Part) : Part :=
  let depth := parts.foldl (fun d p => max d p.depth) 0
  { tree := some (sequence (parts.filterMap Part.tree))
    depth := if parts.length > 1 then depth + 1 else depth }

def joinAlternatives (alternatives : List Part) : Part :=
  let depth := alternatives.foldl (fun d p => max d p.depth) 0
  { tree := some (choice (alternatives.filterMap Part.tree))
    depth := if alternatives.length > 1 then depth + 1 else depth }

def groupName (cs : List Char) : Except PatternError (String × List Char) :=
  let (name, rest) := cs.span (· != '>')
  match name, rest with
  | first :: others, _ :: rest =>
    let fits := (first == '_' || Unicode.isAlphabetic first)
      && others.all fun c =>
        c == '_' || c == '.' || c == '[' || c == ']' || Unicode.isAlphanumeric c
    if fits then .ok (String.ofList name, rest) else .error .invalidName
  | _, _ => .error .invalidName

def readFlags (flags : Flags) (seen : List Char) :
    List Char → Except PatternError ((Flags × Bool) × List Char)
  | [] => .error .invalidFlags
  | c :: rest =>
    if c == ':' || c == ')' then
      if seen.head? == some '-' then .error .invalidFlags
      else .ok ((flags, !seen.isEmpty), c :: rest)
    else if seen.contains c then .error .invalidFlags
    else if c == '-' then readFlags flags (c :: seen) rest
    else
      match flags.set? c (!seen.contains '-') with
      | some flags => readFlags flags (c :: seen) rest
      | none => .error .invalidFlags

def readNumber? (flags : Flags) (cs : List Char) : Except PatternError (Option Nat × List Char) :=
  let (digits, rest) := go [] (cs.length + 1) (cs.dropWhile Unicode.isBlank)
  let rest := (flags.skip rest).dropWhile Unicode.isBlank
  if digits.isEmpty then .ok (none, rest)
  else
    match Integer.readNat 10 greatestRepetition .tooLarge digits with
    | .ok n => .ok (some n, flags.skip rest)
    | .error _ => .error .invalidCount
where
  go (digits : List Char) : Nat → List Char → List Char × List Char
    | fuel + 1, c :: rest =>
      if Unicode.isAsciiDigit c then go (digits ++ [c]) fuel (flags.skip rest)
      else (digits, c :: rest)
    | _, rest => (digits, rest)

def readCounts (flags : Flags) (cs : List Char) :
    Except PatternError ((Nat × Option Nat) × List Char) := do
  let (least, rest) ← readNumber? flags (flags.skip cs)
  let some least := least | throw .invalidCount
  match rest with
  | '\x7d' :: rest => return ((least, some least), rest)
  | ',' :: rest =>
    match flags.skip rest with
    | '\x7d' :: rest => return ((least, none), rest)
    | rest =>
      let (most, rest) ← readNumber? flags rest
      match most, rest with
      | some most, '\x7d' :: rest =>
        if least ≤ most then return ((least, some most), rest) else throw .invalidCount
      | _, _ => throw .invalidCount
  | _ => throw .invalidCount

def repeatLast (flags : Flags) (parts : List Part) (least : Nat) (most : Option Nat)
    (cs : List Char) : Except PatternError (List Part × List Char) :=
  match parts with
  | ⟨some p, depth⟩ :: parts =>
    let (lazy, rest) :=
      match cs with
      | '?' :: rest => (true, rest)
      | _ => (false, cs)
    .ok (⟨some (p.times least most (lazy == flags.lazy)), depth + 1⟩ :: parts, rest)
  | _ => .error .missingOperand

def atomPart (flags : Flags) (atom : Atom) : Part :=
  match atom with
  | .look l => ⟨some (.look l), 0⟩
  | .set s => ⟨some (.char s), 0⟩
  | .literal c => ⟨some (.char (flags.fold (.single c))), 0⟩

mutual
/--
Reads alternatives up to a closing parenthesis or the end, which is left. `parts` are those of the
current alternative, the last one first.
-/
def alternatives (flags : Flags) (groups : Groups) (done : List Part) (parts : List Part) :
    Nat → List Char → Except PatternError ((Part × Groups) × List Char)
  | 0, _ => .error .tooDeep
  | fuel + 1, cs => do
    let push (part : Part) (rest : List Char) :=
      alternatives flags groups done (part :: parts) fuel rest
    let repeated (least : Nat) (most : Option Nat) (rest : List Char) := do
      let (parts, rest) ← repeatLast flags parts least most rest
      alternatives flags groups done parts fuel rest
    match flags.skip cs with
    | [] => return ((finish, groups), [])
    | ')' :: rest => return ((finish, groups), ')' :: rest)
    | '|' :: rest => alternatives flags groups (done ++ [joinParts parts.reverse]) [] fuel rest
    | '(' :: rest =>
      let ((part, flags, groups), rest) ← group flags groups fuel rest
      alternatives flags groups done (part :: parts) fuel rest
    | '[' :: rest =>
      let ((set, depth), rest) ← bracket flags (2 * cs.length + 2) rest
      push ⟨some (.char set), depth⟩ rest
    | '?' :: rest => repeated 0 (some 1) rest
    | '*' :: rest => repeated 0 none rest
    | '+' :: rest => repeated 1 none rest
    | '\x7b' :: rest =>
      if parts.isEmpty then throw .missingOperand
      let ((least, most), rest) ← readCounts flags rest
      repeated least most (flags.skip rest)
    | '.' :: rest => push ⟨some (.char (← flags.dot)), 0⟩ rest
    | '^' :: rest => push ⟨some (.look flags.startOfLine), 0⟩ rest
    | '$' :: rest => push ⟨some (.look flags.endOfLine), 0⟩ rest
    | '\\' :: rest =>
      let (atom, rest) ← escape flags rest
      push (atomPart flags atom) rest
    | c :: rest => push (atomPart flags (.literal c)) rest
where
  finish : Part :=
    joinAlternatives (done ++ [joinParts parts.reverse])

def group (flags : Flags) (groups : Groups) :
    Nat → List Char → Except PatternError ((Part × Flags × Groups) × List Char)
  | 0, _ => .error .tooDeep
  | fuel + 1, cs => do
    match flags.skip cs with
    | '?' :: '=' :: _ => throw .lookAround
    | '?' :: '!' :: _ => throw .lookAround
    | '?' :: '<' :: '=' :: _ => throw .lookAround
    | '?' :: '<' :: '!' :: _ => throw .lookAround
    | '?' :: 'P' :: '<' :: rest => named flags groups fuel rest
    | '?' :: '<' :: rest => named flags groups fuel rest
    | '?' :: rest =>
      let ((inner, changed), rest) ← readFlags flags [] rest
      match rest with
      | ')' :: rest =>
        if changed then return ((⟨none, 0⟩, inner, groups), rest) else throw .missingOperand
      | _ =>
        let ((part, groups), rest) ← alternatives inner groups [] [] fuel (rest.drop 1)
        let rest ← closed rest
        return ((⟨part.tree, part.depth + 1⟩, flags, groups), rest)
    | rest => captured flags groups none fuel rest

def named (flags : Flags) (groups : Groups) :
    Nat → List Char → Except PatternError ((Part × Flags × Groups) × List Char)
  | 0, _ => .error .tooDeep
  | fuel + 1, cs => do
    let (name, rest) ← groupName cs
    if groups.names.any (·.1 == name) then throw .invalidName
    captured flags groups (some name) fuel rest

def captured (flags : Flags) (groups : Groups) (name : Option String) :
    Nat → List Char → Except PatternError ((Part × Flags × Groups) × List Char)
  | 0, _ => .error .tooDeep
  | fuel + 1, cs => do
    let index := groups.next
    let names :=
      match name with
      | some name => groups.names ++ [(name, index)]
      | none => groups.names
    let ((part, groups), rest) ← alternatives flags ⟨index + 1, names⟩ [] [] fuel cs
    let rest ← closed rest
    return ((⟨part.tree.map (.capture index), part.depth + 1⟩, flags, groups), rest)

def closed (cs : List Char) : Except PatternError (List Char) :=
  match cs with
  | ')' :: rest => .ok rest
  | _ => .error .unclosedGroup
end

def read (cs : List Char) : Except PatternError (Pattern × Groups) := do
  let ((part, groups), rest) ← alternatives {} {} [] [] (4 * cs.length + 4) cs
  if !rest.isEmpty then throw .unopenedGroup
  if part.depth > nestLimit then throw .tooDeep
  return (part.tree.getD .empty, groups)

end Pattern

end Stencil
