import Std.Data.HashMap
import Stencil.Pattern.Tree

/-!
This module contains the size of a pattern: what its automaton over the bytes of UTF-8 takes, run
forwards or backwards. A state takes 32 bytes, a link of a state that has several takes 8 bytes, and
a way to go on takes 4 where there are several. Sets beyond ASCII share what they have in common
through a table of limited places, in which a newcomer replaces what stood there.
-/

namespace Stencil

namespace Pattern

def sizeLimit : Nat := 10485760

/--
An automaton under construction: the number of its states, the bytes of its links, and the table of
states to be shared, each under the numbers that describe it.
-/
structure Construction where
  states : Nat := 0
  links : Nat := 0
  places : Std.HashMap Nat (List Nat × Nat) := ∅
  deriving Inhabited

namespace Construction

def bytes (b : Construction) : Nat :=
  32 * b.states + b.links

def grow (b : Construction) (states links : Nat) : Construction :=
  { b with states := b.states + states, links := b.links + links }

def place (capacity : Nat) (description : List Nat) : Nat :=
  let mix (h : UInt64) (n : Nat) : UInt64 := (h ^^^ n.toUInt64) * 1099511628211
  (description.foldl mix 14695981039346656037).toNat % capacity

def share (b : Construction) (capacity : Nat) (description : List Nat) (links : Nat) :
    Nat × Construction :=
  let place := place capacity description
  match b.places[place]? with
  | some (shared, state) => if shared == description then (state, b) else add place b
  | none => add place b
where
  add (place : Nat) (b : Construction) : Nat × Construction :=
    let state := b.states
    (state, { b.grow 1 links with places := b.places.insert place (description, state) })

end Construction

abbrev ByteRange := Nat × Nat

/--
The code points from `first` to `last` as sequences of byte ranges, in increasing order: a byte that
`lead` is added to and `count` more of six bits each.
-/
def spell (lead : Nat) : Nat → Nat → Nat → List (List ByteRange)
  | 0, first, last => [[(lead + first, lead + last)]]
  | count + 1, first, last =>
    let block := Nat.pow 64 (count + 1)
    let top (n : Nat) : ByteRange := (lead + n / block, lead + n / block)
    if first / block == last / block then
      (spell 0x80 count (first % block) (last % block)).map (top first :: ·)
    else
      let opening := first % block != 0
      let closing := last % block != block - 1
      let start := if opening then first / block + 1 else first / block
      let stop := if closing then last / block else last / block + 1
      (if opening then
          (spell 0x80 count (first % block) (block - 1)).map (top first :: ·)
        else [])
        ++ (if start < stop then
          [(lead + start, lead + stop - 1) :: List.replicate (count + 1) (0x80, 0xbf)]
        else [])
        ++ (if closing then (spell 0x80 count 0 (last % block)).map (top last :: ·) else [])

def spellInterval (interval : Nat × Nat) : List (List ByteRange) :=
  [(0x00, 0x0, 0x7f, 0), (0xc0, 0x80, 0x7ff, 1), (0xe0, 0x800, 0xffff, 2),
   (0xf0, 0x10000, 0x10ffff, 3)].flatMap fun (lead, least, greatest, count) =>
    let first := max interval.1 least
    let last := min interval.2 greatest
    if first ≤ last then spell lead count first last else []

/--
The state that the sequences start from when they are read forwards and end in `target`. Sequences
with the same first byte go on from the same state.
-/
def addForwards (target : Nat) :
    Nat → List (List ByteRange) → Construction → Nat × Construction
  | 0, _, b => (target, b)
  | length + 1, sequences, b =>
    let groups := sequences.splitBy fun s t => s.head? == t.head?
    let (links, b) := groups.foldl
      (fun (links, b) group =>
        let (first, last) := (group.head?.bind List.head?).getD (0, 0)
        let rests := (group.map List.tail).filter (!·.isEmpty)
        let (next, b) := if rests.isEmpty then (target, b) else addForwards target length rests b
        (next :: last :: first :: links, b))
      ([], b)
    b.share 10000 links.reverse (8 * groups.length)

def addBackwards (target : Nat) : List ByteRange → Construction → Nat × Construction
  | [], b => (target, b)
  | (first, last) :: rest, b =>
    let (state, b) := b.share 1000 [target, first, last] 0
    addBackwards state rest b

/--
A pattern as it is laid out: with its sets spelled in bytes. A set that is a single character or one
of ASCII takes a known number of states and links.
-/
inductive Layout where
  | fixed (states links : Nat)
  | spelled (sequences : List (List ByteRange))
  | cat (first second : Layout)
  | alt (left right : Layout)
  | repeated (body : Layout) (nullable : Bool) (least : Nat) (most : Option Nat)
  | capture (body : Layout)
  deriving Inhabited

namespace Layout

def ofSet (set : CharSet) : Layout :=
  match set with
  | .range first last => if first == last then fixed first.utf8Size 0 else ofIntervals set.intervals
  | _ => ofIntervals set.intervals
where
  ofIntervals (intervals : List (Nat × Nat)) : Layout :=
    match intervals with
    | [(first, last)] =>
      if first == last then fixed (Char.ofNat first).utf8Size 0 else several intervals
    | _ => several intervals
  several (intervals : List (Nat × Nat)) : Layout :=
    if intervals.all (·.2 < 128) then fixed 2 (8 * intervals.length)
    else spelled (intervals.flatMap spellInterval)

def ofPattern : Pattern → Layout
  | .empty => fixed 1 0
  | .char set => ofSet set
  | .look _ => fixed 1 0
  | .cat first second => cat (ofPattern first) (ofPattern second)
  | .alt left right => alt (ofPattern left) (ofPattern right)
  | .repeated body least most _ => repeated (ofPattern body) body.isNullable least most
  | .capture _ body => capture (ofPattern body)

def addTimes (part : Construction → Construction) : Nat → Construction → Construction
  | 0, b => b
  | n + 1, b => if b.bytes > sizeLimit then b else addTimes part n (part b)

def addSpelled (backwards : Bool) (sequences : List (List ByteRange)) (b : Construction) :
    Construction :=
  let b := { b with places := ∅ }
  if backwards then
    sequences.foldl (fun b' s => (addBackwards (b.states + 1) s b').2)
      (b.grow 2 (4 * sequences.length))
  else (addForwards b.states 4 sequences (b.grow 1 0)).2

/--
Adds a pattern. One of several alternatives (`inChoice`) is a way to go on; groups leave states only
forwards.
-/
def add (backwards : Bool) (inChoice : Bool) : Layout → Construction → Construction
  | alt left right, b =>
    let b := add backwards true right (add backwards true left b)
    if inChoice then b else b.grow 2 0
  | fixed states links, b => (way b).grow states links
  | spelled sequences, b => addSpelled backwards sequences (way b)
  | cat first second, b =>
    if backwards then add backwards false first (add backwards false second (way b))
    else add backwards false second (add backwards false first (way b))
  | capture body, b =>
    let b := add backwards false body (way b)
    if backwards then b else b.grow 2 0
  | repeated body nullable least most, b =>
    let part := add backwards false body
    let b := way b
    match least, most with
    | 0, none => if nullable then (part b).grow 3 16 else (part b).grow 1 8
    | 0, some 1 => (part b).grow 2 8
    | least, none => (addTimes part least b).grow 1 8
    | least, some most =>
      let b := if least == 0 then b.grow 1 0 else addTimes part least b
      if least == most then b
      else addTimes (fun b => part (b.grow 1 8)) (most - least) (b.grow 1 0)
where
  way (b : Construction) : Construction :=
    if inChoice then b.grow 0 4 else b

end Layout

def startsAtStart : Pattern → Bool
  | look l => l == .startOfText
  | cat first second => first.startsAtStart || (first.isWeightless && second.startsAtStart)
  | alt left right => left.startsAtStart && right.startsAtStart
  | repeated body least _ _ => least != 0 && body.startsAtStart
  | capture _ body => body.startsAtStart
  | _ => false

def endsAtEnd : Pattern → Bool
  | look l => l == .endOfText
  | cat first second => second.endsAtEnd || (second.isWeightless && first.endsAtEnd)
  | alt left right => left.endsAtEnd && right.endsAtEnd
  | repeated body least _ _ => least != 0 && body.endsAtEnd
  | capture _ body => body.endsAtEnd
  | _ => false

def size (backwards : Bool) (p : Pattern) (layout : Layout) : Nat :=
  let anchored := if backwards then p.endsAtEnd else p.startsAtStart
  let start : Construction := if anchored then ⟨1, 0, ∅⟩ else ⟨3, 16, ∅⟩
  let start := if backwards then start else start.grow 1 0
  (layout.add backwards false start).bytes + if backwards then 32 else 64

def isTooLarge (p : Pattern) : Bool :=
  let layout := Layout.ofPattern p
  p.size false layout > sizeLimit || p.size true layout > sizeLimit

end Pattern

end Stencil
