import Stencil.Settings
import Stencil.Text.Search

/-!
This module contains templates: texts with expressions between delimiters. A text is cut into pieces
from left to right: literal text up to the next start delimiter, and the source of an expression up
to the first end delimiter after it. The pieces are then compiled in order, so that the leftmost
failing one gives the error.
-/

namespace Stencil

inductive Piece where
  | literal (text : List Char)
  | source (pos : Nat) (text : List Char)
  | unterminated (pos : Nat)
  deriving Repr, DecidableEq, Inhabited

namespace Piece

def literal? (text : List Char) : List Piece :=
  if text.isEmpty then [] else [literal text]

/--
The pieces of a text with `pos` characters in front. Every expression takes at least its start
delimiter, so that the length of the text bounds their number.
-/
def cut (d : Delimiters) : Nat → Nat → List Char → List Piece
  | 0, _, _ => []
  | fuel + 1, pos, text =>
    match Text.splitOnce? d.start.toList text with
    | none => literal? text
    | some (before, after) =>
      let start := pos + before.length
      let inner := start + d.start.toList.length
      match Text.splitOnce? d.stop.toList after with
      | none => literal? before ++ [unterminated start]
      | some (src, rest) =>
        literal? before
          ++ source inner src :: cut d fuel (inner + src.length + d.stop.toList.length) rest

def ofText (d : Delimiters) (text : List Char) : List Piece :=
  cut d (text.length + 1) 0 text

end Piece

inductive Segment (H : Type) where
  | literal (text : String)
  | expr (e : Expr H)

instance {H : Type} : Inhabited (Segment H) where
  default := .literal ""

structure Template (H : Type) where
  segments : List (Segment H)
  members : Members H

namespace Template

variable {H : Type} [HostObject H]

def compilePiece (s : Settings H) (d : Delimiters) : Piece → Except ParseError (Segment H)
  | .literal text => .ok (.literal (String.ofList text))
  | .source pos text =>
    match s.parse (String.ofList text) with
    | .ok e => .ok (.expr e)
    | .error cause => .error (cause.shift pos)
  | .unterminated pos => .error ⟨pos, .unterminatedDelimiter d.start⟩

def compilePieces (s : Settings H) (d : Delimiters) :
    List Piece → Except ParseError (List (Segment H))
  | [] => .ok []
  | piece :: rest => do
    let segment ← compilePiece s d piece
    return segment :: (← compilePieces s d rest)

def compile (s : Settings H) (d : Delimiters) (src : String) :
    Except ParseError (Template H) := do
  return ⟨← compilePieces s d (Piece.ofText d src.toList), s.members⟩

def renderSegment (env : Env H) : Segment H → Eval String
  | .literal text => .ok text
  | .expr e => (e.eval env).map Value.toText

def renderSegments (env : Env H) : List (Segment H) → Eval String
  | [] => .ok ""
  | segment :: rest => do
    let text ← renderSegment env segment
    return text ++ (← renderSegments env rest)

def render (t : Template H) (lookup : String → Option (Value H)) : Eval String :=
  renderSegments ⟨lookup, t.members⟩ t.segments

def eval (t : Template H) (lookup : String → Option (Value H)) : Eval (Value H) :=
  match t.segments with
  | [.expr e] => e.eval ⟨lookup, t.members⟩
  | _ => (t.render lookup).map .str

end Template

end Stencil
