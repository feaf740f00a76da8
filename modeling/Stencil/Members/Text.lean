import Stencil.Operator
import Stencil.Pattern.Search
import Stencil.Unicode.Case
import Stencil.Text.Search
import Stencil.Value.Arguments

/-!
This module contains the methods of texts. All positions count characters, from zero on.
-/

namespace Stencil

namespace Members

variable {H : Type} [HostObject H]

def pattern (method : String) (text : List Char) : Eval Regex :=
  match Regex.ofText text with
  | .ok r => .ok r
  | .error e => .error (.callResolution method (.pattern e.message))

/--
The characters from one position up to another one. The larger of two bad positions is reported.
-/
def substring (cs : List Char) (start stop : Int64) : Eval (List Char) :=
  if start < 0 || stop < start || stop.toInt > cs.length then
    .error (.indexOutOfBounds (if start < stop then stop else start) cs.length)
  else
    .ok ((cs.take stop.toInt.toNat).drop start.toInt.toNat)

def indexOf (part cs : List Char) : Value H :=
  match Text.find? part cs with
  | some i => .ofLength i
  | none => .int (-1)

def contains (part cs : List Char) : Bool :=
  (Text.find? part cs).isSome

def dropTrailing (pieces : List (List Char)) : List (List Char) :=
  if pieces.length > 1 then (pieces.reverse.dropWhile List.isEmpty).reverse else pieces

def ofChars (cs : List Char) : Value H :=
  .str (String.ofList cs)

def textMethod (s : String) (name : String) (args : List (Value H)) : Option (Eval (Value H)) :=
  let cs := s.toList
  match name with
  | "length" => some (Arguments.none name args (.ofLength cs.length))
  | "isEmpty" => some (Arguments.none name args (.bool cs.isEmpty))
  | "isBlank" => some (Arguments.none name args (.bool (Text.trim cs).isEmpty))
  | "trim" => some (Arguments.none name args (ofChars (Text.trim cs)))
  | "toUpperCase" => some (Arguments.none name args (ofChars (Unicode.toUppercase cs)))
  | "toLowerCase" => some (Arguments.none name args (ofChars (Unicode.toLowercase cs)))
  | "charAt" => some do
    return ofChars [← Value.elementAt cs (← Arguments.oneInteger name args)]
  | "substring" => some do
    match args with
    | [start] =>
      let start ← Arguments.integer name 0 start
      return ofChars (← substring cs start (Int64.ofNat cs.length))
    | [start, stop] =>
      let start ← Arguments.integer name 0 start
      let stop ← Arguments.integer name 1 stop
      return ofChars (← substring cs start stop)
    | _ => throw (Arguments.wrongNumber name .oneOrTwo args)
  | "indexOf" => some do
    return indexOf (← Arguments.oneText name args).toList cs
  | "contains" => some do
    return .bool (contains (← Arguments.oneText name args).toList cs)
  | "startsWith" => some do
    return .bool (Text.startsWith (← Arguments.oneText name args).toList cs)
  | "endsWith" => some do
    return .bool (Text.endsWith (← Arguments.oneText name args).toList cs)
  | "concat" => some do
    return .str (s ++ (← Arguments.one name args).toText)
  | "replace" => some do
    let (part, replacement) ← Arguments.twoTexts name args
    return ofChars (Text.replace part.toList replacement.toList cs)
  | "matches" => some do
    let r ← pattern name (Regex.anchored (← Arguments.oneText name args).toList)
    return .bool (r.isMatch cs)
  | "replaceAll" => some do
    let (source, replacement) ← Arguments.two name args
    let r ← pattern name (← Arguments.text name 0 source).toList
    return ofChars (r.replaceAll cs (← Arguments.text name 1 replacement).toList)
  | "split" => some do
    let r ← pattern name (← Arguments.oneText name args).toList
    return .list ((dropTrailing (r.split cs)).map ofChars)
  | _ => none

end Members

end Stencil
