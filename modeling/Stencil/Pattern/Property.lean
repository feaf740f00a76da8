import Stencil.Pattern.Tree
import Stencil.Unicode.Age
import Stencil.Unicode.Break
import Stencil.Unicode.Script

/-!
This module contains the character properties that a pattern can name: general categories, scripts,
ages, the classes by which text is cut, and properties that a character has or has not. A name is
compared without case, spaces, hyphens, underscores and a leading `is`.
-/

namespace Stencil

namespace Pattern

def looseName (name : List Char) : String :=
  match name with
  | i :: s :: rest =>
    if i.toLower == 'i' && s.toLower == 's' then
      let rest := relevant rest
      String.ofList (if rest == ['c'] then ['i', 's', 'c'] else rest)
    else String.ofList (relevant name)
  | _ => String.ofList (relevant name)
where
  relevant (cs : List Char) : List Char :=
    (cs.filter fun c => c.toNat < 128 && c != ' ' && c != '-' && c != '_').map Char.toLower

def categories? (name : String) : Option (List Category) :=
  match name with
  | "lu" | "uppercaseletter" => some [.uppercaseLetter]
  | "ll" | "lowercaseletter" => some [.lowercaseLetter]
  | "lt" | "titlecaseletter" => some [.titlecaseLetter]
  | "lm" | "modifierletter" => some [.modifierLetter]
  | "lo" | "otherletter" => some [.otherLetter]
  | "lc" | "casedletter" => some [.uppercaseLetter, .lowercaseLetter, .titlecaseLetter]
  | "l" | "letter" =>
    some [.uppercaseLetter, .lowercaseLetter, .titlecaseLetter, .modifierLetter, .otherLetter]
  | "mn" | "nonspacingmark" => some [.nonspacingMark]
  | "mc" | "spacingmark" => some [.spacingMark]
  | "me" | "enclosingmark" => some [.enclosingMark]
  | "m" | "mark" | "combiningmark" => some [.nonspacingMark, .spacingMark, .enclosingMark]
  | "nd" | "decimalnumber" | "digit" => some [.decimalNumber]
  | "nl" | "letternumber" => some [.letterNumber]
  | "no" | "othernumber" => some [.otherNumber]
  | "n" | "number" => some [.decimalNumber, .letterNumber, .otherNumber]
  | "pc" | "connectorpunctuation" => some [.connectorPunctuation]
  | "pd" | "dashpunctuation" => some [.dashPunctuation]
  | "ps" | "openpunctuation" => some [.openPunctuation]
  | "pe" | "closepunctuation" => some [.closePunctuation]
  | "pi" | "initialpunctuation" => some [.initialPunctuation]
  | "pf" | "finalpunctuation" => some [.finalPunctuation]
  | "po" | "otherpunctuation" => some [.otherPunctuation]
  | "p" | "punctuation" | "punct" =>
    some [.connectorPunctuation, .dashPunctuation, .openPunctuation, .closePunctuation,
      .initialPunctuation, .finalPunctuation, .otherPunctuation]
  | "sm" | "mathsymbol" => some [.mathSymbol]
  | "sc" | "currencysymbol" => some [.currencySymbol]
  | "sk" | "modifiersymbol" => some [.modifierSymbol]
  | "so" | "othersymbol" => some [.otherSymbol]
  | "s" | "symbol" => some [.mathSymbol, .currencySymbol, .modifierSymbol, .otherSymbol]
  | "zs" | "spaceseparator" => some [.spaceSeparator]
  | "zl" | "lineseparator" => some [.lineSeparator]
  | "zp" | "paragraphseparator" => some [.paragraphSeparator]
  | "z" | "separator" => some [.spaceSeparator, .lineSeparator, .paragraphSeparator]
  | "cc" | "control" | "cntrl" => some [.control]
  | "cf" | "format" => some [.format]
  | "co" | "privateuse" => some [.privateUse]
  | "cn" | "unassigned" => some [.unassigned]
  | "c" | "other" => some [.control, .format, .privateUse, .unassigned]
  | _ => none

def categorySet? (name : String) : Option CharSet :=
  match name with
  | "any" => some .any
  | "ascii" => some .ascii
  | "assigned" => some (.complement Category.unassigned.set)
  | _ => (categories? name).map fun cs => .anyOf (cs.map Category.set)

def namedSet? (name : String) : Option CharSet :=
  ((BinaryProperty.find? name).map BinaryProperty.set
    |>.or (categorySet? name)).or ((Script.find? name).map Script.members)

def valueSet? (name value : String) : Option CharSet :=
  match name with
  | "gc" | "generalcategory" => categorySet? value
  | "sc" | "script" => (Script.find? value).map Script.members
  | "scx" | "scriptextensions" => (Script.find? value).map Script.users
  | "age" => Age.assignedBy? value
  | "gcb" | "graphemeclusterbreak" =>
    (BreakClass.find? BreakClass.graphemeClasses value).map BreakClass.set
  | "wb" | "wordbreak" => (BreakClass.find? BreakClass.wordClasses value).map BreakClass.set
  | "sb" | "sentencebreak" =>
    (BreakClass.find? BreakClass.sentenceClasses value).map BreakClass.set
  | _ => none

/--
The set of a property as it is written in braces: a name, or a name and a value. A value after
`!=` is excluded, which the second result tells.
-/
def property (text : List Char) : Except PatternError (CharSet × Bool) :=
  let (name, rest) := text.span fun c => c != '!' && c != ':' && c != '='
  let (set, excluded) :=
    match rest with
    | '!' :: '=' :: value => (valueSet? (looseName name) (looseName value), true)
    | ':' :: value => (valueSet? (looseName name) (looseName value), false)
    | '=' :: value => (valueSet? (looseName name) (looseName value), false)
    | _ => (namedSet? (looseName text), false)
  match set with
  | some s => .ok (s, excluded)
  | none => .error .unknownProperty

end Pattern

end Stencil
