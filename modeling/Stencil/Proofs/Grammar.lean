import Stencil.Proofs.Symbol
import Stencil.Parser.Expression

/-!
This module contains the grammar of expressions: how tightly an expression binds, and the tokens that
it is written as. Groups are the only parentheses, so that an operand binds at least as tightly as
its operator asks for.
-/

namespace Stencil

variable {H : Type}

abbrev Token := List Char

/--
How tightly an expression binds: choices do least, binary operators by their precedence, and then
prefix operators, chains, and what has its own beginning and end.
-/
def Expr.level : Expr H → Nat
  | ternary _ _ _ => 0
  | binary op _ _ => op.precedence
  | unary _ _ => 10
  | chain _ _ => 11
  | _ => 12

def IsName (tok : Token) : Prop :=
  ∃ first rest, tok = first :: rest ∧ Symbol.isIdentStart first = true
    ∧ ∀ c ∈ rest, Symbol.isIdentContinue c = true

def escaped (quote : Char) (text : List Char) : List Char :=
  text.flatMap fun c => if c = quote ∨ c = '\\' then ['\\', c] else [c]

def quoted (quote : Char) (text : List Char) : Token :=
  quote :: (escaped quote text ++ [quote])

/--
How constants are written. No integer has a sign.
-/
inductive Literal : Value H → Token → Prop where
  | null : Literal .null "null".toList
  | bool (b : Bool) : Literal (.bool b) (if b then "true" else "false").toList
  | int (n : Int64) : 0 ≤ n → Literal (.int n) (Integer.toText n).toList
  | str (quote : Char) (text : String) :
      quote = '\'' ∨ quote = '"' → Literal (.str text) (quoted quote text.toList)

inductive Phrase (H : Type) where
  | expr (e : Expr H)
  | items (es : List (Expr H))
  | key (k : Expr H)
  | entries (entries : List (Expr H × Expr H))
  | steps (steps : List (Step H))

/--
A phrase is written as tokens, where constants are spelled as `Spelled` says.
-/
inductive Written (Spelled : Value H → Token → Prop) (classes : Parser.ClassLookup H) :
    Phrase H → List Token → Prop where
  | literal {v : Value H} {tok : Token} :
      Spelled v tok → Written Spelled classes (.expr (.const v)) [tok]
  | var {name : String} :
      IsName name.toList → Parser.keyword? (H := H) name = none →
        Written Spelled classes (.expr (.var name)) [name.toList]
  | unary {op : UnaryOp} {operand : Expr H} {ts : List Token} :
      10 ≤ operand.level → Written Spelled classes (.expr operand) ts →
        Written Spelled classes (.expr (.unary op operand)) (op.symbol.toList :: ts)
  | binary {op : BinaryOp} {left right : Expr H} {ts ts' : List Token} :
      op.precedence ≤ left.level → op.precedence < right.level →
        Written Spelled classes (.expr left) ts → Written Spelled classes (.expr right) ts' →
          Written Spelled classes (.expr (.binary op left right)) (ts ++ op.symbol.toList :: ts')
  | ternary {cond yes no : Expr H} {ts ts' ts'' : List Token} :
      0 < cond.level → Written Spelled classes (.expr cond) ts →
        Written Spelled classes (.expr yes) ts' → Written Spelled classes (.expr no) ts'' →
          Written Spelled classes (.expr (.ternary cond yes no))
            (ts ++ ['?'] :: ts' ++ [':'] :: ts'')
  | group {inner : Expr H} {ts : List Token} :
      Written Spelled classes (.expr inner) ts →
        Written Spelled classes (.expr (.group inner)) (['('] :: ts ++ [[')']])
  | array {es : List (Expr H)} {ts : List Token} :
      Written Spelled classes (.items es) ts →
        Written Spelled classes (.expr (.array es)) (['['] :: ts ++ [[']']])
  | map {entries : List (Expr H × Expr H)} {ts : List Token} :
      Written Spelled classes (.entries entries) ts →
        Written Spelled classes (.expr (.map entries)) (['\x7b'] :: ts ++ [['\x7d']])
  | emptyMap : Written Spelled classes (.expr (.map [])) [['\x7b'], [':'], ['\x7d']]
  | staticField {className name : String} {cls : StaticClass H} :
      IsName className.toList → classes className = some cls → IsName name.toList →
        Written Spelled classes (.expr (.staticField cls name))
          [['@'], className.toList, ['.'], name.toList]
  | staticCall {className method : String} {cls : StaticClass H} {args : List (Expr H)}
      {ts : List Token} :
      IsName className.toList → classes className = some cls → IsName method.toList →
        Written Spelled classes (.items args) ts →
          Written Spelled classes (.expr (.staticCall cls method args))
            (['@'] :: className.toList :: ['.'] :: method.toList :: ['('] :: ts ++ [[')']])
  | chain {base : Expr H} {steps : List (Step H)} {ts ts' : List Token} :
      12 ≤ base.level → steps ≠ [] → Written Spelled classes (.expr base) ts →
        Written Spelled classes (.steps steps) ts' →
          Written Spelled classes (.expr (.chain base steps)) (ts ++ ts')
  | noItems : Written Spelled classes (.items []) []
  | lastItem {e : Expr H} {ts : List Token} :
      Written Spelled classes (.expr e) ts → Written Spelled classes (.items [e]) ts
  | item {e e' : Expr H} {es : List (Expr H)} {ts ts' : List Token} :
      Written Spelled classes (.expr e) ts → Written Spelled classes (.items (e' :: es)) ts' →
        Written Spelled classes (.items (e :: e' :: es)) (ts ++ [','] :: ts')
  | nameKey {name : String} :
      IsName name.toList → Written Spelled classes
        (.key (.const ((Parser.keyword? name).getD (.str name)))) [name.toList]
  | key {k : Expr H} {first : Char} {tok : Token} {ts : List Token} :
      11 ≤ k.level → Symbol.isIdentStart first = false →
        Written Spelled classes (.expr k) ((first :: tok) :: ts) →
          Written Spelled classes (.key k) ((first :: tok) :: ts)
  | noEntries : Written Spelled classes (.entries []) []
  | lastEntry {k e : Expr H} {ts ts' : List Token} :
      Written Spelled classes (.key k) ts → Written Spelled classes (.expr e) ts' →
        Written Spelled classes (.entries [(k, e)]) (ts ++ [':'] :: ts')
  | entry {k e : Expr H} {entry : Expr H × Expr H} {entries : List (Expr H × Expr H)}
      {ts ts' ts'' : List Token} :
      Written Spelled classes (.key k) ts → Written Spelled classes (.expr e) ts' →
        Written Spelled classes (.entries (entry :: entries)) ts'' →
          Written Spelled classes (.entries ((k, e) :: entry :: entries))
            (ts ++ [':'] :: ts' ++ [','] :: ts'')
  | noSteps : Written Spelled classes (.steps []) []
  | property {name : String} {steps : List (Step H)} {ts : List Token} :
      IsName name.toList → Written Spelled classes (.steps steps) ts →
        Written Spelled classes (.steps (.property name :: steps)) (['.'] :: name.toList :: ts)
  | method {name : String} {args : List (Expr H)} {steps : List (Step H)} {ts ts' : List Token} :
      IsName name.toList → Written Spelled classes (.items args) ts →
        Written Spelled classes (.steps steps) ts' →
          Written Spelled classes (.steps (.method name args :: steps))
            (['.'] :: name.toList :: ['('] :: ts ++ [')'] :: ts')
  | index {key : Expr H} {steps : List (Step H)} {ts ts' : List Token} :
      Written Spelled classes (.expr key) ts → Written Spelled classes (.steps steps) ts' →
        Written Spelled classes (.steps (.index key :: steps)) (['['] :: ts ++ [']'] :: ts')

theorem Written.mono {Spelled Spelled' : Value H → Token → Prop} {classes : Parser.ClassLookup H}
    {phrase : Phrase H} {ts : List Token} (h : Written Spelled classes phrase ts)
    (hspelled : ∀ v tok, Spelled v tok → Spelled' v tok) : Written Spelled' classes phrase ts := by
  induction h with
  | literal hv => exact .literal (hspelled _ _ hv)
  | var hname hkeyword => exact .var hname hkeyword
  | unary hlevel _ ih => exact .unary hlevel ih
  | binary hleft hright _ _ ih ih' => exact .binary hleft hright ih ih'
  | ternary hlevel _ _ _ ih ih' ih'' => exact .ternary hlevel ih ih' ih''
  | group _ ih => exact .group ih
  | array _ ih => exact .array ih
  | map _ ih => exact .map ih
  | emptyMap => exact .emptyMap
  | staticField hclass hcls hname => exact .staticField hclass hcls hname
  | staticCall hclass hcls hname _ ih => exact .staticCall hclass hcls hname ih
  | chain hlevel hne _ _ ih ih' => exact .chain hlevel hne ih ih'
  | noItems => exact .noItems
  | lastItem _ ih => exact .lastItem ih
  | item _ _ ih ih' => exact .item ih ih'
  | nameKey hname => exact .nameKey hname
  | key hlevel hfirst _ ih => exact .key hlevel hfirst ih
  | noEntries => exact .noEntries
  | lastEntry _ _ ih ih' => exact .lastEntry ih ih'
  | entry _ _ _ ih ih' ih'' => exact .entry ih ih' ih''
  | noSteps => exact .noSteps
  | property hname _ ih => exact .property hname ih
  | method hname _ _ ih ih' => exact .method hname ih ih'
  | index _ _ ih ih' => exact .index ih ih'

end Stencil
