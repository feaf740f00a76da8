import Stencil.Classes.Builtin
import Stencil.Proofs.Outcome

/-!
This module contains how many arguments the built-in methods take, and the proof that each of them
refuses every other number, whatever the arguments are; only `lineSeparator` of the class `System` takes
them all.
-/

namespace Stencil

/--
What a method asks of the number of its arguments: it takes just so many, or it takes a separator and
any number of others.
-/
inductive Demand where
  | count (arity : Arity)
  | separator

namespace Demand

abbrev exactly (n : Nat) : Demand :=
  count (.exactly n)

def Admits : Demand → Nat → Prop
  | count (.exactly n), given => given = n
  | count .oneOrTwo, given => given = 1 ∨ given = 2
  | separator, given => 1 ≤ given

def problem : Demand → Nat → CallProblem
  | count arity, given => .arity arity given
  | separator, _ => .separator

end Demand

variable {H : Type}

namespace Members

def textDemand (name : String) : Option Demand :=
  match name with
  | "length" | "isEmpty" | "isBlank" | "trim" | "toUpperCase" | "toLowerCase" => some (.exactly 0)
  | "charAt" | "indexOf" | "contains" | "startsWith" | "endsWith" | "concat" | "matches" | "split" =>
    some (.exactly 1)
  | "substring" => some (.count .oneOrTwo)
  | "replace" | "replaceAll" => some (.exactly 2)
  | _ => none

def listDemand (name : String) : Option Demand :=
  match name with
  | "size" | "isEmpty" => some (.exactly 0)
  | "get" | "contains" | "indexOf" => some (.exactly 1)
  | _ => none

def mapDemand (name : String) : Option Demand :=
  match name with
  | "size" | "isEmpty" | "keySet" | "values" => some (.exactly 0)
  | "get" | "containsKey" | "containsValue" => some (.exactly 1)
  | _ => none

def numberDemand (name : String) : Option Demand :=
  match name with
  | "intValue" | "longValue" | "doubleValue" | "floatValue" | "abs" => some (.exactly 0)
  | _ => none

def boolDemand (name : String) : Option Demand :=
  match name with
  | "booleanValue" => some (.exactly 0)
  | _ => none

def commonDemand (name : String) : Option Demand :=
  match name with
  | "toString" | "isNull" => some (.exactly 0)
  | "equals" => some (.exactly 1)
  | _ => none

def typeDemand (v : Value H) (name : String) : Option Demand :=
  match v with
  | .str _ => textDemand name
  | .list _ => listDemand name
  | .map _ => mapDemand name
  | .int _ | .decimal _ => numberDemand name
  | .bool _ => boolDemand name
  | .object _ | .null => none

def demand (v : Value H) (name : String) : Option Demand :=
  (typeDemand v name).or (commonDemand name)

end Members

namespace Classes

def mathDemand (method : String) : Option Demand :=
  match method with
  | "max" | "min" | "pow" => some (.exactly 2)
  | "abs" | "sqrt" | "floor" | "ceil" | "round" => some (.exactly 1)
  | _ => none

def integerDemand (method : String) : Option Demand :=
  match method with
  | "parseInt" | "valueOf" => some (.exactly 1)
  | _ => none

def longDemand (method : String) : Option Demand :=
  match method with
  | "parseLong" => some (.exactly 1)
  | _ => integerDemand method

def doubleDemand (method : String) : Option Demand :=
  match method with
  | "parseDouble" | "valueOf" => some (.exactly 1)
  | _ => none

def stringDemand (method : String) : Option Demand :=
  match method with
  | "valueOf" => some (.exactly 1)
  | "join" => some .separator
  | _ => none

def booleanDemand (method : String) : Option Demand :=
  match method with
  | "parseBoolean" => some (.exactly 1)
  | _ => none

def objectsDemand (method : String) : Option Demand :=
  match method with
  | "toString" => some (.count .oneOrTwo)
  | "isNull" | "nonNull" => some (.exactly 1)
  | "equals" | "requireNonNullElse" => some (.exactly 2)
  | _ => none

def systemDemand (method : String) : Option Demand :=
  match method with
  | "currentTimeMillis" | "lineSeparator" => some (.exactly 0)
  | _ => none

def demand (cls method : String) : Option Demand :=
  match cls with
  | "Math" => mathDemand method
  | "Integer" => integerDemand method
  | "Long" => longDemand method
  | "Double" => doubleDemand method
  | "String" => stringDemand method
  | "Boolean" => booleanDemand method
  | "Objects" => objectsDemand method
  | "System" => systemDemand method
  | _ => none

end Classes

variable {α β : Type} {name : String} {args : List (Value H)}

def Refuses (d : Demand) (name : String) (args : List (Value H)) (r : Eval α) : Prop :=
  ¬ d.Admits args.length → r = .error (.callResolution name (d.problem args.length))

theorem Refuses.bind {d : Demand} {r : Eval α} (h : Refuses d name args r) (f : α → Eval β) :
    Refuses d name args (r >>= f) := by
  intro hnot
  rw [h hnot, Outcome.error_bind]

def Obeys (demand : Option Demand) (name : String) (args : List (Value H))
    (answer : Option (Eval (Value H))) : Prop :=
  match demand with
  | none => answer = none
  | some d => ∃ r, answer = some r ∧ Refuses d name args r

theorem Obeys.or {d d' : Option Demand} {answer answer' : Option (Eval (Value H))}
    (h : Obeys d name args answer) (h' : Obeys d' name args answer') :
    Obeys (d.or d') name args (answer.or answer') := by
  cases d with
  | none =>
    obtain rfl : answer = none := h
    exact h'
  | some d =>
    obtain ⟨r, rfl, hr⟩ := h
    exact ⟨r, rfl, hr⟩

/--
The result of a call is as demanded: a wrong number of arguments is refused in the name of the method,
and where there is no such method the call fails with the error `missing`.
-/
def Answered (demand : Option Demand) (missing : EvalError) (name : String) (args : List (Value H))
    (r : Eval (Value H)) : Prop :=
  (∀ d, demand = some d → Refuses d name args r) ∧ (demand = none → r = .error missing)

theorem Obeys.answered {demand : Option Demand} {answer : Option (Eval (Value H))}
    (h : Obeys demand name args answer) (missing : EvalError) :
    Answered demand missing name args (Expr.orMissing missing answer) := by
  constructor
  . rintro d rfl
    obtain ⟨r, rfl, hr⟩ := h
    exact hr
  . rintro rfl
    obtain rfl : answer = none := h
    rfl

namespace Arguments

theorem refuses_none (result : Value H) :
    Refuses (.exactly 0) name args (Arguments.none name args result) := by
  intro h
  cases args with
  | nil => exact absurd rfl h
  | cons v rest => rfl

theorem refuses_one : Refuses (.exactly 1) name args (one name args) := by
  intro h
  unfold one
  split
  . exact absurd rfl h
  . rfl

theorem refuses_two : Refuses (.exactly 2) name args (two name args) := by
  intro h
  unfold two
  split
  . exact absurd rfl h
  . rfl

variable [HostObject H]

theorem refuses_oneText : Refuses (.exactly 1) name args (oneText name args) :=
  refuses_one.bind _

theorem refuses_oneInteger : Refuses (.exactly 1) name args (oneInteger name args) :=
  refuses_one.bind _

theorem refuses_oneNumber : Refuses (.exactly 1) name args (oneNumber name args) :=
  refuses_one.bind _

theorem refuses_twoTexts : Refuses (.exactly 2) name args (twoTexts name args) :=
  refuses_two.bind _

theorem refuses_twoNumbers : Refuses (.exactly 2) name args (twoNumbers name args) :=
  refuses_two.bind _

end Arguments

namespace Members

open Arguments

theorem obeys_numberMethod (v : Value H) (n : Int64) (x : Float) (name : String)
    (args : List (Value H)) : Obeys (numberDemand name) name args (numberMethod v n x name args) := by
  unfold numberMethod
  split
  case h_6 =>
    unfold numberDemand
    split
    case h_6 => rfl
    all_goals contradiction
  all_goals exact ⟨_, rfl, refuses_none _⟩

theorem obeys_boolMethod (b : Bool) (name : String) (args : List (Value H)) :
    Obeys (boolDemand name) name args (boolMethod b name args) := by
  unfold boolMethod
  split
  case h_1 => exact ⟨_, rfl, refuses_none _⟩
  case h_2 =>
    unfold boolDemand
    split
    . contradiction
    . rfl

end Members

namespace Classes

theorem obeys_systemCall (now : Int64) {method : String} (h : method ≠ "lineSeparator")
    (args : List (Value H)) :
    Obeys (systemDemand method) method args (systemCall now method args) := by
  unfold systemCall
  split
  case h_1 => exact ⟨_, rfl, Arguments.refuses_none _⟩
  case h_2 => contradiction
  case h_3 =>
    unfold systemDemand
    split
    case h_3 => rfl
    all_goals contradiction

end Classes

variable [HostObject H]

namespace Members

open Arguments

theorem obeys_textMethod (s name : String) (args : List (Value H)) :
    Obeys (textDemand name) name args (textMethod s name args) := by
  unfold textMethod
  split
  case h_1 | h_2 | h_3 | h_4 | h_5 | h_6 => exact ⟨_, rfl, refuses_none _⟩
  case h_7 => exact ⟨_, rfl, refuses_oneInteger.bind _⟩
  case h_8 =>
    refine ⟨_, rfl, ?_⟩
    intro h
    split
    . exact absurd (.inl rfl) h
    . exact absurd (.inr rfl) h
    . rfl
  case h_9 | h_10 | h_11 | h_12 | h_15 | h_17 => exact ⟨_, rfl, refuses_oneText.bind _⟩
  case h_13 => exact ⟨_, rfl, refuses_one.bind _⟩
  case h_14 => exact ⟨_, rfl, refuses_twoTexts.bind _⟩
  case h_16 => exact ⟨_, rfl, refuses_two.bind _⟩
  case h_18 =>
    unfold textDemand
    split
    case h_18 => rfl
    all_goals contradiction

theorem obeys_listMethod (items : List (Value H)) (name : String) (args : List (Value H)) :
    Obeys (listDemand name) name args (listMethod items name args) := by
  unfold listMethod
  split
  case h_1 | h_2 => exact ⟨_, rfl, refuses_none _⟩
  case h_3 => exact ⟨_, rfl, refuses_oneInteger.bind _⟩
  case h_4 | h_5 => exact ⟨_, rfl, refuses_one.bind _⟩
  case h_6 =>
    unfold listDemand
    split
    case h_6 => rfl
    all_goals contradiction

theorem obeys_mapMethod (m : ValueMap H) (name : String) (args : List (Value H)) :
    Obeys (mapDemand name) name args (mapMethod m name args) := by
  unfold mapMethod
  split
  case h_1 | h_2 | h_6 | h_7 => exact ⟨_, rfl, refuses_none _⟩
  case h_3 | h_4 | h_5 => exact ⟨_, rfl, refuses_one.bind _⟩
  case h_8 =>
    unfold mapDemand
    split
    case h_8 => rfl
    all_goals contradiction

theorem obeys_commonMethod (v : Value H) (name : String) (args : List (Value H)) :
    Obeys (commonDemand name) name args (commonMethod v name args) := by
  unfold commonMethod
  split
  case h_1 | h_3 => exact ⟨_, rfl, refuses_none _⟩
  case h_2 => exact ⟨_, rfl, refuses_one.bind _⟩
  case h_4 =>
    unfold commonDemand
    split
    case h_4 => rfl
    all_goals contradiction

theorem obeys_builtinMethod (v : Value H) (name : String) (args : List (Value H))
    (hown : ∀ o, v = .object o → HostObject.call o name args = Option.none) :
    Obeys (demand v name) name args (builtinMethod v name args) := by
  -- An object of a host that has no such method leaves it to the methods that all values share.
  apply Obeys.or
  . cases v with
    | null => rfl
    | bool b => exact obeys_boolMethod b name args
    | int n => exact obeys_numberMethod (.int n) n (Decimal.ofInt n) name args
    | decimal x => exact obeys_numberMethod (.decimal x) (Decimal.toInt x) x name args
    | str s => exact obeys_textMethod s name args
    | list items => exact obeys_listMethod items name args
    | map m => exact obeys_mapMethod m name args
    | object o => exact hown o rfl
  . exact obeys_commonMethod v name args

end Members

namespace Classes

open Arguments

variable {now : Int64} {cls : StaticClass H}

theorem refuses_pick (pickInt : Int64 → Int64 → Int64) (pickDecimal : Float → Float → Float)
    (name : String) (args : List (Value H)) :
    Refuses (.exactly 2) name args (pick pickInt pickDecimal name args) :=
  refuses_two.bind _

theorem obeys_mathCall (method : String) (args : List (Value H)) :
    Obeys (mathDemand method) method args (mathCall method args) := by
  unfold mathCall
  split
  case h_1 | h_2 => exact ⟨_, rfl, refuses_pick _ _ _ _⟩
  case h_3 => exact ⟨_, rfl, refuses_one.bind _⟩
  case h_4 => exact ⟨_, rfl, refuses_twoNumbers.bind _⟩
  case h_5 | h_6 | h_7 | h_8 => exact ⟨_, rfl, refuses_oneNumber.bind _⟩
  case h_9 =>
    unfold mathDemand
    split
    case h_9 => rfl
    all_goals contradiction

theorem obeys_integerCall (method : String) (args : List (Value H)) :
    Obeys (integerDemand method) method args (integerCall method args) := by
  unfold integerCall
  split
  case h_1 => exact ⟨_, rfl, refuses_oneText.bind _⟩
  case h_2 => exact ⟨_, rfl, refuses_one.bind _⟩
  case h_3 =>
    unfold integerDemand
    split
    case h_3 => rfl
    all_goals contradiction

theorem obeys_longCall (method : String) (args : List (Value H)) :
    Obeys (longDemand method) method args (longCall method args) := by
  unfold longCall
  split
  case h_1 => exact ⟨_, rfl, refuses_oneText.bind _⟩
  case h_2 =>
    unfold longDemand
    split
    . contradiction
    . exact obeys_integerCall method args

theorem obeys_doubleCall (method : String) (args : List (Value H)) :
    Obeys (doubleDemand method) method args (doubleCall method args) := by
  unfold doubleCall
  split
  case h_1 | h_2 => exact ⟨_, rfl, refuses_one.bind _⟩
  case h_3 =>
    unfold doubleDemand
    split
    case h_3 => rfl
    all_goals contradiction

theorem obeys_stringCall (method : String) (args : List (Value H)) :
    Obeys (stringDemand method) method args (stringCall method args) := by
  unfold stringCall
  split
  case h_1 => exact ⟨_, rfl, refuses_one.bind _⟩
  case h_2 =>
    refine ⟨_, rfl, ?_⟩
    intro h
    split
    . exact absurd (Nat.le_add_left 1 _) h
    . rfl
  case h_3 =>
    unfold stringDemand
    split
    case h_3 => rfl
    all_goals contradiction

theorem obeys_booleanCall (method : String) (args : List (Value H)) :
    Obeys (booleanDemand method) method args (booleanCall method args) := by
  unfold booleanCall
  split
  case h_1 => exact ⟨_, rfl, refuses_oneText.bind _⟩
  case h_2 =>
    unfold booleanDemand
    split
    . contradiction
    . rfl

theorem obeys_objectsCall (method : String) (args : List (Value H)) :
    Obeys (objectsDemand method) method args (objectsCall method args) := by
  unfold objectsCall
  split
  case h_1 =>
    refine ⟨_, rfl, ?_⟩
    intro h
    split
    . exact absurd (.inl rfl) h
    . exact absurd (.inr rfl) h
    . exact absurd (.inr rfl) h
    . rfl
  case h_2 | h_3 => exact ⟨_, rfl, refuses_one.bind _⟩
  case h_4 | h_5 => exact ⟨_, rfl, refuses_two.bind _⟩
  case h_6 =>
    unfold objectsDemand
    split
    case h_6 => rfl
    all_goals contradiction

theorem obeys_call (hcls : cls ∈ (ClassRegistry.builtin now).classes) {method : String}
    (h : (cls.name, method) ≠ ("System", "lineSeparator")) (args : List (Value H)) :
    Obeys (demand cls.name method) method args (cls.call method args) := by
  simp only [ClassRegistry.builtin, builtin, List.mem_cons, List.not_mem_nil, or_false] at hcls
  rcases hcls with rfl | rfl | rfl | rfl | rfl | rfl | rfl | rfl
  . exact obeys_mathCall method args
  . exact obeys_integerCall method args
  . exact obeys_longCall method args
  . exact obeys_doubleCall method args
  . exact obeys_stringCall method args
  . exact obeys_booleanCall method args
  . exact obeys_objectsCall method args
  . exact obeys_systemCall now (fun hmethod => h (by rw [hmethod])) args

theorem call_lineSeparator (hcls : cls ∈ (ClassRegistry.builtin now).classes)
    (hname : cls.name = "System") (args : List (Value H)) :
    cls.call "lineSeparator" args = some (.ok (.str "\n")) := by
  simp only [ClassRegistry.builtin, builtin, List.mem_cons, List.not_mem_nil, or_false] at hcls
  rcases hcls with rfl | rfl | rfl | rfl | rfl | rfl | rfl | rfl
  case inr.inr.inr.inr.inr.inr.inr => rfl
  all_goals simp at hname

end Classes

namespace Expr

variable {env : Env H} {exprs : List (Expr H)}

/--
A method that is called with a wrong number of arguments says so, whatever its target and its
arguments are, and the demands leave out no method. Only `lineSeparator` never looks at its arguments.
-/
theorem wrong_number_refused (now : Int64) (hmembers : env.members = .builtin)
    (hargs : evalAll env exprs = .ok args) :
    (∀ v name, (∀ o, v = .object o → HostObject.call o name args = none) →
        Answered (Members.demand v name) (.unresolvedMember name v.typeName) name args
          (evalStep env v (.method name exprs)))
      ∧ (∀ cls ∈ (ClassRegistry.builtin now).classes, ∀ method,
        (cls.name, method) ≠ ("System", "lineSeparator") →
          Answered (Classes.demand cls.name method) (.unresolvedStatic cls.name method) method args
            (eval env (.staticCall cls method exprs)))
      ∧ ∀ cls ∈ (ClassRegistry.builtin now).classes, cls.name = "System" →
        eval env (.staticCall cls "lineSeparator" exprs) = .ok (.str "\n") := by
  refine ⟨?_, ?_, ?_⟩
  . intro v name hown
    rw [evalStep, hargs, hmembers]
    exact (Members.obeys_builtinMethod v name args hown).answered _
  . intro cls hcls method hmethod
    rw [eval, hargs]
    exact (Classes.obeys_call hcls hmethod args).answered _
  . intro cls hcls hname
    rw [eval, hargs, Outcome.ok_bind, Classes.call_lineSeparator hcls hname]
    rfl

theorem wrong_number_refused_three :
    let env : Env Empty := ⟨fun _ => none, .builtin⟩
    let exprs : List (Expr Empty) := [.const .null, .array [], .const (.bool true)]
    let objects : StaticClass Empty := ⟨"Objects", Classes.noField, Classes.objectsCall⟩
    evalAll env exprs = .ok [.null, .list [], .bool true]
      ∧ evalStep env (.str "añ") (.method "substring" exprs)
        = .error (.callResolution "substring" (.arity .oneOrTwo 3))
      ∧ eval env (.staticCall objects "toString" exprs)
        = .error (.callResolution "toString" (.arity .oneOrTwo 3)) := by
  intro env exprs objects
  have hargs : evalAll env exprs = .ok [.null, .list [], .bool true] := by rfl
  have hobjects : objects ∈ (ClassRegistry.builtin 0).classes := by
    simp [ClassRegistry.builtin, Classes.builtin, objects]
  have hthree : ¬ (Demand.count .oneOrTwo).Admits 3 := by simp [Demand.Admits]
  obtain ⟨hmember, hstatic, -⟩ := wrong_number_refused 0 rfl hargs
  refine ⟨hargs, ?_, ?_⟩
  . exact (hmember (.str "añ") "substring" (fun _ h => nomatch h)).1 _ rfl hthree
  . exact (hstatic objects hobjects "toString" (by decide)).1 _ rfl hthree

theorem lineSeparator_not_refused :
    let env : Env Empty := ⟨fun _ => none, .builtin⟩
    let system : StaticClass Empty := ⟨"System", Classes.noField, Classes.systemCall 0⟩
    system ∈ (ClassRegistry.builtin 0).classes
      ∧ Classes.demand system.name "lineSeparator" = some (.exactly 0)
      ∧ ¬ (Demand.exactly 0).Admits 1
      ∧ eval env (.staticCall system "lineSeparator" [.const (.int 1)]) = .ok (.str "\n") := by
  intro env system
  refine ⟨?_, rfl, ?_, rfl⟩
  . simp [ClassRegistry.builtin, Classes.builtin, system]
  . simp [Demand.Admits]

end Expr

end Stencil
