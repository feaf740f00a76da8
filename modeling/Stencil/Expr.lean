import Stencil.Operator

/-!
This module contains the expression trees, what makes one constant, the constructors that fold
constant operands, and evaluation. Evaluation goes from left to right and stops at the first
error; it reads nothing but the variables and the members of its environment.
-/

namespace Stencil

/--
A class with static members; a member that is `none` does not exist.
-/
structure StaticClass (H : Type) where
  name : String
  field : String → Option (Value H)
  call : String → List (Value H) → Option (Eval (Value H))

instance {H : Type} : Inhabited (StaticClass H) where
  default := ⟨"", fun _ => none, fun _ _ => none⟩

mutual
inductive Expr (H : Type) where
  | const (v : Value H)
  | var (name : String)
  | unary (op : UnaryOp) (operand : Expr H)
  | binary (op : BinaryOp) (left right : Expr H)
  | ternary (cond yes no : Expr H)
  | array (items : List (Expr H))
  | map (entries : List (Expr H × Expr H))
  | group (inner : Expr H)
  | classRef (cls : StaticClass H)
  | staticField (cls : StaticClass H) (name : String)
  | staticCall (cls : StaticClass H) (method : String) (args : List (Expr H))
  | chain (base : Expr H) (steps : List (Step H))

inductive Step (H : Type) where
  | property (name : String)
  | method (name : String) (args : List (Expr H))
  | index (key : Expr H)
end

instance {H : Type} : Inhabited (Expr H) where
  default := .const .null

instance {H : Type} : Inhabited (Step H) where
  default := .property ""

structure Members (H : Type) where
  property : Value H → String → Option (Eval (Value H))
  method : Value H → String → List (Value H) → Option (Eval (Value H))

structure Env (H : Type) where
  lookup : String → Option (Value H)
  members : Members H

namespace Expr

variable {H : Type}

def isConst : Expr H → Bool
  | const _ => true
  | group inner => inner.isConst
  | unary _ operand => operand.isConst
  | binary _ left right => left.isConst && right.isConst
  | ternary cond yes no => cond.isConst && yes.isConst && no.isConst
  | _ => false

/--
The expression stands for a value, as a bare class reference does not.
-/
def isValuer : Expr H → Bool
  | classRef _ => false
  | group inner => inner.isValuer
  | _ => true

def constValue? : Expr H → Option (Value H)
  | const v => some v
  | group inner => inner.constValue?
  | _ => none

def foldGroup : Expr H → Expr H
  | const v => const v
  | inner => group inner

variable [HostObject H]

def foldUnary (op : UnaryOp) (operand : Expr H) : Eval (Expr H) :=
  match operand.constValue? with
  | some v => (Value.applyUnary op v).map const
  | none => .ok (unary op operand)

/--
A logical operator. A constant left operand that decides the result makes the right one irrelevant.
-/
def foldLogical (op : BinaryOp) (left right : Expr H) : Eval (Expr H) :=
  match left.constValue? with
  | none => .ok (binary op left right)
  | some l => do
    let a ← l.truth op.symbol
    if a == op.deciding then return const (.bool a)
    match right.constValue? with
    | none => return binary op left right
    | some r => return const (.bool (← r.truth op.symbol))

def foldBinary (op : BinaryOp) (left right : Expr H) : Eval (Expr H) :=
  if op.isLogical then foldLogical op left right
  else
    match left.constValue?, right.constValue? with
    | some l, some r => (Value.applyBinary op l r).map const
    | _, _ => .ok (binary op left right)

def foldTernary (cond yes no : Expr H) : Eval (Expr H) :=
  match cond.constValue?, yes.constValue?, no.constValue? with
  | some c, some _, some _ => (c.truth "?:").map fun b => if b then yes else no
  | _, _, _ => .ok (ternary cond yes no)

def orMissing (missing : EvalError) : Option (Eval (Value H)) → Eval (Value H)
  | some r => r
  | none => .error missing

mutual
def eval (env : Env H) : Expr H → Eval (Value H)
  | const v => .ok v
  | var name =>
    match env.lookup name with
    | some v => .ok v
    | none => .error (.unresolvedVariable name)
  | unary op operand => do
    Value.applyUnary op (← eval env operand)
  | binary op left right => do
    let l ← eval env left
    if op.isLogical then
      let a ← l.truth op.symbol
      if a == op.deciding then return .bool a
      return .bool (← (← eval env right).truth op.symbol)
    else
      Value.applyBinary op l (← eval env right)
  | ternary cond yes no => do
    if ← (← eval env cond).truth "?:" then eval env yes else eval env no
  | array items => do
    return .list (← evalAll env items)
  | map entries => do
    return .map (← evalEntries env [] entries)
  | group inner => eval env inner
  | classRef cls => .error (.callResolution cls.name .notAValue)
  | staticField cls name =>
    match cls.field name with
    | some v => .ok v
    | none => .error (.unresolvedStatic cls.name name)
  | staticCall cls method args => do
    let values ← evalAll env args
    orMissing (.unresolvedStatic cls.name method) (cls.call method values)
  | chain base steps => do
    evalSteps env (← eval env base) steps

def evalAll (env : Env H) : List (Expr H) → Eval (List (Value H))
  | [] => .ok []
  | e :: rest => do
    let v ← eval env e
    return v :: (← evalAll env rest)

def evalEntries (env : Env H) (m : ValueMap H) :
    List (Expr H × Expr H) → Eval (ValueMap H)
  | [] => .ok m
  | (k, e) :: rest => do
    let key ← eval env k
    let value ← eval env e
    evalEntries env (m.insert key value) rest

def evalSteps (env : Env H) (target : Value H) : List (Step H) → Eval (Value H)
  | [] => .ok target
  | step :: rest => do
    evalSteps env (← evalStep env target step) rest

def evalStep (env : Env H) (target : Value H) : Step H → Eval (Value H)
  | .property name =>
    orMissing (.unresolvedMember name target.typeName) (env.members.property target name)
  | .method name args => do
    let values ← evalAll env args
    orMissing (.unresolvedMember name target.typeName) (env.members.method target name values)
  | .index key => do
    target.index (← eval env key)
end

end Expr

end Stencil
