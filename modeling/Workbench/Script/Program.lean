import Workbench.Script.Token

/-!
Programs. An operation on literals is carried out when it is written down, and statements that cannot have
an effect are left out of a program.
-/

namespace Workbench.Script

inductive UnaryOp where
  | plus
  | minus
  | not
deriving DecidableEq, Repr

namespace UnaryOp

def symbol : UnaryOp → String
  | plus => "+"
  | minus => "-"
  | not => "!"

def apply : UnaryOp → Value → Except OperatorFault Value
  | plus, .int n => .ok (.int n)
  | minus, .int n =>
    if Value.fits (-n.toInt) then .ok (.int (.ofInt (-n.toInt))) else .error (.arithmetic s!"Negation overflow: -{n}")
  | not, .bool b => .ok (.bool !b)
  | _, _ => .error .undefined

end UnaryOp

/-- An expression. Its place is that of its operator or its name, or else the place where it starts. -/
inductive Expr where
  | literal (p : Position) (v : Value)
  | name (p : Position) (name : String)
  | list (p : Position) (items : List Expr)
  | unary (p : Position) (op : UnaryOp) (operand : Expr)
  | binary (p : Position) (op : BinaryOp) (left right : Expr)
  | call (p : Position) (path : List (String × Position)) (name : String) (args : List Expr)
  | method (p : Position) (target : Expr) (name : String) (args : List Expr)
  | item (p : Position) (target index : Expr)
deriving Repr, Inhabited

namespace Expr

def position : Expr → Position
  | literal p _ | name p _ | list p _ | unary p _ _ | binary p _ _ _ | call p _ _ _ | method p _ _ _
  | item p _ _ => p

def combine (p : Position) (op : BinaryOp) (left right : Expr) : Expr :=
  match left, right with
  | literal _ a, literal _ b =>
    match op.apply a b with
    | .ok v => literal p v
    | .error _ => binary p op left right
  | _, _ => binary p op left right

def sign (p : Position) (op : UnaryOp) (operand : Expr) : Expr :=
  match operand with
  | literal q a =>
    match op.apply a with
    | .ok v => literal q v
    | .error _ => unary p op operand
  | _ => unary p op operand

mutual

/-- Nothing is lost if the expression is not evaluated and its value is not needed. A variable counts as
known here. -/
def isPure : Expr → Bool
  | literal _ _ | name _ _ => true
  | list _ items => arePure items
  | binary _ .and left right | binary _ .or left right => isPure left && isPure right
  | _ => false

def arePure : List Expr → Bool
  | [] => true
  | e :: es => isPure e && arePure es

end

def isCall : Expr → Bool
  | unary _ _ _ | call _ _ _ _ => true
  | binary _ op _ _ => op ≠ .and && op ≠ .or
  | _ => false

end Expr

/-- A statement. Its place is that of its first word, and of an assignment that of its symbol. -/
inductive Statement where
  | expr (e : Expr)
  | declare (p : Position) (name : String) (value : Expr)
  | assign (p : Position) (op? : Option BinaryOp) (target : Position) (name : String) (value : Expr)
  | branch (p : Position) (condition : Expr) (yes no : List Statement)
  | repeatWhile (p : Position) (condition : Expr) (start : Position) (body : List Statement)
  | repeatFor (p : Position) (name : String) (range : Expr) (start : Position) (body : List Statement)
  | block (p : Position) (body : List Statement)
  | raise (p : Position) (value : Expr)
  | finish (p : Position) (value : Expr)
  | leaveLoop (p : Position) (value : Expr)
  | nextTurn (p : Position)
deriving Repr, Inhabited

namespace Statement

def position : Statement → Position
  | expr e => e.position
  | declare p _ _ | assign p _ _ _ _ | branch p _ _ _ | repeatWhile p _ _ _ | repeatFor p _ _ _ _
  | block p _ | raise p _ | finish p _ | leaveLoop p _ | nextTurn p => p

def endsItself : Statement → Bool
  | branch _ _ _ _ | repeatWhile _ _ _ _ | repeatFor _ _ _ _ _ | block _ _ => true
  | _ => false

mutual

def isPure : Statement → Bool
  | expr e => e.isPure
  | branch _ condition yes no => condition.isPure && arePure yes && arePure no
  | repeatWhile _ (.literal _ (.bool false)) _ _ => true
  | repeatFor _ _ range _ body => range.isPure && arePure body
  | block _ body => arePure body
  | _ => false

def arePure : List Statement → Bool
  | [] => true
  | s :: ss => isPure s && arePure ss

end

mutual

def trim : Statement → Statement
  | branch p condition yes no => branch p condition (trimBlock true yes) (trimBlock true no)
  | repeatWhile p condition start body => repeatWhile p condition start (trimBlock false body)
  | repeatFor p name range start body => repeatFor p name range start (trimBlock false body)
  | block p body => block p (trimBlock true body)
  | s => s

/-- Leaves out the pure statements of a block, but not the last one if the block has a result. -/
def trimBlock (hasResult : Bool) : List Statement → List Statement
  | [] => []
  | s :: ss =>
    if isPure s && !(hasResult && ss.isEmpty) then trimBlock hasResult ss
    else trim s :: trimBlock hasResult ss

end

end Statement

abbrev Program := List Statement

end Workbench.Script
