import Workbench.Text.Quoted

/-!
The values of configuration scripts and the operators on them. Integers have sixty four bits, and an
operation that would leave them is an error.
-/

namespace Workbench.Script

inductive Value where
  | unit
  | bool (b : Bool)
  | int (n : Int64)
  /-- Floating point numbers are only passed around. -/
  | float (text : String)
  | text (s : String)
  | list (items : List Value)
  | range (first last : Int64) (inclusive : Bool)
deriving Repr, BEq, Inhabited

namespace Value

def fits (n : Int) : Bool :=
  -0x8000000000000000 ≤ n && n < 0x8000000000000000

def typeName : Value → String
  | unit => "()"
  | bool _ => "bool"
  | int _ => "i64"
  | float _ => "f64"
  | text _ => "&str | ImmutableString | String"
  | list _ => "array"
  | range _ _ false => "range"
  | range _ _ true => "range="

mutual

def debug : Value → String
  | unit => "()"
  | bool b => toString b
  | int n => toString n
  | float t => t
  | text s => Text.quote s
  | list items => "[" ++ String.intercalate ", " (debugAll items) ++ "]"
  | range first last inclusive => toString first ++ (if inclusive then "..=" else "..") ++ toString last

def debugAll : List Value → List String
  | [] => []
  | v :: vs => v.debug :: debugAll vs

end

def display : Value → String
  | unit => ""
  | text s => s
  | v => v.debug

end Value

inductive OperatorFault where
  | undefined
  | arithmetic (message : String)
deriving DecidableEq, Repr

inductive BinaryOp where
  | or
  | and
  | eq
  | ne
  | lt
  | le
  | gt
  | ge
  | range
  | rangeInclusive
  | add
  | sub
  | mul
  | div
  | rem
deriving DecidableEq, Repr

namespace BinaryOp

def table : List (String × BinaryOp × Nat) := [
  ("||", or, 30), ("&&", and, 60), ("==", eq, 90), ("!=", ne, 90), ("<", lt, 130), ("<=", le, 130),
  (">", gt, 130), (">=", ge, 130), ("..", range, 140), ("..=", rangeInclusive, 140),
  ("+", add, 150), ("-", sub, 150), ("*", mul, 180), ("/", div, 180), ("%", rem, 180)]

def symbol (op : BinaryOp) : String :=
  ((table.find? (·.2.1 = op)).map (·.1)).getD ""

def checked (op : BinaryOp) (name : String) (a b : Int64) (r : Int) : Except OperatorFault Value :=
  if Value.fits r then .ok (.int (.ofInt r))
  else .error (.arithmetic s!"{name} overflow: {a} {op.symbol} {b}")

def applyInts (op : BinaryOp) (a b : Int64) : Except OperatorFault Value :=
  match op with
  | eq => .ok (.bool (a = b))
  | ne => .ok (.bool (a ≠ b))
  | lt => .ok (.bool (a < b))
  | le => .ok (.bool (a ≤ b))
  | gt => .ok (.bool (b < a))
  | ge => .ok (.bool (b ≤ a))
  | range => .ok (.range a b false)
  | rangeInclusive => .ok (.range a b true)
  | add => op.checked "Addition" a b (a.toInt + b.toInt)
  | sub => op.checked "Subtraction" a b (a.toInt - b.toInt)
  | mul => op.checked "Multiplication" a b (a.toInt * b.toInt)
  | div =>
    if b = 0 then .error (.arithmetic s!"Division by zero: {a} / {b}")
    else op.checked "Division" a b (a.toInt.tdiv b.toInt)
  | rem =>
    if b = 0 then .error (.arithmetic s!"Modulo division by zero or overflow: {a} % {b}")
    else op.checked "Modulo division by zero or" a b (a.toInt.tmod b.toInt)
  | _ => .error .undefined

def applyTexts (op : BinaryOp) (a b : String) : Except OperatorFault Value :=
  match op with
  | eq => .ok (.bool (a = b))
  | ne => .ok (.bool (a ≠ b))
  | lt => .ok (.bool (a < b))
  | le => .ok (.bool (a ≤ b))
  | gt => .ok (.bool (b < a))
  | ge => .ok (.bool (b ≤ a))
  | add => .ok (.text (a ++ b))
  | _ => .error .undefined

/--
The result of an operator. A text can be joined with anything. Values of different types are different, and
neither is less than the other.
-/
def apply (op : BinaryOp) (a b : Value) : Except OperatorFault Value :=
  match a, b with
  | .int a, .int b => op.applyInts a b
  | .text a, .text b => op.applyTexts a b
  | a, b =>
    match op with
    | eq => .ok (.bool (a == b))
    | ne => .ok (.bool (a != b))
    | lt | le | gt | ge => if a.typeName = b.typeName then .error .undefined else .ok (.bool false)
    | add =>
      match a, b with
      | .text a, b => .ok (.text (a ++ b.display))
      | a, .text b => .ok (.text (a.display ++ b))
      | .list a, .list b => .ok (.list (a ++ b))
      | _, _ => .error .undefined
    | _ => .error .undefined

end BinaryOp

end Workbench.Script
