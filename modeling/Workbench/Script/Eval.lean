import Workbench.Script.Grammar
import Workbench.Script.Machine

/-!
How expressions are evaluated and statements are run. Every step counts as an operation, so that no script
runs for ever.
-/

namespace Workbench.Script

def rootModule : String := "ocide"
def settingsModule : String := "config"

def logTarget : String := s!"{rootModule}::{settingsModule}"

namespace Value

def elements? (limit : Nat) : Value → Option (List Value)
  | list vs => some vs
  | range first last inclusive =>
    let count := (if inclusive then last.toInt + 1 - first.toInt else last.toInt - first.toInt).toNat
    some ((List.range (min limit count)).map fun (i : Nat) => int (.ofInt (first.toInt + i)))
  | _ => none

def length? : Value → Option Nat
  | list vs => some vs.length
  | text s => some s.length
  | _ => none

def part? (i : Nat) : Value → Option Value
  | list vs => vs[i]?
  | text s => s.toList[i]?.map fun c => text c.toString
  | _ => none

def item (p : Position) (v : Value) : Value → Run Value
  | int i =>
    match v.length? with
    | none => Run.fail (.notIndexable v.typeName (int i).typeName p)
    | some n =>
      let index := if i < 0 then i.toInt + n else i.toInt
      match if index < 0 then none else v.part? index.toNat with
      | some part => return part
      | none => Run.fail (.outOfBounds v i.toInt p)
  | index =>
    match v.length? with
    | none => Run.fail (.notIndexable v.typeName index.typeName p)
    | some _ => Run.fail (.wrongType index.typeName (int 0).typeName p)

def truth (p : Position) : Value → Run Bool
  | bool b => return b
  | v => Run.fail (.wrongType v.typeName (bool true).typeName p)

end Value

def functionNotFound (p : Position) (name : String) (args : List Value) : Run Value :=
  Run.fail (.functionNotFound name (args.map (·.typeName)) p)

def operate (p : Position) (symbol : String) (operands : List Value) :
    Except OperatorFault Value → Run Value
  | .ok v => return v
  | .error .undefined => functionNotFound p symbol operands
  | .error (.arithmetic message) => Run.fail (.arithmetic message p)

def callBuiltin (p : Position) (name : String) (args : List Value) : Run Value :=
  match name, args with
  | "print", [] => do
    Run.report { level := .info, target := logTarget, message := "" }
    return .unit
  | "print", [v] => do
    Run.report { level := .info, target := logTarget, message := v.display }
    return .unit
  | "debug", [v] => do
    let fields := [("pos", LogValue.plain p.render)]
    Run.report { level := .debug, target := logTarget, message := v.debug, fields }
    return .unit
  | "len", [v] =>
    match v.length? with
    | some n => return .int (.ofNat n)
    | none => functionNotFound p name args
  | _, _ => functionNotFound p name args

def callIn (p : Position) (path : List (String × Position)) (name : String) (args : List Value) : Run Value :=
  let modules := path.map (·.1)
  match path.head? with
  | none => callBuiltin p name args
  | some (root, q) =>
    if root ≠ rootModule then Run.fail (.moduleNotFound (String.intercalate "::" modules) q)
    else
      let call? := if modules = [rootModule, settingsModule] then SettingsCall.ofArgs? name args else none
      match call? with
      | some c => Run.callSettings c
      | none => functionNotFound p (String.intercalate "::" (modules ++ [name])) args

mutual

def Expr.eval : Expr → Run Value
  | literal p v => do
    Run.count p
    return v
  | name p s => do
    Run.count p
    Run.lookup s p
  | list p items => do
    Run.count p
    return .list (← evalAll items)
  | unary p op operand => do
    Run.count p
    let v ← operand.eval
    operate p op.symbol [v] (op.apply v)
  | binary p op left right => do
    Run.count p
    let a ← left.eval
    match op with
    | .and =>
      if ← a.truth left.position then return .bool (← (← right.eval).truth right.position)
      else return .bool false
    | .or =>
      if ← a.truth left.position then return .bool true
      else return .bool (← (← right.eval).truth right.position)
    | op =>
      let b ← right.eval
      operate p op.symbol [a, b] (op.apply a b)
  | call p path s args => do
    Run.count p
    callIn p path s (← evalAll args)
  | method p target s args => do
    Run.count p
    let v ← target.eval
    callBuiltin p s (v :: (← evalAll args))
  | item p target index => do
    Run.count p
    let v ← target.eval
    v.item p (← index.eval)

def Expr.evalAll : List Expr → Run (List Value)
  | [] => return []
  | e :: es => do
    let v ← e.eval
    return v :: (← evalAll es)

end

def Expr.isTrue : Expr → Bool
  | literal _ (.bool true) => true
  | _ => false

def Expr.test (e : Expr) : Run Bool := do
  (← e.eval).truth e.position

def Run.update (p : Position) (op? : Option BinaryOp) (name : String) (old new : Value) : Run Unit := do
  match op? with
  | none => assign name new
  | some op => assign name (← operate p op.symbol [old, new] (op.apply old new))

mutual

def Statement.run : Statement → Run Unit
  | expr e => do
    if !e.isCall then Run.count e.position
    let _ ← e.eval
  | declare p s value => do
    Run.count p
    Run.declare s (← value.eval)
  | assign p op? target s value => do
    Run.count p
    let new ← value.eval
    Run.count target
    Run.update p op? s (← Run.lookup s target) new
  | branch p condition yes no => do
    Run.count p
    if ← condition.test then Run.inBlock (runAll yes) else Run.inBlock (runAll no)
  | repeatWhile p condition start body => do
    Run.count p
    let step : Run Bool := do
      if condition.isTrue then
        -- Without this an empty body would never use up the operations.
        if body.isEmpty then Run.count start
        Run.turn (Run.inBlock (runAll body))
      else if ← condition.test then Run.turn (Run.inBlock (runAll body))
      else return false
    Run.repeatWhile step maxOperations.succ
  | repeatFor p s range start body => do
    Run.count p
    match (← range.eval).elements? maxOperations.succ with
    | none => Run.fail (.notIterable range.position)
    | some vs => Run.forEach (fun v => Run.inBlock do
        Run.declare s v
        Run.count start
        Run.turn (Run.inBlock (runAll body))) vs
  | block p body => do
    Run.count p
    Run.inBlock (runAll body)
  | raise p value => do
    Run.count p
    Run.fail (.raised (← value.eval) p)
  | finish p value => do
    Run.count p
    let _ ← value.eval
    throw .finish
  | leaveLoop p value => do
    Run.count p
    let _ ← value.eval
    throw .leaveLoop
  | nextTurn p => do
    Run.count p
    throw .nextTurn

def Statement.runAll : List Statement → Run Unit
  | [] => return
  | s :: ss => do
    s.run
    runAll ss

end

def Program.effects (program : Program) : Effects (Except Fault Unit) := do
  let (result, _) ← (Statement.runAll program).run {}
  match result with
  | .error (.fault f) => return .error f
  | _ => return .ok ()

/--
An engine for a part of the language: literals, variables, operators, lists, conditions, loops, `throw`, and calls
of what the program offers. A text with anything else, such as a function of its own, is no program for it.
-/
def interpreter : Engine where
  effects? script := (Program.parse? script).map fun program => do
    return (← program.effects).mapError Fault.message

end Workbench.Script
