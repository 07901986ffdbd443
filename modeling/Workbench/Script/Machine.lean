import Workbench.Script.Engine
import Workbench.Script.Fault

/-!
The machine that scripts run on.
-/

namespace Workbench.Script

def maxOperations : Nat := 100000

structure Machine where
  operations : Nat := 0
  bindings : List (String × Value) := []
deriving Repr

def setNewest (name : String) (v : Value) : List (String × Value) → List (String × Value)
  | [] => []
  | w :: ws => if w.1 = name then (name, v) :: ws else w :: setNewest name v ws

inductive Halt where
  | fault (f : Fault)
  | leaveLoop
  | nextTurn
  | finish
deriving Repr

abbrev Run := ExceptT Halt (StateT Machine Effects)

namespace Run

def fail {α : Type} (f : Fault) : Run α :=
  throw (.fault f)

def count (p : Position) : Run Unit := do
  modify fun m => { m with operations := m.operations + 1 }
  if maxOperations < (← get).operations then fail (.tooManyOperations p)

def report (e : LogEvent) : Run Unit :=
  liftM (Effects.report e (.done ()))

def lookup (name : String) (p : Position) : Run Value := do
  match (← get).bindings.find? (·.1 = name) with
  | some v => return v.2
  | none => fail (.variableNotFound name p)

def declare (name : String) (v : Value) : Run Unit :=
  modify fun m => { m with bindings := (name, v) :: m.bindings }

def assign (name : String) (v : Value) : Run Unit :=
  modify fun m => { m with bindings := setNewest name v m.bindings }

def callSettings (c : SettingsCall) : Run Value := do
  match ← (Effects.call c .done : Effects (Except SettingsError Value)) with
  | .ok v => return v
  | .error e => fail (.refused e)

def inBlock {α : Type} (r : Run α) : Run α := do
  let n := (← get).bindings.length
  let close : Run Unit := modify fun m => { m with bindings := m.bindings.drop (m.bindings.length - n) }
  tryCatch (do let a ← r; close; return a) fun h => do close; throw h

def turn (body : Run Unit) : Run Bool :=
  tryCatch (do body; return true) fun
    | .leaveLoop => return false
    | .nextTurn => return true
    | h => throw h

def repeatWhile (step : Run Bool) : Nat → Run Unit
  | 0 => return
  | n + 1 => do if ← step then repeatWhile step n

def forEach (step : Value → Run Bool) : List Value → Run Unit
  | [] => return
  | v :: vs => do if ← step v then forEach step vs

end Run

end Workbench.Script
