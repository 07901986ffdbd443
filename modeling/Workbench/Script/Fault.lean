import Workbench.Config.Call
import Workbench.Script.Token

/-!
What stops a script.
-/

namespace Workbench.Script

inductive Fault where
  | raised (v : Value) (p : Position)
  | refused (e : SettingsError)
  | functionNotFound (name : String) (types : List String) (p : Position)
  | variableNotFound (name : String) (p : Position)
  | moduleNotFound (name : String) (p : Position)
  | tooManyOperations (p : Position)
  | wrongType (found expected : String) (p : Position)
  | notIterable (p : Position)
  | notIndexable (target index : String) (p : Position)
  | outOfBounds (v : Value) (index : Int) (p : Position)
  | arithmetic (message : String) (p : Position)
deriving Repr

namespace Fault

def extent : Value → String
  | .list [] => "array is empty"
  | .list [_] => "only 1 element in array"
  | .list vs => s!"only {vs.length} elements in array"
  | .text s =>
    match s.length with
    | 0 => "string is empty"
    | 1 => "only 1 character in string"
    | n => s!"only {n} characters in string"
  | _ => ""

def description : Fault → String
  | raised v _ => if v.display.isEmpty then "Runtime error" else s!"Runtime error: {v.display}"
  | refused e => s!"Runtime error: {e.message}"
  | functionNotFound name types _ =>
    let types := String.intercalate ", " types
    s!"Function not found: {name} ({types})"
  | variableNotFound name _ => s!"Variable not found: {name}"
  | moduleNotFound name _ => s!"Module not found: {name}"
  | tooManyOperations _ => "Too many operations"
  | wrongType found expected _ => s!"Data type incorrect: {found} (expecting {expected})"
  | notIterable _ => "For loop expects an iterable type"
  | notIndexable target index _ => s!"Indexer unavailable: {target} [{index}]"
  | outOfBounds v index _ =>
    let kind := match v with
      | .text _ => "String"
      | _ => "Array"
    s!"{kind} index {index} out of bounds: {extent v}"
  | arithmetic message _ => message

def position? : Fault → Option Position
  | refused _ => none
  | raised _ p | functionNotFound _ _ p | variableNotFound _ p | moduleNotFound _ p | tooManyOperations p
  | wrongType _ _ p | notIterable p | notIndexable _ _ p | outOfBounds _ _ p | arithmetic _ p => some p

def message (f : Fault) : String :=
  f.description ++ f.position?.elim "" fun p => s!" ({p.render})"

end Fault

end Workbench.Script
