/-!
The panels beside the editor.
-/

namespace Workbench

inductive OutputPanel where
  | empty
  | notice (message : String)
  | running
  | program (output : String)
  | error (message : String)
deriving DecidableEq, Repr, Inhabited

namespace OutputPanel

def text : OutputPanel → String
  | empty => ""
  | notice message => message
  | running => "Running..."
  | program output => if output.isEmpty then "[No output]" else output
  | error message => "[Error] " ++ message

def isError : OutputPanel → Bool
  | error _ => true
  | _ => false

end OutputPanel

inductive FunctionPanel where
  | loading
  | loaded (names : List String) (selected : Nat)
  | failed
deriving DecidableEq, Repr, Inhabited

namespace FunctionPanel

def failureNotice : String := "Failed to load functions."

def ofNames (names : List String) : FunctionPanel :=
  loaded names 0

def names : FunctionPanel → List String
  | loaded names _ => names
  | _ => []

def selected? : FunctionPanel → Option Nat
  | loaded (_ :: _) selected => some selected
  | _ => none

def selectedName? (p : FunctionPanel) : Option String :=
  p.selected?.bind (p.names[·]?)

def selectNext : FunctionPanel → FunctionPanel
  | loaded names selected => loaded names (if selected + 1 < names.length then selected + 1 else selected)
  | p => p

def selectPrevious : FunctionPanel → FunctionPanel
  | loaded names selected => loaded names (selected - 1)
  | p => p

end FunctionPanel

end Workbench
