import Workbench.Picker.Listing
import Workbench.Text.Trim

/-!
What the output of a picker says. A picker that lets the user type a name prints the name first; after that
comes the highlighted entry, if there is one. The typed name is the choice, and the highlighted entry counts
only where no name was typed.
-/

namespace Workbench

inductive PickPurpose where
  | openFile
  | saveFile (defaultName : String)
deriving DecidableEq, Repr

def PickPurpose.takesName : PickPurpose → Bool
  | .openFile => false
  | .saveFile _ => true

structure PickedRows where
  query? : Option (List Char)
  selection? : Option (List Char)
deriving DecidableEq, Repr

namespace PickedRows

def ofOutput (takesName : Bool) (output : List Char) : PickedRows :=
  let rows := (Text.rows output).map Text.trim
  if takesName then ⟨rows.head?, rows.tail.head?.filter (! ·.isEmpty)⟩
  else ⟨none, rows.head?.filter (! ·.isEmpty)⟩

def choice? (p : PickedRows) : Option (List Char) :=
  (p.query?.filter (! ·.isEmpty)).or p.selection?

end PickedRows

/-- The path that was chosen in a directory. Every exit code but zero and one means that the user went
away. -/
def PickPurpose.chosen? (purpose : PickPurpose) (root : Path) (o : ProgramOutcome) : Option Path :=
  if o.exitCode? = some 0 ∨ o.exitCode? = some 1 then
    let output := Text.Utf8.decodeLossy o.output
    ((PickedRows.ofOutput purpose.takesName output).choice?).map fun name =>
      Path.join root (String.ofList name)
  else none

end Workbench
