import Workbench.Files.Path
import Workbench.Language.Builtin

/-!
The groups of files that a picker offers.
-/

namespace Workbench

/-- A named group of extensions; an asterisk stands for every file. -/
structure FileFilter where
  name : String
  extensions : List String
deriving DecidableEq, Repr

namespace FileFilter

def matches? (f : FileFilter) (p : Path) : Bool :=
  f.extensions.contains "*" ||
    p.extension?.any fun ext => f.extensions.any (Unicode.lowerAscii · == Unicode.lowerAscii ext)

def label (f : FileFilter) : String :=
  f.name ++ " (" ++ String.intercalate ", " f.extensions ++ ")"

def everything : FileFilter := ⟨"All Files", ["*"]⟩

def forOpen : List FileFilter := [⟨"OpenCode Files", Language.Builtin.extensions⟩, everything]

def forSave : List FileFilter :=
  [⟨"OpenCode Files", [Language.Builtin.defaultExtension]⟩, everything]

end FileFilter

inductive DialogError where
  | unavailable (reason : String)
  | failed (reason : String)
deriving DecidableEq, Repr

def DialogError.message : DialogError → String
  | unavailable reason => reason
  | failed reason => s!"file picker failed: {reason}"

abbrev PickResult := Except DialogError (Option Path)

end Workbench
