import Workbench.Picker.Filter
import Workbench.Text.Lines
import Workbench.Text.Utf8

/-!
The files that a picker offers. They are listed by another program, one to a row, and those of the first
filter come first.
-/

namespace Workbench

structure ProgramOutcome where
  output : List UInt8
  exitCode? : Option Nat
deriving DecidableEq, Repr

def ProgramOutcome.succeeded (o : ProgramOutcome) : Bool :=
  o.exitCode? == some 0

namespace Listing

/-- The rows of bytes, up to the first one that is not text. -/
def readableRows (bytes : List UInt8) : List (List Char) :=
  ((Text.rowsBy 0x0a 0x0d bytes).map Text.Utf8.decode?).takeWhile Option.isSome |>.reduceOption

def dropHere : List Char → List Char
  | '.' :: '/' :: cs => dropHere cs
  | cs => cs

structure Lister where
  program : String
  args : List String
  entry : List Char → List Char

def preferred : Lister where
  program := "fd"
  args := ["--type", "f", "--hidden", "--exclude", ".git"]
  entry := id

def fallback : Lister where
  program := "find"
  args := [".", "-type", "f", "-not", "-path", "*/.git/*"]
  entry := dropHere

def Lister.files? (l : Lister) (outcome? : Option ProgramOutcome) : Option (List Path) :=
  (outcome?.filter (·.succeeded)).map fun o =>
    (readableRows o.output).map fun row => String.ofList (l.entry row)

def inOrder (filters : List FileFilter) (files : List Path) : List Path :=
  match filters with
  | [] => files
  | primary :: _ => files.filter primary.matches? ++ files.filter (! primary.matches? ·)

end Listing

end Workbench
