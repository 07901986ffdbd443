import Workbench.Text.Word

/-!
Moving a position by one place. The moves know only the length of the line or the number of lines.
-/

namespace Workbench.Text.Position

def left (p : Position) : Position :=
  { p with column := p.column - 1 }

def right (p : Position) (lineLength : Nat) : Position :=
  { p with column := min (p.column + 1) lineLength }

def up (p : Position) : Position :=
  { p with line := p.line - 1 }

def down (p : Position) (lineCount : Nat) : Position :=
  { p with line := min (p.line + 1) (lineCount - 1) }

def clamp (p : Position) (lineLength : Nat) : Position :=
  { p with column := min p.column lineLength }

end Workbench.Text.Position
