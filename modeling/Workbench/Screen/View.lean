import Workbench.Editor.Editor
import Workbench.Screen.Geometry
import Workbench.Text.Cells

/-!
How a screen shows the editor: its size, what is shown at its sides, and where the caret lands on it.
-/

namespace Workbench

structure ViewOptions where
  showLineNumbers : Bool := true
  showFunctions : Bool := true
  tabWidth : Nat := 4
deriving DecidableEq, Repr

structure View where
  width : Nat
  height : Nat
  options : ViewOptions := {}
deriving DecidableEq, Repr

namespace View

def numbersWidth : Nat := 5

def layout (v : View) : ScreenLayout :=
  .compute v.width v.height v.options.showFunctions

def gutterWidth (v : View) : Nat :=
  if v.options.showLineNumbers then numbersWidth else 0

def editorHeight (v : View) : Nat :=
  v.layout.editor.height

/--
The cell of the caret, if its line is visible; a column past the pane counts as its last one. The answer
is `none` if the document has no such line.
-/
def caretCell? (v : View) (e : Editor) (r : Rect) : Option (Option (Nat × Nat)) :=
  if e.caret.line < e.scroll ∨ r.height ≤ e.caret.line - e.scroll then some none
  else (e.document.line? e.caret.line).map fun line =>
    let x := r.x + v.gutterWidth + Text.displayCol line e.caret.column v.options.tabWidth
    some (min x (r.right - 1), r.y + (e.caret.line - e.scroll))

end View

end Workbench
