import Workbench.Editor.Caret
import Workbench.Editor.Document
import Workbench.Editor.Popup

/-!
The editor: a document, a caret in it, a mode, and what pops up. An operation answers `none` when the
caret does not stand in the document.
-/

namespace Workbench

open Text (Position)

inductive Mode where
  | normal
  | insert
  | command
  | functions
deriving DecidableEq, Repr, Inhabited

def Mode.display : Mode → String
  | normal => "NORMAL"
  | insert => "INSERT"
  | command => "COMMAND"
  | functions => "FUNCTIONS"

structure Editor where
  document : Document := {}
  caret : Position := {}
  mode : Mode := .normal
  commandLine : List Char := []
  scroll : Nat := 0
  completion? : Option CompletionPopup := none
  hover? : Option HoverPopup := none
  language? : Option String := none
deriving DecidableEq

namespace Editor

def text (e : Editor) : List Char :=
  e.document.text

def path? (e : Editor) : Option Path :=
  e.document.path?

def closePopups (e : Editor) : Editor :=
  { e with completion? := none, hover? := none }

def closeHover (e : Editor) : Editor :=
  { e with hover? := none }

def setDocument (e : Editor) (text : List Char) (path? : Option Path) (language? : Option String) :
    Editor :=
  closePopups
    { e with
      document := { text, path? }
      caret := {}
      scroll := 0
      language? }

def markSaved (e : Editor) (path : Path) (language? : Option String) : Editor :=
  { e with
    document := { e.document with path? := some path, dirty := false }
    language? := language?.or e.language? }

def caretStatus (e : Editor) : String :=
  s!"Ln {e.caret.line + 1}, Col {e.caret.column + 1}"

def adjustScroll (e : Editor) (height : Nat) : Editor :=
  let top := min e.scroll e.caret.line
  { e with scroll := if 0 < height ∧ top + height ≤ e.caret.line then e.caret.line - height + 1 else top }

def caretLineLength? (e : Editor) : Option Nat :=
  e.document.lineLength? e.caret.line

def clampColumn? (e : Editor) : Option Editor :=
  e.caretLineLength?.map fun n => { e with caret := e.caret.clamp n }

def moveLeft (e : Editor) : Editor :=
  closeHover { e with caret := e.caret.left }

def moveRight? (e : Editor) : Option Editor :=
  e.caretLineLength?.map fun n => closeHover { e with caret := e.caret.right n }

def moveUp? (e : Editor) : Option Editor :=
  ({ e with caret := e.caret.up }.clampColumn?).map closeHover

def moveDown? (e : Editor) : Option Editor :=
  ({ e with caret := e.caret.down e.document.lineCount }.clampColumn?).map closeHover

def moveToLineStart (e : Editor) : Editor :=
  { e with caret := { e.caret with column := 0 } }

def moveToLineEnd? (e : Editor) : Option Editor :=
  e.caretLineLength?.map fun n => { e with caret := { e.caret with column := n } }

def moveToFirstLine? (e : Editor) : Option Editor :=
  { e with caret := { e.caret with line := 0 } }.clampColumn?

def moveToLastLine? (e : Editor) : Option Editor :=
  { e with caret := { e.caret with line := e.document.lastLine } }.clampColumn?

def enterInsertMode (e : Editor) : Editor :=
  closeHover { e with mode := .insert }

def insertChar? (e : Editor) (c : Char) : Option Editor :=
  (e.document.insert? e.caret.line e.caret.column [c]).map fun d =>
    { e with document := d, caret := { e.caret with column := e.caret.column + 1 } }

def insertNewline? (e : Editor) : Option Editor :=
  (e.document.insert? e.caret.line e.caret.column ['\n']).map fun d =>
    { e with document := d, caret := ⟨e.caret.line + 1, 0⟩ }

def deleteBackward? (e : Editor) : Option Editor :=
  if 0 < e.caret.column then
    (e.document.deleteBefore? e.caret.line e.caret.column).map fun d =>
      { e with document := d, caret := e.caret.left }
  else if 0 < e.caret.line then
    (e.document.lineLength? (e.caret.line - 1)).bind fun n =>
      (e.document.deleteBefore? e.caret.line 0).map fun d =>
        { e with document := d, caret := ⟨e.caret.line - 1, n⟩ }
  else some e

def appendAtLineEnd? (e : Editor) : Option Editor :=
  e.moveToLineEnd?.map enterInsertMode

def openLineBelow? (e : Editor) : Option Editor :=
  (e.moveToLineEnd?.bind insertNewline?).map enterInsertMode

def enterNormalMode? (e : Editor) : Option Editor :=
  ({ e with mode := .normal, commandLine := [] }.clampColumn?).map closePopups

def enterCommandMode (e : Editor) : Editor :=
  closePopups { e with mode := .command, commandLine := [] }

def appendText (e : Editor) (cs : List Char) : Editor :=
  let d := e.document.append cs
  closePopups { e with document := d, caret := ⟨d.lastLine, d.lastLength⟩ }

def triggerCompletion (e : Editor) (r : Registry) : Editor :=
  { e with
    hover? := none
    completion? := e.language?.bind fun language =>
      CompletionPopup.filtered? (r.completions language e.document.model e.caret)
        (e.document.model.wordUntil? e.caret) e.caret }

def acceptCompletion? (e : Editor) : Option Editor :=
  match e.completion? with
  | none => some e
  | some popup =>
    let e := { e with completion? := none }
    match popup.current? with
    | none => some e
    | some item =>
      let insert (d : Document) (start : Nat) : Option Editor :=
        (d.insert? e.caret.line start item.insertText.toList).map fun d =>
          { e with document := d, caret := { e.caret with column := start + item.insertText.length } }
      match popup.typed? with
      | none => insert e.document e.caret.column
      | some w => (e.document.deleteRange? e.caret.line w.start w.stop).bind (insert · w.start)

def showHover (e : Editor) (r : Registry) : Editor :=
  { e with
    completion? := none
    hover? := (e.language?.bind fun language => r.hover? language e.document.model e.caret).map
      (HoverPopup.of · e.caret.line) }

end Editor

end Workbench
