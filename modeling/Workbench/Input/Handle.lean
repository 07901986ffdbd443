import Workbench.Input.Event
import Workbench.Shell.Shell

/-!
What keys do in each mode. Edits happen at once; a command of the shell is left to the caller. The answer
is `none` if the caret does not stand in the document.
-/

namespace Workbench

def ShellAction.parse (command : String) : Except String (Option ShellAction) :=
  match command with
  | "" => .ok none
  | "q" | "quit" => .ok (some .quit)
  | "w" | "write" => .ok (some .save)
  | "saveas" | "sav" => .ok (some .saveAs)
  | "e" | "edit" | "open" => .ok (some .openFile)
  | "new" | "enew" => .ok (some .newFile)
  | "run" | "r" => .ok (some .run)
  | "theme" => .ok (some .toggleTheme)
  | other => .error other

namespace Key

def globalAction? (key : Key) : Option ShellAction :=
  if key.control then
    match key.code with
    | .char 'r' => some .run
    | .char 'n' => some .newFile
    | .char 'o' => some .openFile
    | .char 's' => some .save
    | .char 't' => some .toggleTheme
    | .char 'c' | .char 'q' => some .quit
    | _ => none
  else none

end Key

namespace Editor

def normalKey? (e : Editor) (r : Registry) (key : Key) : Option Editor :=
  match key.code with
  | .esc => some e.closePopups
  | .char 'h' | .left => some e.moveLeft
  | .char 'j' | .down => e.moveDown?
  | .char 'k' | .up => e.moveUp?
  | .char 'l' | .right => e.moveRight?
  | .char '0' | .home => some e.moveToLineStart
  | .char '$' | .endKey => e.moveToLineEnd?
  | .char 'g' => e.moveToFirstLine?
  | .char 'G' => e.moveToLastLine?
  | .char 'i' => some e.enterInsertMode
  | .char 'A' => e.appendAtLineEnd?
  | .char 'o' => e.openLineBelow?
  | .char 'K' => some (e.showHover r)
  | .char ':' => some e.enterCommandMode
  | _ => some e

def refreshCompletion (e : Editor) (r : Registry) : Editor :=
  if e.completion?.isSome then e.triggerCompletion r else e

def typingKey? (e : Editor) (r : Registry) (key : Key) : Option Editor :=
  match key.code with
  | .esc => e.enterNormalMode?
  | .tab => some (e.triggerCompletion r)
  | .char c =>
    if c = ' ' ∧ key.control then some (e.triggerCompletion r)
    else (e.insertChar? c).map (·.refreshCompletion r)
  | .backspace => e.deleteBackward?.map (·.refreshCompletion r)
  | .enter => e.insertNewline?
  | .left => some e.moveLeft
  | .right => e.moveRight?
  | .up => e.moveUp?
  | .down => e.moveDown?
  | _ => some e

def insertKey? (e : Editor) (r : Registry) (key : Key) : Option Editor :=
  match e.completion?, key.code with
  | some popup, .up => some { e with completion? := some popup.selectPrevious }
  | some popup, .down => some { e with completion? := some popup.selectNext }
  | some _, .enter | some _, .tab => e.acceptCompletion?
  | some _, .esc => some { e with completion? := none }
  | _, _ => e.typingKey? r key

end Editor

namespace Shell

def withEditor (s : Shell) (e : Editor) : Shell × Option ShellAction :=
  ({ s with editor := e }, none)

def commandKey? (s : Shell) (key : Key) : Option (Shell × Option ShellAction) :=
  let e := s.editor
  match key.code with
  | .esc => e.enterNormalMode?.map s.withEditor
  | .enter =>
    e.enterNormalMode?.map fun editor =>
      match ShellAction.parse (String.ofList (Text.trim e.commandLine)) with
      | .ok action => ({ s with editor }, action)
      | .error unknown => ({ s with editor }.notice s!"Unknown command: {unknown}", none)
  | .backspace =>
    let e := { e with commandLine := e.commandLine.dropLast }
    (if e.commandLine.isEmpty then e.enterNormalMode? else some e).map s.withEditor
  | .char c => some (s.withEditor { e with commandLine := e.commandLine ++ [c] })
  | _ => some (s, none)

def functionsKey (s : Shell) (key : Key) : Shell × Option ShellAction :=
  match key.code with
  | .esc => s.withEditor { s.editor with mode := .normal }
  | .char 'j' | .down => ({ s with functions := s.functions.selectNext }, none)
  | .char 'k' | .up => ({ s with functions := s.functions.selectPrevious }, none)
  | .enter => ({ s with editor := { s.editor with mode := .insert } }, some .insertFunction)
  | _ => (s, none)

def toggleFocus (s : Shell) : Shell :=
  { s with
    editor :=
      if s.editor.mode = .functions then { s.editor with mode := .normal }
      else { s.editor.closePopups with mode := .functions } }

def handleKey? (s : Shell) (key : Key) : Option (Shell × Option ShellAction) :=
  match key.globalAction? with
  | some action => some (s, some action)
  | none =>
    if key.control ∧ key.code = .char 'g' then some (s.toggleFocus, none)
    else match s.editor.mode with
      | .normal => (s.editor.normalKey? s.registry key).map s.withEditor
      | .insert => (s.editor.insertKey? s.registry key).map s.withEditor
      | .command => s.commandKey? key
      | .functions => some (s.functionsKey key)

/-- An event of the terminal. Only keys matter here, and their release does not. -/
def handleTerminal? (s : Shell) : TerminalEvent → Option (Shell × Option ShellAction)
  | .key key phase => if phase = .release then some (s, none) else s.handleKey? key
  | _ => some (s, none)

end Shell

end Workbench
