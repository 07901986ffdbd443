import Workbench.Screen.Overlay
import Workbench.Shell.Shell

/-!
A whole frame: the sidebar, the pane of the document, the output, the status line, what lies over them,
and the cursor.
-/

namespace Workbench.View

def drawSidebar (theme : Theme) (panel : FunctionPanel) (focused : Bool) (rect : Rect) :
    List TerminalCommand :=
  let row (n : Nat) : List TerminalCommand :=
    let (extra, text) : List TerminalCommand × String := match panel with
      | .loading => ([], if n = 0 then " Loading..." else "")
      | .failed =>
        if n = 0 then ([.foreground theme.error], " " ++ FunctionPanel.failureNotice) else ([], "")
      | .loaded names selected =>
        match names[n]? with
        | some name =>
          (if focused ∧ n = selected then [.background theme.sidebarSelected] else [], "  " ++ name)
        | none => ([], "")
    [.moveTo rect.x (rect.y + (n + 1)), .background theme.sidebarBackground,
      .foreground theme.sidebarForeground] ++ extra
      ++ [.print (Text.fit text.toList rect.width)]
  [.background theme.sidebarBackground, .moveTo rect.x rect.y,
      .foreground theme.sidebarForeground, .bold,
      .print (Text.fit " Functions".toList rect.width), .resetStyle]
    ++ (List.range (rect.height - 1)).flatMap row
    ++ [.background theme.background]

def drawSeparator (theme : Theme) (x height : Nat) : List TerminalCommand :=
  [.foreground theme.border, .background theme.background]
    ++ (List.range height).flatMap fun y => [.moveTo x y, .print ['│']]

def drawOutput (theme : Theme) (panel : OutputPanel) (rect : Rect) : List TerminalCommand :=
  if rect.height = 0 then []
  else
    let title := "─ Output ".toList ++ List.replicate rect.width '─'
    let rows := Text.rows panel.text.toList
    let row (n : Nat) : List TerminalCommand :=
      let text := (rows[n]?.getD []).map fun c => if c = '\t' then ' ' else c
      [.moveTo rect.x (rect.y + (n + 1)), .print (Text.fit (' ' :: text) rect.width)]
    [.moveTo rect.x rect.y, .background theme.outputBackground, .foreground theme.border,
        .print (Text.fit title rect.width),
        .foreground (if panel.isError then theme.error else theme.outputForeground)]
      ++ (List.range (rect.height - 1)).flatMap row
      ++ [.background theme.background]

def drawStatus (v : View) (theme : Theme) (s : Shell) (row : Nat) : List TerminalCommand :=
  .moveTo 0 row ::
    if s.editor.mode = .command then
      [.background theme.background, .foreground theme.foreground, .clearLine,
        .print (':' :: s.editor.commandLine)]
    else
      let mark := if s.editor.document.dirty then " [+]" else ""
      let left := s!" {s.editor.mode.display} | {s.documentName}{mark} ".toList
      let right := s!" {s.editor.caretStatus} | {s.theme} ".toList
      let line := left ++ blanks (v.width - (left.length + right.length)) ++ right
      [.background theme.statusBackground, .foreground theme.statusForeground,
        .print (Text.fit line v.width), .background theme.background]

def drawCursor? (v : View) (e : Editor) (layout : ScreenLayout) : Option (List TerminalCommand) :=
  match e.mode with
  | .command =>
    some [.moveTo ((1 + e.commandLine.length) % (maxCoordinate + 1)) layout.statusRow,
      .cursorShape .blinkingBar, .showCursor]
  | .functions => some [.hideCursor]
  | mode => (v.caretCell? e layout.editor).map fun
    | none => []
    | some (x, y) =>
      [.moveTo x y, .cursorShape (if mode = .insert then .blinkingBar else .steadyBlock),
        .showCursor]

def theme (s : Shell) : Theme :=
  (Theme.find? s.theme).getD .dark

def render? (v : View) (s : Shell) : Option (List TerminalCommand) := do
  let theme := theme s
  let layout := v.layout
  let sidebar := match layout.sidebar? with
    | none => []
    | some rect =>
      drawSidebar theme s.functions (s.editor.mode = .functions) rect
        ++ drawSeparator theme rect.right rect.height
  let completion ← v.drawCompletion? theme s.editor layout.editor
  let hover ← v.drawHover? theme s.editor layout.editor
  let cursor ← v.drawCursor? s.editor layout
  return [.hideCursor, .background theme.background] ++ sidebar
    ++ v.drawEditor theme s.editor s.registry layout.editor
    ++ drawOutput theme s.output layout.output
    ++ v.drawStatus theme s layout.statusRow
    ++ completion ++ hover ++ cursor

end Workbench.View
