import Workbench.Screen.Command
import Workbench.Screen.View

/-!
The pane of the document: line numbers and the text in the colours of its tokens.
-/

namespace Workbench

def blanks (n : Nat) : List Char :=
  List.replicate n ' '

def padLeft (cs : List Char) (width : Nat) : List Char :=
  blanks (width - cs.length) ++ cs

namespace Style

def commands (s : Style) (ground : Color) : List TerminalCommand :=
  [.resetStyle, .background ground, .foreground s.foreground]
    ++ (if s.bold then [.bold] else [])
    ++ (if s.italic then [.italic] else [])
    ++ (if s.underline then [.underlined] else [])

end Style

namespace View

def styleAt (theme : Theme) (classes : HighlightedLine) (byte : Nat) : Style :=
  ((classes.classAt? byte).map theme.styleFor).getD theme.plain

/--
The characters of a line from the cell `x` on, as many as fit, and the cell after them. The style is set
where it differs from the one before.
-/
def drawChars (v : View) (theme : Theme) (classes : HighlightedLine) (width : Nat) :
    (byte x : Nat) → (current : Option Style) → List Char → List TerminalCommand × Nat
  | _, x, _, [] => ([], x)
  | byte, x, current, c :: cs =>
    if width ≤ x then ([], x)
    else
      let style := styleAt theme classes byte
      let next := if c = '\t' then min (Text.nextCell v.options.tabWidth x c) width else x + 1
      let rest := v.drawChars theme classes width (byte + c.utf8Size) next (some style) cs
      ((if current = some style then [] else style.commands theme.background)
        ++ .print (if c = '\t' then blanks (next - x) else [c]) :: rest.1, rest.2)

def drawLine (v : View) (theme : Theme) (classes : HighlightedLine) (width : Nat)
    (line : List Char) : List TerminalCommand :=
  let drawn := v.drawChars theme classes width 0 0 none line
  drawn.1 ++ [.resetStyle, .background theme.background]
    ++ (if drawn.2 < width then [.print (blanks (width - drawn.2))] else [])

def highlight (language? : Option String) (r : Registry) (line : List Char) : HighlightedLine :=
  ((language?.bind (r.tokenize? · line)).map HighlightedLine.ofTokens).getD {}

def drawRow (v : View) (theme : Theme) (e : Editor) (r : Registry) (rect : Rect)
    (lines : List (List Char)) (row : Nat) : List TerminalCommand :=
  let textWidth := rect.width - v.gutterWidth
  .moveTo rect.x (rect.y + row) ::
    match lines[row + e.scroll]? with
    -- The document has ended above this row.
    | none =>
      .foreground theme.lineNumber ::
        (if 0 < v.gutterWidth then [.print (Text.fit "   ~".toList v.gutterWidth)] else [])
        ++ [.print (blanks textWidth)]
    | some line =>
      (if 0 < v.gutterWidth then
        [.foreground (if row + e.scroll = e.caret.line then theme.lineNumberActive else theme.lineNumber),
          .print (padLeft (Nat.toDigits 10 (row + e.scroll + 1)) 4 ++ [' '])]
      else [])
      ++ v.drawLine theme (highlight e.language? r (Text.content line)) textWidth (Text.content line)

def drawEditor (v : View) (theme : Theme) (e : Editor) (r : Registry) (rect : Rect) :
    List TerminalCommand :=
  let lines := e.document.lines
  .background theme.background ::
    (List.range rect.height).flatMap (v.drawRow theme e r rect lines)

end View

end Workbench
