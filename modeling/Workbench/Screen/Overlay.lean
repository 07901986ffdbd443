import Workbench.Screen.EditorPane
import Workbench.Text.Lines

/-!
What is drawn over the pane of the document: the list of completions and the hover card.
-/

namespace Workbench.View

def overlayWidth : Nat := 60

def overlayRows : Nat := 8

def boxWidth (rows : List (List Char)) (area : Rect) : Nat :=
  min (min ((rows.map List.length).foldl max 0) overlayWidth) (area.right - area.x)

def drawBox (theme : Theme) (rows : List (List Char)) (selected : Option Nat) (x y : Nat)
    (area : Rect) : List TerminalCommand :=
  let width := boxWidth rows area
  if width = 0 then []
  else
    let visible := ((rows.take overlayRows).zipIdx.takeWhile fun row =>
      addCoordinates y row.2 < area.bottom)
    .foreground theme.popupForeground ::
      visible.flatMap (fun row =>
        [.moveTo (min x (area.right - width)) (addCoordinates y row.2),
          .background (if selected = some row.2 then theme.popupSelected else theme.popupBackground),
          .print (Text.fit row.1 width)])
      ++ [.background theme.background]

def completionRow (item : CompletionItem) : List Char :=
  let label := item.label.toList
  ' ' :: label ++ blanks (10 - label.length) ++ ' ' :: item.documentation.toList ++ [' ']

def drawCompletion? (v : View) (theme : Theme) (e : Editor) (rect : Rect) :
    Option (List TerminalCommand) :=
  match e.completion? with
  | none => some []
  | some popup => (v.caretCell? e rect).map fun
    | none => []
    | some (x, y) =>
      let first := popup.selected - (overlayRows - 1)
      drawBox theme ((popup.items.drop first).map completionRow) (some (popup.selected - first))
        x (addCoordinates y 1) rect

/--
The first cell of a hover card for a word that begins at a column, with the caret on a row of the screen.
The card is above the word if there is room for it there, else below.
-/
def hoverOrigin (rect : Rect) (gutter column caretRow rows : Nat) : Nat × Nat :=
  let x := addCoordinates (addCoordinates rect.x gutter) (min column maxCoordinate)
  let height := min rows maxCoordinate
  (min x (rect.right - 1),
    if addCoordinates rect.y height ≤ caretRow then caretRow - height else addCoordinates caretRow 1)

def hoverRows (hover : HoverPopup) : List (List Char) :=
  (Text.rows (Text.plainMarkdown hover.markdown.toList)).map fun row => ' ' :: row ++ [' ']

def drawHover? (v : View) (theme : Theme) (e : Editor) (rect : Rect) :
    Option (List TerminalCommand) :=
  match e.hover? with
  | none => some []
  | some hover => (v.caretCell? e rect).map fun
    | none => []
    | some (_, y) =>
      let rows := hoverRows hover
      let origin := hoverOrigin rect v.gutterWidth hover.anchor.column y rows.length
      drawBox theme rows none origin.1 origin.2 rect

end Workbench.View
