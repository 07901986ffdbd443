/-!
Where the panels go on a screen. Screens have at most 65535 rows and columns, and sums of coordinates
stop there.
-/

namespace Workbench

def maxCoordinate : Nat := 65535

/-- A sum that stops at the greatest coordinate. -/
def addCoordinates (a b : Nat) : Nat :=
  min (a + b) maxCoordinate

structure Rect where
  x : Nat := 0
  y : Nat := 0
  width : Nat := 0
  height : Nat := 0
deriving DecidableEq, Repr, Inhabited

namespace Rect

def right (r : Rect) : Nat :=
  addCoordinates r.x r.width

def bottom (r : Rect) : Nat :=
  addCoordinates r.y r.height

end Rect

structure ScreenLayout where
  sidebar? : Option Rect
  editor : Rect
  output : Rect
  statusRow : Nat
deriving DecidableEq, Repr

namespace ScreenLayout

def sidebarWidth : Nat := 24

def outputHeight : Nat := 7

/--
The layout of a screen. The last row is for the status. The sidebar and a separator are at the left if
there is room for them twice, and the output panel takes at most half of the rows.
-/
def compute (width height : Nat) (sidebar : Bool) : ScreenLayout :=
  let body := height - 1
  let showSidebar := sidebar && sidebarWidth * 2 < width
  let x := if showSidebar then sidebarWidth + 1 else 0
  let output := min outputHeight (body / 2)
  { sidebar? := if showSidebar then some ⟨0, 0, sidebarWidth, body⟩ else none
    editor := ⟨x, 0, width - x, body - output⟩
    output := ⟨x, body - output, width - x, output⟩
    statusRow := body }

end ScreenLayout

end Workbench
