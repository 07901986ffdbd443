import Mathlib.Logic.ExistsUnique
import Workbench.Proofs.Screen.Overlays

/-!
The parts of a screen. Each cell belongs to one of them: to the sidebar, to the line right of it, to the pane of
the document, to the output panel or to the status row. No rectangle reaches past the edges of the screen, and no
number on the way to the layout leaves its word.
-/

namespace Workbench

inductive ScreenPart where
  | sidebar
  | separator
  | editor
  | output
  | status
deriving DecidableEq, Repr

theorem Rect.covers_iff {r : Rect} {x y : Nat} (hright : r.x + r.width ≤ maxCoordinate)
    (hbottom : r.y + r.height ≤ maxCoordinate)
    : r.Covers x y ↔ r.x ≤ x ∧ x < r.x + r.width ∧ r.y ≤ y ∧ y < r.y + r.height := by
  unfold Covers right bottom addCoordinates
  rw [Nat.min_eq_left hright, Nat.min_eq_left hbottom]

namespace ScreenLayout

variable {l : ScreenLayout} {width height x y : Nat} {sidebar : Bool} {part : ScreenPart}

def rects (l : ScreenLayout) : List Rect :=
  l.sidebar?.toList ++ [l.editor, l.output]

def Occupies (l : ScreenLayout) : ScreenPart → Nat → Nat → Prop
  | .sidebar, x, y => ∃ rect, l.sidebar? = some rect ∧ rect.Covers x y
  | .separator, x, y => ∃ rect, l.sidebar? = some rect ∧ x = rect.right ∧ y < l.statusRow
  | .editor, x, y => l.editor.Covers x y
  | .output, x, y => l.output.Covers x y
  | .status, _, y => y = l.statusRow

def partAt (l : ScreenLayout) (x y : Nat) : ScreenPart :=
  if y = l.statusRow then .status
  else if x + 1 < l.editor.x then .sidebar
  else if x < l.editor.x then .separator
  else if y < l.output.y then .editor
  else .output

/-- The cell lies between the lines that bound the part: two columns and the first rows of two panels. -/
def Bounds (l : ScreenLayout) : ScreenPart → Nat → Nat → Prop
  | .sidebar, x, y => x + 1 < l.editor.x ∧ y < l.statusRow
  | .separator, x, y => x + 1 = l.editor.x ∧ y < l.statusRow
  | .editor, x, y => l.editor.x ≤ x ∧ y < l.output.y
  | .output, x, y => l.editor.x ≤ x ∧ l.output.y ≤ y ∧ y < l.statusRow
  | .status, _, y => y = l.statusRow

theorem Joined.mem_rects {r : Rect} (h : l.Joined width height) (hr : r ∈ l.rects)
    : r.x + r.width ≤ width ∧ r.y + r.height ≤ l.statusRow := by
  obtain ⟨hstatus, htop, hright, hbelow, hbottom, hx, hwidth, -, hsidebar⟩ := h
  unfold rects at hr
  rw [hsidebar] at hr
  rcases List.mem_append.1 hr with hr | hr
  · split at hr
    next hshown =>
      rw [List.mem_singleton.1 hr]
      dsimp only
      omega
    next => cases hr
  · simp only [List.mem_cons, List.not_mem_nil, or_false] at hr
    rcases hr with rfl | rfl
    · omega
    · omega

theorem Joined.occupies_iff (h : l.Joined width height) (hwidth : width ≤ maxCoordinate)
    (hheight : height ≤ maxCoordinate) (hx : x < width) (part : ScreenPart)
    : l.Occupies part x y ↔ l.Bounds part x y := by
  have hsidebar {P : Rect → Prop} := h.exists_sidebar (P := P)
  have hedge := h.right_sidebar
  obtain ⟨hstatus, htop, hright, hbelow, hbottom, hleft, hsame, -, -⟩ := h
  cases part with
  | sidebar =>
    change (∃ rect, l.sidebar? = some rect ∧ rect.Covers x y) ↔ x + 1 < l.editor.x ∧ y < l.statusRow
    rw [hsidebar, Rect.covers_iff (by dsimp only; omega) (by dsimp only; omega)]
    dsimp only
    omega
  | separator =>
    change (∃ rect, l.sidebar? = some rect ∧ x = rect.right ∧ y < l.statusRow)
      ↔ x + 1 = l.editor.x ∧ y < l.statusRow
    rw [hsidebar, hedge]
    omega
  | editor =>
    change l.editor.Covers x y ↔ l.editor.x ≤ x ∧ y < l.output.y
    rw [Rect.covers_iff (by omega) (by omega)]
    omega
  | output =>
    change l.output.Covers x y ↔ l.editor.x ≤ x ∧ l.output.y ≤ y ∧ y < l.statusRow
    rw [Rect.covers_iff (by omega) (by omega)]
    omega
  | status => exact Iff.rfl

theorem bounds_iff (houtput : l.output.y ≤ l.statusRow) (hy : y ≤ l.statusRow)
    : l.Bounds part x y ↔ l.partAt x y = part := by
  unfold partAt
  cases part with
  | sidebar => unfold Bounds; grind
  | separator => unfold Bounds; grind
  | editor => unfold Bounds; grind
  | output => unfold Bounds; grind
  | status => unfold Bounds; grind

def computeIn? (width height : Nat) (sidebar : Bool) : Option ScreenLayout := do
  let body := height - 1
  let least ← coordinate? (sidebarWidth * 2)
  let sidebar? := if sidebar && least < width then some ⟨0, 0, sidebarWidth, body⟩ else none
  let x ← match sidebar? with
    | some rect => sum? (maxCoordinate + 1) (Rect.right rect) 1
    | none => some 0
  let mainWidth ← difference? width x
  let output := min outputHeight (body / 2)
  let rows ← difference? body output
  return ⟨sidebar?, ⟨x, 0, mainWidth, rows⟩, ⟨x, rows, mainWidth, output⟩, body⟩

theorem computeIn?_eq (width height : Nat) (sidebar : Bool)
    : computeIn? width height sidebar = some (compute width height sidebar) := by
  have hleast : coordinate? (sidebarWidth * 2) = some (sidebarWidth * 2) := rfl
  have hright : sum? (maxCoordinate + 1) (Rect.right ⟨0, 0, sidebarWidth, height - 1⟩) 1 = some (sidebarWidth + 1) := rfl
  have hrows : difference? (height - 1) (min outputHeight ((height - 1) / 2))
      = some (height - 1 - min outputHeight ((height - 1) / 2)) := difference?_eq (by omega)
  unfold computeIn? compute
  dsimp only
  rw [hleast]
  simp only [Option.bind_eq_bind, Option.bind_some]
  by_cases hshown : (sidebar && decide (sidebarWidth * 2 < width)) = true
  · have hroom : sidebarWidth + 1 ≤ width := by
      rw [Bool.and_eq_true, decide_eq_true_iff] at hshown
      unfold sidebarWidth at *
      omega
    simp only [if_pos hshown]
    rw [hright, Option.bind_some, difference?_eq hroom, Option.bind_some, hrows]
    rfl
  · simp only [if_neg hshown]
    rw [difference?_eq (Nat.zero_le _), Option.bind_some, hrows]
    rfl

structure Tiles (l : ScreenLayout) (width height : Nat) : Prop where
  part : ∀ x < width, ∀ y < height, ∃! part, l.Occupies part x y
  rects : ∀ r ∈ l.rects, r.x + r.width ≤ width ∧ r.y + r.height ≤ height
  sides : ∀ r ∈ l.rects, r.right = r.x + r.width ∧ r.bottom = r.y + r.height
    ∧ ∀ row < r.height, sum? (maxCoordinate + 1) r.y row = some (r.y + row)
  separator : ∀ r, l.sidebar? = some r → r.right < width ∧ r.height = l.statusRow
  status : 0 < height → l.statusRow + 1 = height

theorem Joined.tiles (h : l.Joined width height) (hwidth : width ≤ maxCoordinate) (hheight : height ≤ maxCoordinate)
    : l.Tiles width height where
  part x hx y hy := by
    have houtput := h.bottom
    have hstatus := h.status
    have hiff (part : ScreenPart) : l.Occupies part x y ↔ l.partAt x y = part := by
      rw [h.occupies_iff hwidth hheight hx, bounds_iff (by omega) (by omega)]
    exact ⟨l.partAt x y, (hiff _).2 rfl, fun part hpart => ((hiff part).1 hpart).symm⟩
  rects r hr := by
    have hstatus := h.status
    have hmem := h.mem_rects hr
    omega
  sides r hr := by
    have hstatus := h.status
    obtain ⟨hright, hbottom⟩ := h.mem_rects hr
    refine ⟨Nat.min_eq_left (by omega), Nat.min_eq_left (by omega), ?_⟩
    intro row hrow
    exact sum?_eq (by omega)
  separator r hr := by
    have hright := h.right
    rw [h.sidebar] at hr
    split at hr
    next hshown =>
      cases hr
      rw [h.right_sidebar]
      exact ⟨by omega, rfl⟩
    next => cases hr
  status hpos := by
    have hstatus := h.status
    omega

theorem tiles_compute (width height : Nat) (sidebar : Bool) (hwidth : width ≤ maxCoordinate)
    (hheight : height ≤ maxCoordinate)
    : (compute width height sidebar).Tiles width height
      ∧ computeIn? width height sidebar = some (compute width height sidebar) :=
  ⟨(joined_compute width height sidebar).tiles hwidth hheight, computeIn?_eq width height sidebar⟩

theorem tiles_compute_narrow
    : compute 49 3 true = ⟨some ⟨0, 0, 24, 2⟩, ⟨25, 0, 24, 1⟩, ⟨25, 1, 24, 1⟩, 2⟩
      ∧ (∃! part, (compute 49 3 true).Occupies part 24 1) ∧ (compute 65535 65535 true).Tiles 65535 65535 := by
  have hnarrow := tiles_compute 49 3 true (by decide) (by decide)
  have hlargest := tiles_compute 65535 65535 true (by decide) (by decide)
  exact ⟨by decide, hnarrow.1.part 24 (by decide) 1 (by decide), hlargest.1⟩

end ScreenLayout

end Workbench
