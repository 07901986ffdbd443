import Workbench.Screen.View

/-!
How the panels lie on a screen: side by side and one above the other. What later proofs need of a layout follows
from this.
-/

namespace Workbench

namespace ScreenLayout

variable {l : ScreenLayout} {width height : Nat}

structure Joined (l : ScreenLayout) (width height : Nat) : Prop where
  status : l.statusRow = height - 1
  top : l.editor.y = 0
  right : l.editor.x + l.editor.width = width
  below : l.output.y = l.editor.height
  bottom : l.output.y + l.output.height = l.statusRow
  output_x : l.output.x = l.editor.x
  output_width : l.output.width = l.editor.width
  margin : l.editor.x ≤ maxCoordinate
  sidebar : l.sidebar? = if 0 < l.editor.x then some ⟨0, 0, l.editor.x - 1, l.statusRow⟩ else none

theorem joined_compute (width height : Nat) (sidebar : Bool) : (compute width height sidebar).Joined width height := by
  unfold compute
  dsimp only
  by_cases hshown : (sidebar && decide (sidebarWidth * 2 < width)) = true
  · have hmargin : sidebarWidth + 1 ≤ maxCoordinate := by decide
    have hroom := hshown
    rw [Bool.and_eq_true, decide_eq_true_iff] at hroom
    unfold sidebarWidth at *
    simp only [if_pos hshown]
    exact ⟨rfl, rfl, by dsimp only; omega, rfl, by dsimp only; omega, rfl, rfl, hmargin, rfl⟩
  · simp only [if_neg hshown]
    exact ⟨rfl, rfl, by dsimp only; omega, rfl, by dsimp only; omega, rfl, rfl, Nat.zero_le _, rfl⟩

theorem Joined.exists_sidebar {P : Rect → Prop} (h : l.Joined width height)
    : (∃ rect, l.sidebar? = some rect ∧ P rect) ↔ 0 < l.editor.x ∧ P ⟨0, 0, l.editor.x - 1, l.statusRow⟩ := by
  rw [h.sidebar]
  split
  next hshown => simp [hshown]
  next hhidden => simp [hhidden]

theorem Joined.right_sidebar (h : l.Joined width height)
    : (Rect.mk 0 0 (l.editor.x - 1) l.statusRow).right = l.editor.x - 1 := by
  have hmargin := h.margin
  unfold Rect.right addCoordinates
  dsimp only
  omega

end ScreenLayout

namespace View

theorem joined_layout (v : View) : v.layout.Joined v.width v.height :=
  ScreenLayout.joined_compute _ _ _

structure InRange (v : View) : Prop where
  width : v.width ≤ maxCoordinate
  height : v.height ≤ maxCoordinate

variable {v : View}

theorem right_pane (hv : v.InRange) : v.layout.editor.right = v.width := by
  unfold Rect.right addCoordinates
  rw [v.joined_layout.right]
  exact Nat.min_eq_left hv.width

theorem x_pane_le (v : View) : v.layout.editor.x ≤ v.width := by
  have hright := v.joined_layout.right
  omega

theorem pane_lt_right (hv : v.InRange) (hwidth : 0 < v.layout.editor.width)
    : v.layout.editor.x < v.layout.editor.right := by
  have hright := v.joined_layout.right
  rw [right_pane hv]
  omega

theorem y_pane (v : View) : v.layout.editor.y = 0 :=
  v.joined_layout.top

theorem height_pane_le (v : View) : v.layout.editor.height ≤ v.height - 1 := by
  have hbelow := v.joined_layout.below
  have hbottom := v.joined_layout.bottom
  have hstatus := v.joined_layout.status
  omega

theorem height_pane_le_max (hv : v.InRange) : v.layout.editor.height ≤ maxCoordinate :=
  Nat.le_trans v.height_pane_le (Nat.le_trans (Nat.sub_le _ _) hv.height)

theorem bottom_pane (hv : v.InRange) : v.layout.editor.bottom = v.layout.editor.height := by
  have hheight := height_pane_le_max hv
  unfold Rect.bottom addCoordinates
  rw [y_pane]
  omega

end View

end Workbench
