import Workbench.Proofs.Screen.Visible

/-!
The cell of the caret. A caret of the document has a cell exactly if its line is in view; the cell lies in the pane,
and in the row of the caret's line. So every caret has its cell once the pane has been scrolled to it.
-/

namespace Workbench

namespace View

variable {v : View} {e : Editor}

theorem exists_caretCell?_iff (v : View) (rect : Rect) (hcaret : e.document.Holds e.caret)
    : (∃ cell, v.caretCell? e rect = some (some cell)) ↔ e.InView rect.height := by
  constructor
  · rintro ⟨cell, hcell⟩
    unfold caretCell? at hcell
    split at hcell
    next => cases hcell
    next hvisible =>
      unfold Editor.InView
      omega
  · rintro ⟨habove, hbelow⟩
    have hrow : caretRow e < rect.height := by
      unfold caretRow
      omega
    obtain ⟨x, hcell⟩ := caretCell?_of_visible v rect hcaret habove hrow
    exact ⟨_, hcell⟩

theorem covers_of_caretCell? (hv : v.InRange) (hwidth : 0 < v.layout.editor.width) {x y : Nat}
    (h : v.caretCell? e v.layout.editor = some (some (x, y)))
    : v.layout.editor.Covers x y ∧ y - v.layout.editor.y + e.scroll = e.caret.line := by
  have hroom := pane_lt_right hv hwidth
  have hbottom := bottom_pane hv
  have htop := v.y_pane
  unfold caretCell? at h
  split at h
  next => cases h
  next hvisible =>
    obtain ⟨line, -, hplace⟩ := Option.map_eq_some_iff.1 h
    cases hplace
    refine ⟨⟨by omega, by omega, by omega, by omega⟩, by omega⟩

structure CaretFollowed (v : View) (e : Editor) : Prop where
  cell : ∃ x y, v.caretCell? (e.adjustScroll v.editorHeight) v.layout.editor = some (some (x, y))
    ∧ v.layout.editor.Covers x y
    ∧ y - v.layout.editor.y + (e.adjustScroll v.editorHeight).scroll = e.caret.line
  view : (∃ cell, v.caretCell? e v.layout.editor = some (some cell)) ↔ e.InView v.editorHeight
  scrolled : ∀ height, ∃ top, e.adjustScroll height = e.scrolledTo top
  settled : ∀ height, (e.adjustScroll height).adjustScroll height = e.adjustScroll height
  kept : ∀ height, e.InView height → e.adjustScroll height = e
  inView : ∀ height, 0 < height → (e.adjustScroll height).InView height
  least : ∀ height top, (e.scrolledTo top).InView height → top ≠ (e.adjustScroll height).scroll →
    Nat.dist e.scroll (e.adjustScroll height).scroll < Nat.dist e.scroll top

theorem caretFollowed (v : View) (e : Editor) (hv : v.InRange) (hcaret : e.document.Holds e.caret)
    (hwidth : 0 < v.layout.editor.width) (hheight : 0 < v.layout.editor.height)
    : v.CaretFollowed e where
  cell := by
    have hplace : (e.adjustScroll v.editorHeight).document.Holds (e.adjustScroll v.editorHeight).caret := hcaret
    have hview := e.inView_adjustScroll hheight
    obtain ⟨⟨x, y⟩, hcell⟩ := (exists_caretCell?_iff v v.layout.editor hplace).2 hview
    exact ⟨x, y, hcell, covers_of_caretCell? hv hwidth hcell⟩
  view := exists_caretCell?_iff v v.layout.editor hcaret
  scrolled height := ⟨_, rfl⟩
  settled := e.adjustScroll_adjustScroll
  kept height := Editor.adjustScroll_of_inView
  inView height := e.inView_adjustScroll
  least height top := Editor.dist_adjustScroll_lt

theorem caretFollowed_stale
    : ∃ (v : View) (e : Editor) (x : Nat),
        v.layout.editor = ⟨25, 0, 55, 16⟩ ∧ e.document.text = "a\nb".toList ∧ e.caret = ⟨1, 1⟩ ∧ e.scroll = 9
        ∧ (e.adjustScroll v.editorHeight).scroll = 1
        ∧ v.caretCell? (e.adjustScroll v.editorHeight) v.layout.editor = some (some (x, 0))
        ∧ v.layout.editor.Covers x 0 := by
  let v : View := ⟨80, 24, {}⟩
  let e : Editor := { document := { text := "a\nb".toList }, caret := ⟨1, 1⟩, scroll := 9 }
  have hfollowed := caretFollowed v e ⟨by decide, by decide⟩ ⟨1, by decide, by decide⟩ (by decide) (by decide)
  have hscroll : (e.adjustScroll v.editorHeight).scroll = 1 := by decide
  obtain ⟨x, y, hcell, hcovers, hrow⟩ := hfollowed.cell
  have hfirst : y = 0 := by
    rw [hscroll, v.y_pane] at hrow
    exact Nat.succ.inj hrow
  rw [hfirst] at hcell hcovers
  exact ⟨v, e, x, by decide, rfl, rfl, rfl, hscroll, hcell, hcovers⟩

end View

end Workbench
