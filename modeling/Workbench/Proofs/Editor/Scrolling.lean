import Mathlib.Data.Nat.Dist
import Workbench.Editor.Editor

/-!
Scrolling to the caret. Whatever line was the first one on the screen, the line of the caret is in view afterwards, and
no other line that could be the first one is as near to the one before.
-/

namespace Workbench

namespace Editor

variable {e : Editor} {height top : Nat}

def scrolledTo (e : Editor) (top : Nat) : Editor :=
  { e with scroll := top }

def InView (e : Editor) (height : Nat) : Prop :=
  e.scroll ≤ e.caret.line ∧ e.caret.line < e.scroll + height

theorem adjustScroll_of_inView (h : e.InView height) : e.adjustScroll height = e := by
  obtain ⟨habove, hbelow⟩ := h
  unfold adjustScroll
  dsimp only
  rw [Nat.min_eq_left habove, if_neg (by omega)]

theorem adjustScroll_of_lt (h : e.caret.line < e.scroll) : e.adjustScroll height = e.scrolledTo e.caret.line := by
  unfold adjustScroll
  dsimp only
  rw [Nat.min_eq_right (Nat.le_of_lt h), if_neg (by omega)]
  rfl

theorem adjustScroll_of_le (hheight : 0 < height) (h : e.scroll + height ≤ e.caret.line)
    : e.adjustScroll height = e.scrolledTo (e.caret.line - height + 1) := by
  unfold adjustScroll
  dsimp only
  rw [Nat.min_eq_left (by omega), if_pos ⟨hheight, h⟩]
  rfl

theorem adjustScroll_zero (e : Editor) : e.adjustScroll 0 = e.scrolledTo (min e.scroll e.caret.line) := by
  unfold adjustScroll
  dsimp only
  rw [if_neg (by omega)]
  rfl

theorem view_cases (e : Editor) (height : Nat)
    : e.caret.line < e.scroll ∨ e.InView height ∨ e.scroll + height ≤ e.caret.line := by
  unfold InView
  omega

theorem inView_adjustScroll (e : Editor) (hheight : 0 < height) : (e.adjustScroll height).InView height := by
  rcases e.view_cases height with habove | hinside | hbelow
  · rw [adjustScroll_of_lt habove]
    exact ⟨Nat.le_refl _, Nat.lt_add_of_pos_right hheight⟩
  · rw [adjustScroll_of_inView hinside]
    exact hinside
  · rw [adjustScroll_of_le hheight hbelow]
    unfold InView scrolledTo
    dsimp only
    omega

theorem adjustScroll_adjustScroll (e : Editor) (height : Nat)
    : (e.adjustScroll height).adjustScroll height = e.adjustScroll height := by
  rcases Nat.eq_zero_or_pos height with rfl | hheight
  · rw [adjustScroll_zero, adjustScroll_zero]
    unfold scrolledTo
    dsimp only
    rw [Nat.min_eq_left (Nat.min_le_right _ _)]
  · exact adjustScroll_of_inView (e.inView_adjustScroll hheight)

theorem dist_adjustScroll_lt (h : (e.scrolledTo top).InView height) (hne : top ≠ (e.adjustScroll height).scroll)
    : Nat.dist e.scroll (e.adjustScroll height).scroll < Nat.dist e.scroll top := by
  -- The lines that may be first are those of an interval, and the one before is moved to its nearer end.
  have hheight : 0 < height := by
    obtain ⟨habove, hbelow⟩ := h
    omega
  unfold InView scrolledTo at h
  dsimp only at h
  rcases e.view_cases height with habove | hinside | hbelow
  · rw [adjustScroll_of_lt habove] at hne ⊢
    unfold scrolledTo at hne ⊢
    unfold Nat.dist
    dsimp only at hne ⊢
    omega
  · rw [adjustScroll_of_inView hinside] at hne ⊢
    unfold Nat.dist
    omega
  · rw [adjustScroll_of_le hheight hbelow] at hne ⊢
    unfold scrolledTo at hne ⊢
    unfold Nat.dist
    dsimp only at hne ⊢
    omega

end Editor

end Workbench
