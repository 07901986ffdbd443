import Workbench.Proofs.Editor.Places
import Workbench.Proofs.Screen.Panels
import Workbench.Screen.Overlay

/-!
Places on the screen in words of the machine. Where a number leaves its word there is none, and the places that are
found without overflow are those of `View.caretCell?` and `View.hoverOrigin`: no number of a screen leaves its word.
-/

namespace Workbench

open Text

def sum? (bound a b : Nat) : Option Nat :=
  if a + b < bound then some (a + b) else none

def difference? (a b : Nat) : Option Nat :=
  if b ≤ a then some (a - b) else none

def coordinate? (a : Nat) : Option Nat :=
  if a ≤ maxCoordinate then some a else none

theorem sum?_eq {bound a b : Nat} (h : a + b < bound) : sum? bound a b = some (a + b) :=
  if_pos h

theorem difference?_eq {a b : Nat} (h : b ≤ a) : difference? a b = some (a - b) :=
  if_pos h

theorem coordinate?_eq {a : Nat} (h : a ≤ maxCoordinate) : coordinate? a = some a :=
  if_pos h

namespace Text

def nextCellIn? (bound tabWidth x : Nat) (c : Char) : Option Nat :=
  if c = '\t' then
    (sum? bound x (max tabWidth 1)).bind (difference? · (x % max tabWidth 1))
  else sum? bound x 1

def displayColIn? (bound : Nat) (line : List Char) (col tabWidth : Nat) : Option Nat :=
  (line.take col).foldlM (nextCellIn? bound tabWidth) 0

variable {bound tabWidth x : Nat} {line : List Char}

theorem nextCell_le (tabWidth x : Nat) (c : Char) : nextCell tabWidth x c ≤ x + max tabWidth 1 := by
  unfold nextCell
  split <;> omega

theorem nextCellIn?_eq (c : Char) (h : x + max tabWidth 1 < bound)
    : nextCellIn? bound tabWidth x c = some (nextCell tabWidth x c) := by
  unfold nextCellIn? nextCell
  split
  next =>
    have hmod := Nat.mod_lt x (Nat.lt_of_lt_of_le Nat.one_pos (Nat.le_max_right tabWidth 1))
    rw [sum?_eq h, Option.bind_some, difference?_eq (by omega)]
    rw [Nat.add_sub_assoc (by omega)]
  next => exact sum?_eq (by omega)

theorem foldlM_nextCellIn?_eq (h : x + line.length * max tabWidth 1 < bound)
    : line.foldlM (nextCellIn? bound tabWidth) x = some (line.foldl (nextCell tabWidth) x) := by
  induction line generalizing x with
  | nil => rfl
  | cons c cs ih =>
    rw [List.length_cons, Nat.succ_mul] at h
    have hle := nextCell_le tabWidth x c
    rw [List.foldlM_cons, List.foldl_cons]
    rw [nextCellIn?_eq c (by omega)]
    exact ih (by omega)

theorem foldl_nextCell_le (tabWidth x : Nat) (line : List Char)
    : line.foldl (nextCell tabWidth) x ≤ x + line.length * max tabWidth 1 := by
  induction line generalizing x with
  | nil => exact Nat.le_add_right x _
  | cons c cs ih =>
    have hle := nextCell_le tabWidth x c
    have hrest := ih (nextCell tabWidth x c)
    rw [List.length_cons, Nat.succ_mul, List.foldl_cons]
    omega

theorem length_take_mul_le (line : List Char) (col tabWidth : Nat)
    : (line.take col).length * max tabWidth 1 ≤ line.length * max tabWidth 1 :=
  Nat.mul_le_mul_right _ (List.length_take_le' col line)

theorem displayCol_le (line : List Char) (col tabWidth : Nat)
    : displayCol line col tabWidth ≤ line.length * max tabWidth 1 := by
  have hle := foldl_nextCell_le tabWidth 0 (line.take col)
  rw [Nat.zero_add] at hle
  exact Nat.le_trans hle (length_take_mul_le line col tabWidth)

theorem displayColIn?_eq (col : Nat) (h : line.length * max tabWidth 1 < bound)
    : displayColIn? bound line col tabWidth = some (displayCol line col tabWidth) := by
  have hle := length_take_mul_le line col tabWidth
  exact foldlM_nextCellIn?_eq (by omega)

end Text

theorem Document.length_line_le {d : Document} {n : Nat} {line : List Char} (h : d.line? n = some line)
    : line.length ≤ d.text.length := by
  have hmem : line ∈ d.lines := List.mem_of_getElem? h
  rw [← flatten_lines d.text]
  exact (List.sublist_flatten_of_mem hmem).length_le

theorem addCoordinates_lt_iff {a b c : Nat} (hc : c ≤ maxCoordinate) : addCoordinates a b < c ↔ a + b < c := by
  unfold addCoordinates
  omega

theorem Rect.bottom_le (r : Rect) : r.bottom ≤ maxCoordinate :=
  Nat.min_le_right _ _

namespace View

def caretCellIn? (bound : Nat) (v : View) (e : Editor) (r : Rect) : Option (Option (Nat × Nat)) :=
  if e.caret.line < e.scroll ∨ r.height ≤ e.caret.line - e.scroll then some none
  else do
    let line ← e.document.line? e.caret.line
    let column ← displayColIn? bound line e.caret.column v.options.tabWidth
    let left ← sum? bound r.x v.gutterWidth
    let x ← sum? bound left column
    let x ← coordinate? (min x (r.right - 1))
    let row ← coordinate? (e.caret.line - e.scroll)
    let y ← sum? (maxCoordinate + 1) r.y row
    return some (x, y)

def hoverOriginIn? (rect : Rect) (gutter column caretRow rows : Nat) : Option (Nat × Nat) :=
  let x := addCoordinates (addCoordinates rect.x gutter) (min column maxCoordinate)
  let height := min rows maxCoordinate
  (if addCoordinates rect.y height ≤ caretRow then difference? caretRow height
    else some (addCoordinates caretRow 1)).map fun y => (min x (rect.right - 1), y)

variable {v : View} {e : Editor} {bound : Nat}

theorem caretCellIn?_eq (hv : v.InRange)
    (hbound : maxCoordinate + numbersWidth + e.document.text.length * max v.options.tabWidth 1 < bound)
    : caretCellIn? bound v e v.layout.editor = v.caretCell? e v.layout.editor := by
  unfold caretCellIn? caretCell?
  split
  next => rfl
  next hvisible =>
    cases hline : e.document.line? e.caret.line with
    | none => rfl
    | some line =>
      have hlength := Nat.mul_le_mul_right (max v.options.tabWidth 1) (Document.length_line_le hline)
      have hcolumn := displayCol_le line e.caret.column v.options.tabWidth
      have hgutter : v.gutterWidth ≤ numbersWidth := by
        unfold gutterWidth
        split <;> decide
      have hx := v.x_pane_le
      have hwidth := hv.width
      have hheight := height_pane_le_max hv
      have hright := right_pane hv
      have hy := v.y_pane
      simp only [Option.bind_eq_bind, Option.bind_some, Option.map_some]
      rw [displayColIn?_eq _ (by omega), Option.bind_some]
      rw [sum?_eq (by omega), Option.bind_some]
      rw [sum?_eq (by omega), Option.bind_some]
      rw [coordinate?_eq (by omega), Option.bind_some]
      rw [coordinate?_eq (by omega), Option.bind_some]
      rw [sum?_eq (by omega), Option.bind_some]
      rfl

theorem hoverOriginIn?_eq (rect : Rect) (gutter column caretRow rows : Nat)
    : hoverOriginIn? rect gutter column caretRow rows = some (hoverOrigin rect gutter column caretRow rows) := by
  unfold hoverOriginIn? hoverOrigin
  dsimp only
  split
  next hroom =>
    -- What stops at the greatest coordinate is not below the height, which has been stopped there.
    have hheight : min rows maxCoordinate ≤ caretRow := by
      unfold addCoordinates at hroom
      omega
    rw [difference?_eq hheight]
    rfl
  next => rfl

theorem boxWidth_le (rows : List (List Char)) (area : Rect) : boxWidth rows area ≤ overlayWidth :=
  Nat.le_trans (Nat.min_le_left _ _) (Nat.min_le_right _ _)

structure FitsWords (v : View) (bound : Nat) (e : Editor) : Prop where
  caret : caretCellIn? bound v e v.layout.editor = v.caretCell? e v.layout.editor
  hover : ∀ column caretRow rows,
    hoverOriginIn? v.layout.editor v.gutterWidth column caretRow rows
      = some (hoverOrigin v.layout.editor v.gutterWidth column caretRow rows)
  width : ∀ rows, coordinate? (boxWidth rows v.layout.editor) = some (boxWidth rows v.layout.editor)
  index : ∀ i < overlayRows, coordinate? i = some i

theorem fitsWords (hv : v.InRange)
    (hbound : maxCoordinate + numbersWidth + e.document.text.length * max v.options.tabWidth 1 < bound)
    : v.FitsWords bound e where
  caret := caretCellIn?_eq hv hbound
  hover := hoverOriginIn?_eq v.layout.editor v.gutterWidth
  width rows := coordinate?_eq (Nat.le_trans (boxWidth_le rows _) (by decide))
  index i hi := coordinate?_eq (Nat.le_trans (Nat.le_of_lt hi) (by decide))

end View

end Workbench
