import Workbench.Proofs.Screen.Columns

/-!
The gutter. It has five cells, which is room for four digits and a blank; the number of a line is not cut. So the
rows of the pane take their cells, with the text where the caret is put, as long as no line on the screen has a
number of five digits.
-/

namespace Workbench

open Text TerminalCommand

namespace View

variable {v : View} {theme : Theme} {e : Editor} {r : Registry} {rect : Rect} {row : Nat} {line : List Char}

theorem length_drawRow_none (theme : Theme) (r : Registry) (hwidth : v.gutterWidth ≤ rect.width)
    (h : e.document.lines[row + e.scroll]? = none)
    : (printedText (v.drawRow theme e r rect e.document.lines row)).length = rect.width := by
  have htilde : printedText (if 0 < v.gutterWidth then [.print (fit "   ~".toList v.gutterWidth)] else [])
      = fit "   ~".toList v.gutterWidth := by
    split
    next => exact List.append_nil _
    next hzero =>
      rw [Nat.eq_zero_of_not_pos hzero]
      rfl
  unfold drawRow
  rw [h]
  dsimp only
  rw [printedText_cons, printedText_append, printedText_cons, htilde, printedText_cons]
  unfold TerminalCommand.text blanks printedText
  simp only [List.nil_append, List.append_nil, List.flatMap_nil, List.length_append, length_fit,
    List.length_replicate]
  omega

structure RowAligned (v : View) (theme : Theme) (e : Editor) (r : Registry) (rect : Rect) (row : Nat) : Prop where
  start : (v.drawRow theme e r rect e.document.lines row).head? = some (.moveTo rect.x (rect.y + row))
  length : (printedText (v.drawRow theme e r rect e.document.lines row)).length = rect.width
  text : ∀ line, e.document.lines[row + e.scroll]? = some line →
    (printedText (v.drawRow theme e r rect e.document.lines row)).drop v.gutterWidth
      = fit (expandTabs v.options.tabWidth 0 (content line)) (rect.width - v.gutterWidth)
  caret : ∀ line c, e.document.lines[row + e.scroll]? = some line → e.caret.line = row + e.scroll →
    (content line)[e.caret.column]? = some c →
    rect.x + v.gutterWidth + displayCol line e.caret.column v.options.tabWidth < rect.right →
    ∃ i, v.caretCell? e rect = some (some (rect.x + i, rect.y + row))
      ∧ (printedText (v.drawRow theme e r rect e.document.lines row))[i]? = some (glyph c)

theorem rowAligned_of_none (theme : Theme) (r : Registry) (hwidth : v.gutterWidth ≤ rect.width)
    (h : e.document.lines[row + e.scroll]? = none)
    : v.RowAligned theme e r rect row where
  start := rfl
  length := length_drawRow_none theme r hwidth h
  text line hline := by
    rw [h] at hline
    contradiction
  caret line c hline := by
    rw [h] at hline
    contradiction

theorem rowAligned_of_gutterText (theme : Theme) (r : Registry) (hwidth : v.gutterWidth ≤ rect.width)
    (hrow : row < rect.height) (h : e.document.lines[row + e.scroll]? = some line)
    (hgutter : (v.gutterText (row + e.scroll)).length = v.gutterWidth)
    : v.RowAligned theme e r rect row := by
  have hprinted := v.printedText_drawRow theme r rect h
  refine ⟨rfl, ?_, ?_, ?_⟩
  · rw [hprinted, List.length_append, hgutter, length_fit]
    omega
  · intro line' hline
    rw [h] at hline
    cases hline
    rw [hprinted, ← hgutter, List.drop_left]
  · intro line' c hline hcaret hc hlt
    have hright : rect.right ≤ rect.x + rect.width := Nat.min_le_left _ _
    have hcol := displayCol_content v.options.tabWidth (Nat.le_of_lt (List.getElem?_eq_some_iff.1 hc).1)
    have hindex : e.caret.line - e.scroll = row := by omega
    obtain ⟨after, hafter⟩ := v.printedText_drawRow_char theme r rect rfl hline hc (by rw [hcol]; omega)
    refine ⟨(v.textBefore (row + e.scroll) (content line') e.caret.column).length, ?_, ?_⟩
    · have hcell := v.caretCell?_of_lt rect (hcaret ▸ hline) (by omega) (by omega) hlt
      rw [hcell, hindex, length_textBefore, hgutter, hcol, Nat.add_assoc]
    · rw [hafter, List.getElem?_append_right (Nat.le_refl _), Nat.sub_self]
      rfl

theorem length_drawRow_line (v : View) (theme : Theme) (r : Registry) (rect : Rect) {n : Nat}
    (hnumbers : v.options.showLineNumbers = true) (hrow : row + e.scroll = n)
    (h : e.document.lines[n]? = some line)
    : (printedText (v.drawRow theme e r rect e.document.lines row)).length
        = max 4 (Nat.toDigits 10 (n + 1)).length + 1 + (rect.width - v.gutterWidth) := by
  rw [v.printedText_drawRow theme r rect (hrow ▸ h)]
  rw [List.length_append, length_fit, hrow, length_gutterText hnumbers]

end View

end Workbench
