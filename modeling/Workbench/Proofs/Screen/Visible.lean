import Workbench.Proofs.Editor.Scrolling
import Workbench.Proofs.Screen.Overlays

/-!
When an overlay is seen. The list of completions is always below the caret, so that there is room for the selected
item exactly if there are rows enough there; the hover card is seen unless the caret is in the last row and the
card has more rows than there are above it.
-/

namespace Workbench

open Text TerminalCommand

def Rect.Shows (area : Rect) (t : Terminal) (cs : List TerminalCommand) (ground : Color) (text : List Char) : Prop :=
  text ≠ [] ∧ ∃ x y pen, pen.background? = some ground ∧
    ∀ s ∈ Stroke.ofText x y pen text, s ∈ t.strokes cs ∧ area.Covers s.column s.row

theorem Text.rows_ne_nil {cs : List Char} (h : cs ≠ []) : Text.rows cs ≠ [] := by
  unfold Text.rows
  fun_cases rowsBy '\n' '\r' cs with
  | case1 => contradiction
  | case2 => exact List.cons_ne_nil _ _
  | case3 => exact List.cons_ne_nil _ _
  | case4 => exact List.cons_ne_nil _ _
  | case5 => exact List.cons_ne_nil _ _
  | case6 => exact consFirst_ne_nil _ _

namespace View

variable {v : View} {theme : Theme} {rows : List (List Char)} {selected : Option Nat} {x y : Nat} {area : Rect}
variable {t : Terminal} {e : Editor}

section Box

theorem boxGround_eq_iff {n : Nat} (hcolors : theme.popupSelected ≠ theme.popupBackground)
    : boxGround theme selected n = theme.popupSelected ↔ selected = some n := by
  unfold boxGround
  split
  next h => exact iff_of_true rfl h
  next h => exact iff_of_false hcolors.symm h

theorem shows_of_mem_boxRows (theme : Theme) (selected : Option Nat) {row : List Char × Nat}
    (hplaced : Placed t area x y) (hwidth : boxWidth rows area ≠ 0) (hrow : row ∈ boxRows rows y area)
    : area.Shows t (drawBox theme rows selected x y area) (boxGround theme selected row.2)
        (fit row.1 (boxWidth rows area)) := by
  refine ⟨?_, boxLeft rows x area, y + row.2,
    { boxPen theme t.pen with background? := some (boxGround theme selected row.2) }, rfl, ?_⟩
  · intro hnil
    have hlength := length_fit row.1 (boxWidth rows area)
    rw [hnil] at hlength
    exact hwidth hlength.symm
  · intro s hs
    have hstroke : s ∈ t.strokes (drawBox theme rows selected x y area) := by
      rw [strokes_drawBox theme rows selected x y hplaced.right hplaced.bottom]
      exact List.mem_flatMap.2 ⟨row, hrow, hs⟩
    exact ⟨hstroke, (mem_strokes_drawBox hplaced hstroke).1⟩

theorem mem_boxRows_of_shows {ground : Color} {text : List Char} (hplaced : Placed t area x y)
    (h : area.Shows t (drawBox theme rows selected x y area) ground text)
    : ∃ row ∈ boxRows rows y area, boxGround theme selected row.2 = ground := by
  obtain ⟨htext, column, line, pen, hground, hdrawn⟩ := h
  obtain ⟨s, hs⟩ := List.exists_mem_of_ne_nil _ (Stroke.ofText_ne_nil column line pen htext)
  obtain ⟨-, row, hrow, hpen⟩ := mem_strokes_drawBox hplaced (hdrawn s hs).1
  rw [(Stroke.mem_ofText hs).2.2.2, hground] at hpen
  exact ⟨row, hrow, Option.some.inj hpen.symm⟩

theorem length_le_longest {row : List Char} (h : row ∈ rows) : row.length ≤ (rows.map List.length).foldl max 0 := by
  have hmax (ns : List Nat) (m : Nat) : m ≤ ns.foldl max m ∧ ∀ n ∈ ns, n ≤ ns.foldl max m := by
    induction ns generalizing m with
    | nil => exact ⟨Nat.le_refl m, fun n hn => by cases hn⟩
    | cons n ns ih =>
      rw [List.foldl_cons, List.forall_mem_cons]
      have hfirst := (ih (max m n)).1
      exact ⟨by omega, by omega, (ih (max m n)).2⟩
  exact (hmax _ 0).2 _ (List.mem_map_of_mem h)

theorem boxWidth_ne_zero {row : List Char} (hrow : row ∈ rows) (hne : row ≠ []) (harea : area.x < area.right)
    : boxWidth rows area ≠ 0 := by
  have hlongest := length_le_longest hrow
  have hpos := List.length_pos_iff.2 hne
  unfold boxWidth overlayWidth
  omega

theorem shows_row_iff {row : List Char} {n : Nat} {ground : Color} (hplaced : Placed t area x y)
    (harea : area.x < area.right) (hrow : rows[n]? = some row) (hne : row ≠ []) (hn : n < overlayRows)
    (hground : boxGround theme selected n = ground) (hfirst : ∀ m, boxGround theme selected m = ground → n ≤ m)
    : area.Shows t (drawBox theme rows selected x y area) ground (fit row (boxWidth rows area))
        ↔ y + n < area.bottom := by
  constructor
  · intro hshows
    obtain ⟨drawn, hdrawn, hsame⟩ := mem_boxRows_of_shows hplaced hshows
    have hle := hfirst drawn.2 hsame
    have hlast := (mem_boxRows.1 hdrawn).2.2
    omega
  · intro hroom
    have hmem : (row, n) ∈ boxRows rows y area := mem_boxRows.2 ⟨hrow, hn, hroom⟩
    have hwidth := boxWidth_ne_zero (List.mem_of_getElem? hrow) hne harea
    rw [← hground]
    exact shows_of_mem_boxRows theme selected hplaced hwidth hmem

end Box

section Pane

variable {cs : List TerminalCommand}

def caretRow (e : Editor) : Nat :=
  e.caret.line - e.scroll

theorem caretCell?_of_visible (v : View) (rect : Rect) (hcaret : e.document.Holds e.caret)
    (hscroll : e.scroll ≤ e.caret.line) (hrow : caretRow e < rect.height)
    : ∃ x, v.caretCell? e rect = some (some (x, rect.y + caretRow e)) := by
  obtain ⟨n, hn, -⟩ := hcaret
  obtain ⟨line, hline, -⟩ := Option.map_eq_some_iff.1 hn
  unfold caretRow at hrow
  unfold caretCell?
  rw [if_neg (by omega), hline]
  exact ⟨_, rfl⟩

theorem getElem?_listRows {popup : CompletionPopup} {item : CompletionItem} (h : popup.current? = some item)
    : (listRows popup)[min popup.selected (overlayRows - 1)]? = some (completionRow item) := by
  have hindex : popup.selected - (overlayRows - 1) + min popup.selected (overlayRows - 1) = popup.selected := by
    omega
  unfold listRows
  rw [List.getElem?_map, List.getElem?_drop, hindex]
  exact congrArg (Option.map completionRow) h

theorem shows_drawCompletion?_iff {popup : CompletionPopup} {item : CompletionItem} (hv : v.InRange)
    (hwidth : 0 < v.layout.editor.width) (hcolors : theme.popupSelected ≠ theme.popupBackground)
    (hpopup : e.completion? = some popup) (hitem : popup.current? = some item)
    (hcell : v.caretCell? e v.layout.editor = some (some (x, y))) (hy : y < v.layout.editor.height)
    (hdraw : v.drawCompletion? theme e v.layout.editor = some cs) (htw : t.width = v.width)
    (hth : t.height = v.height)
    : v.layout.editor.Shows t cs theme.popupSelected
          (fit (completionRow item) (boxWidth (listRows popup) v.layout.editor))
        ↔ y + 1 + min popup.selected (overlayRows - 1) < v.layout.editor.height := by
  have hheight := height_pane_le_max hv
  have htop : addCoordinates y 1 = y + 1 := Nat.min_eq_left (by omega)
  have hplaced := placed_pane hv (y + 1) htw hth (place_of_caretCell? hcell).1
  have hbox : cs = drawBox theme (listRows popup) (some (min popup.selected (overlayRows - 1))) x (y + 1)
      v.layout.editor := by
    rcases drawCompletion?_cases hdraw with ⟨-, hnone | hnone⟩ | ⟨other, column, row, hother, hplace, hbox⟩
    · cases hpopup.symm.trans hnone
    · cases hcell.symm.trans hnone
    · cases hpopup.symm.trans hother
      cases hcell.symm.trans hplace
      rw [hbox, htop]
  rw [hbox, ← bottom_pane hv]
  refine shows_row_iff hplaced (pane_lt_right hv hwidth) (getElem?_listRows hitem) (List.cons_ne_nil _ _) ?_
    ((boxGround_eq_iff hcolors).2 rfl) ?_
  · unfold overlayRows
    omega
  · intro n hn
    exact Nat.le_of_eq (Option.some.inj ((boxGround_eq_iff hcolors).1 hn))

theorem hoverOrigin_lt_iff {rect : Rect} {row height : Nat} (htop : rect.y = 0) (gutter column rows : Nat)
    (hrow : row < height) (hheight : height ≤ maxCoordinate)
    : (hoverOrigin rect gutter column row rows).2 < height ↔ rows ≤ row ∨ row + 1 < height := by
  unfold hoverOrigin addCoordinates
  dsimp only
  rw [htop]
  split <;> omega

theorem shows_drawHover?_iff {hover : HoverPopup} {row : List Char} {rest : List (List Char)} (hv : v.InRange)
    (hwidth : 0 < v.layout.editor.width) (hhover : e.hover? = some hover) (hrows : hoverRows hover = row :: rest)
    (hcell : v.caretCell? e v.layout.editor = some (some (x, y))) (hy : y < v.layout.editor.height)
    (hdraw : v.drawHover? theme e v.layout.editor = some cs) (htw : t.width = v.width) (hth : t.height = v.height)
    : v.layout.editor.Shows t cs theme.popupBackground (fit row (boxWidth (hoverRows hover) v.layout.editor))
        ↔ (hoverRows hover).length ≤ y ∨ y + 1 < v.layout.editor.height := by
  generalize horigin : hoverOrigin v.layout.editor v.gutterWidth hover.anchor.column y (hoverRows hover).length
    = origin
  have hplaced : Placed t v.layout.editor origin.1 origin.2 := by
    refine placed_pane hv _ htw hth ?_
    rw [← horigin]
    exact le_hoverOrigin _ _ _ _ _ (Nat.le_trans v.x_pane_le hv.width)
  have htop : origin.2 < v.layout.editor.height
      ↔ (hoverRows hover).length ≤ y ∨ y + 1 < v.layout.editor.height := by
    rw [← horigin]
    exact hoverOrigin_lt_iff v.y_pane _ _ _ hy (height_pane_le_max hv)
  have hbox : cs = drawBox theme (hoverRows hover) none origin.1 origin.2 v.layout.editor := by
    rcases drawHover?_cases hdraw with ⟨-, hnone | hnone⟩ | ⟨other, column, row, hother, hplace, hbox⟩
    · cases hhover.symm.trans hnone
    · cases hcell.symm.trans hnone
    · cases hhover.symm.trans hother
      cases hcell.symm.trans hplace
      rw [hbox, horigin]
  have hfirst : (hoverRows hover)[0]? = some row := by
    rw [hrows]
    rfl
  have hne : row ≠ [] := by
    have hrow : row ∈ hoverRows hover := List.mem_of_getElem? hfirst
    obtain ⟨line, -, rfl⟩ := List.mem_map.1 hrow
    exact List.cons_ne_nil _ _
  rw [hbox, ← htop, ← bottom_pane hv]
  exact shows_row_iff hplaced (pane_lt_right hv hwidth) hfirst hne (Nat.zero_lt_succ _)
    (if_neg (Option.some_ne_none 0).symm) fun n _ => Nat.zero_le n

end Pane

section Frame

theorem popupSelected_ne (s : Shell) : (View.theme s).popupSelected ≠ (View.theme s).popupBackground := by
  have hall : ∀ theme ∈ Theme.all, theme.popupSelected ≠ theme.popupBackground := by decide
  unfold View.theme
  cases hfound : Theme.find? s.theme with
  | none => exact hall .dark (List.mem_cons_self ..)
  | some theme => exact hall theme (List.mem_of_find?_eq_some hfound)

def scrolled (v : View) (s : Shell) : Shell :=
  { s with editor := s.editor.adjustScroll v.editorHeight }

structure OverlaysShown (v : View) (s : Shell) (completion hover cursor : List TerminalCommand) : Prop where
  frame : v.render? s = some (v.panels s ++ completion ++ hover ++ cursor)
  layers : v.Layers s completion hover cursor
  list : ∀ popup item, s.editor.completion? = some popup → popup.current? = some item →
    ∀ t : Terminal, t.width = v.width → t.height = v.height →
      (v.layout.editor.Shows t completion (View.theme s).popupSelected
          (fit (completionRow item) (boxWidth (listRows popup) v.layout.editor))
        ↔ caretRow s.editor + 1 + min popup.selected (overlayRows - 1) < v.layout.editor.height)
  card : ∀ popup, s.editor.hover? = some popup → plainMarkdown popup.markdown.toList ≠ [] →
    ∃ row rest, hoverRows popup = row :: rest ∧
      ∀ t : Terminal, t.width = v.width → t.height = v.height →
        (v.layout.editor.Shows t hover (View.theme s).popupBackground
            (fit row (boxWidth (hoverRows popup) v.layout.editor))
          ↔ (hoverRows popup).length ≤ caretRow s.editor ∨ caretRow s.editor + 1 < v.layout.editor.height)

theorem overlaysShown (v : View) (s : Shell) (hv : v.InRange) (hcaret : s.editor.document.Holds s.editor.caret)
    (hwidth : 0 < v.layout.editor.width) (hheight : 0 < v.layout.editor.height)
    : ∃ completion hover cursor, v.OverlaysShown (v.scrolled s) completion hover cursor := by
  have hplace : (v.scrolled s).editor.document.Holds (v.scrolled s).editor.caret := hcaret
  obtain ⟨hscroll, hview⟩ := s.editor.inView_adjustScroll hheight
  have hrow : caretRow (v.scrolled s).editor < v.layout.editor.height := Nat.sub_lt_left_of_lt_add hscroll hview
  obtain ⟨frame, hframe⟩ := Option.isSome_iff_exists.1 (render?_isSome hplace v)
  obtain ⟨completion, hover, cursor, hlayers, rfl⟩ := render?_cases hframe
  obtain ⟨x, hcell⟩ := caretCell?_of_visible v v.layout.editor hplace hscroll hrow
  rw [v.y_pane, Nat.zero_add] at hcell
  refine ⟨completion, hover, cursor, hframe, hlayers, ?_, ?_⟩
  · intro popup item hpopup hitem t htw hth
    exact shows_drawCompletion?_iff hv hwidth (popupSelected_ne _) hpopup hitem hcell hrow hlayers.list htw hth
  · intro popup hpopup htext
    obtain ⟨row, rest, hrows⟩ := List.exists_cons_of_ne_nil
      (fun hnil => Text.rows_ne_nil htext (List.map_eq_nil_iff.1 hnil) : hoverRows popup ≠ [])
    refine ⟨row, rest, hrows, fun t htw hth => ?_⟩
    exact shows_drawHover?_iff hv hwidth hpopup hrows hcell hrow hlayers.card htw hth

theorem overlaysShown_overlaid
    : ∃ completion hover cursor,
        (View.mk 80 24 {}).Layers ((View.mk 80 24 {}).scrolled overlaid) completion hover cursor
          ∧ ∀ t : Terminal, t.width = 80 → t.height = 24 →
            Rect.Shows ⟨25, 0, 55, 16⟩ t completion Theme.dark.popupSelected " print      Print ".toList
              ∧ Rect.Shows ⟨25, 0, 55, 16⟩ t hover Theme.dark.popupBackground " print ".toList := by
  obtain ⟨completion, hover, cursor, hshown⟩ :=
    overlaysShown (View.mk 80 24 {}) overlaid ⟨by decide, by decide⟩ holds_overlaid (by decide) (by decide)
  refine ⟨completion, hover, cursor, hshown.layers, fun t htw hth => ⟨?_, ?_⟩⟩
  · exact (hshown.list _ ⟨"print", "print ", "Print"⟩ rfl rfl t htw hth).2 (by decide)
  · obtain ⟨row, rest, hrows, hcard⟩ := hshown.card _ rfl (by decide)
    have hrow : row = " print ".toList := by
      have hone : hoverRows ⟨"**print**", {}⟩ = [" print ".toList] := by decide
      rw [hone] at hrows
      exact (List.cons.inj hrows).1.symm
    rw [hrow] at hcard
    exact (hcard t htw hth).2 (.inr (by decide))

theorem selected_below_pane
    : ∃ (v : View) (s : Shell) (popup : CompletionPopup) (frame : List TerminalCommand),
        v.layout.editor = ⟨0, 0, 30, 2⟩ ∧ v.scrolled s = s ∧ s.editor.document.text = "\np".toList
          ∧ s.editor.caret = ⟨1, 1⟩ ∧ s.editor.completion? = some popup ∧ popup.current?.isSome
          ∧ v.render? s = some frame
          ∧ ∀ stroke ∈ Terminal.strokes { width := v.width, height := v.height } frame,
              stroke.cell.pen.background? ≠ some (View.theme s).popupSelected := by
  let v : View := ⟨30, 4, {}⟩
  let start : Shell := Shell.start Shell.builtIn "vs-dark"
  let popup : CompletionPopup :=
    { items := [⟨"print", "print ", "Print"⟩], selected := 0, typed? := some ⟨"p".toList, 0, 1⟩, anchor := ⟨1, 1⟩ }
  let s : Shell :=
    { start with
      editor :=
        { document := { text := "\np".toList }, caret := ⟨1, 1⟩, mode := .insert, completion? := some popup } }
  have hscrolled : v.scrolled s = s := by
    have heditor : s.editor.adjustScroll v.editorHeight = s.editor := by decide
    unfold scrolled
    rw [heditor]
  have hdrawn : (v.render? s).map (fun frame =>
      (Terminal.strokes { width := v.width, height := v.height } frame).all
        fun stroke => stroke.cell.pen.background? ≠ some (View.theme s).popupSelected) = some true := by
    decide +kernel
  obtain ⟨frame, hframe, hall⟩ := Option.map_eq_some_iff.1 hdrawn
  refine ⟨v, s, popup, frame, by decide, hscrolled, rfl, rfl, rfl, rfl, hframe, ?_⟩
  intro stroke hstroke
  simpa using List.all_eq_true.1 hall stroke hstroke

end Frame

end View

end Workbench
