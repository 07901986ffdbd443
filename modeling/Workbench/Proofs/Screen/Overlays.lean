import Workbench.Proofs.Screen.Frame
import Workbench.Proofs.Screen.Strokes
import Workbench.Proofs.Screen.Words

/-!
What lies over the pane of the document. A box is drawn row by row, in rows of one width that do not leave its area,
so that the list of completions and the hover card change no cell outside of the pane.
-/

namespace Workbench

open Text TerminalCommand

def Rect.Covers (r : Rect) (column row : Nat) : Prop :=
  r.x ≤ column ∧ column < r.right ∧ r.y ≤ row ∧ row < r.bottom

def TerminalCommand.prints (cs : List TerminalCommand) : List (List Char) :=
  cs.filterMap fun
    | print text => some text
    | _ => none

namespace View

variable {v : View} {theme : Theme} {rows : List (List Char)} {selected : Option Nat} {x y width : Nat} {area : Rect}
variable {t : Terminal}

section Box

def boxGround (theme : Theme) (selected : Option Nat) (index : Nat) : Color :=
  if selected = some index then theme.popupSelected else theme.popupBackground

def boxRow (theme : Theme) (selected : Option Nat) (x y width : Nat) (row : List Char × Nat) :
    List TerminalCommand :=
  [.moveTo x (y + row.2), .background (boxGround theme selected row.2), .print (fit row.1 width)]

def boxRows (rows : List (List Char)) (y : Nat) (area : Rect) : List (List Char × Nat) :=
  (rows.take (min overlayRows (area.bottom - y))).zipIdx

def boxLeft (rows : List (List Char)) (x : Nat) (area : Rect) : Nat :=
  min x (area.right - boxWidth rows area)

theorem takeWhile_zipIdx (rows : List (List Char)) (n : Nat) {bottom : Nat} (hbottom : bottom ≤ maxCoordinate)
    : (rows.zipIdx n).takeWhile (fun row => addCoordinates y row.2 < bottom)
        = (rows.take (bottom - (y + n))).zipIdx n := by
  induction rows generalizing n with
  | nil => rw [List.take_nil]; rfl
  | cons row rows ih =>
    rw [List.zipIdx_cons, List.takeWhile_cons]
    simp only [addCoordinates_lt_iff hbottom]
    by_cases hroom : y + n < bottom
    · have hone : bottom - (y + n) = bottom - (y + (n + 1)) + 1 := by omega
      rw [if_pos (decide_eq_true hroom), hone, List.take_succ_cons, List.zipIdx_cons]
      simp only [← addCoordinates_lt_iff hbottom]
      rw [ih]
    · have hnone : bottom - (y + n) = 0 := by omega
      rw [if_neg (by simpa using hroom), hnone]
      rfl

theorem mem_boxRows {row : List Char × Nat}
    : row ∈ boxRows rows y area ↔ rows[row.2]? = some row.1 ∧ row.2 < overlayRows ∧ y + row.2 < area.bottom := by
  unfold boxRows
  rw [List.mem_zipIdx_iff_getElem?, List.getElem?_take]
  split
  next h =>
    have hroom : row.2 < overlayRows ∧ y + row.2 < area.bottom := by omega
    exact ⟨fun hrow => ⟨hrow, hroom⟩, fun hrow => hrow.1⟩
  next h =>
    constructor
    · intro hrow
      cases hrow
    · intro hrow
      omega

theorem drawBox_eq (theme : Theme) (rows : List (List Char)) (selected : Option Nat) (x y : Nat) (area : Rect)
    (hwidth : boxWidth rows area ≠ 0)
    : drawBox theme rows selected x y area
        = .foreground theme.popupForeground ::
            (boxRows rows y area).flatMap (boxRow theme selected (boxLeft rows x area) y (boxWidth rows area))
            ++ [.background theme.background] := by
  have hrows : ((rows.take overlayRows).zipIdx.takeWhile fun row => addCoordinates y row.2 < area.bottom)
      = boxRows rows y area := by
    rw [takeWhile_zipIdx _ _ area.bottom_le]
    unfold boxRows
    rw [List.take_take, Nat.min_comm, Nat.add_zero]
  unfold drawBox
  dsimp only
  rw [if_neg hwidth, hrows]
  have hplace : ∀ row ∈ boxRows rows y area, addCoordinates y row.2 = y + row.2 := by
    intro row hrow
    have hlt := (mem_boxRows.1 hrow).2.2
    have hbottom := area.bottom_le
    exact Nat.min_eq_left (by omega)
  rw [List.flatMap_def, List.flatMap_def]
  congr 3
  apply List.map_congr_left
  intro row hrow
  rw [hplace row hrow]
  rfl

structure Placed (t : Terminal) (area : Rect) (x y : Nat) : Prop where
  right : area.right ≤ t.width
  bottom : area.bottom ≤ t.height
  x : area.x < area.right → area.x ≤ x
  y : area.y ≤ y

def boxStrokes (theme : Theme) (selected : Option Nat) (pen : Pen) (x y width : Nat) (row : List Char × Nat) :
    List Stroke :=
  Stroke.ofText x (y + row.2) { pen with background? := some (boxGround theme selected row.2) } (fit row.1 width)

theorem strokes_boxRows (theme : Theme) (selected : Option Nat) {cs : List (List Char × Nat)}
    (hwidth : x + width ≤ t.width) (hheight : ∀ row ∈ cs, y + row.2 < t.height)
    : t.strokes (cs.flatMap (boxRow theme selected x y width))
        = cs.flatMap (boxStrokes theme selected t.pen x y width) := by
  induction cs generalizing t with
  | nil => rfl
  | cons row cs ih =>
    rw [List.forall_mem_cons] at hheight
    have hsize := t.size_execAll (boxRow theme selected x y width row)
    -- A row leaves its ground in the pen, and the next one has its own.
    have hpen : (t.execAll (boxRow theme selected x y width row)).pen
        = { t.pen with background? := some (boxGround theme selected row.2) } := by
      unfold boxRow
      rw [Terminal.execAll_cons, Terminal.execAll_cons, Terminal.execAll_cons, Terminal.execAll_nil,
        Terminal.pen_print]
      rfl
    have hrest := ih (t := t.execAll (boxRow theme selected x y width row)) (hsize.1 ▸ hwidth)
      (hsize.2 ▸ hheight.2)
    have hrow : t.strokes (boxRow theme selected x y width row) = boxStrokes theme selected t.pen x y width row :=
      Terminal.strokes_moveTo_print _ (by rw [length_fit]; exact hwidth) hheight.1
    rw [List.flatMap_cons, List.flatMap_cons, Terminal.strokes_append, hrest, hpen, hrow]
    rfl

def boxPen (theme : Theme) (pen : Pen) : Pen :=
  { pen with foreground? := some theme.popupForeground }

theorem boxLeft_add_boxWidth_le (rows : List (List Char)) (x : Nat) (area : Rect)
    : boxLeft rows x area + boxWidth rows area ≤ area.right := by
  unfold boxLeft boxWidth
  omega

theorem strokes_drawBox (theme : Theme) (rows : List (List Char)) (selected : Option Nat) (x y : Nat)
    (hright : area.right ≤ t.width) (hbottom : area.bottom ≤ t.height)
    : t.strokes (drawBox theme rows selected x y area)
        = (boxRows rows y area).flatMap
            (boxStrokes theme selected (boxPen theme t.pen) (boxLeft rows x area) y (boxWidth rows area)) := by
  by_cases hwidth : boxWidth rows area = 0
  · have hnone (row : List Char × Nat)
        : boxStrokes theme selected (boxPen theme t.pen) (boxLeft rows x area) y 0 row = [] := by
      unfold boxStrokes fit
      rw [List.take_zero, Nat.zero_sub]
      rfl
    unfold drawBox
    rw [if_pos hwidth, hwidth]
    exact (List.flatMap_eq_nil_iff.2 fun row _ => hnone row).symm
  · have hleft := boxLeft_add_boxWidth_le rows x area
    have hrows : (t.exec (.foreground theme.popupForeground)).strokes
          ((boxRows rows y area).flatMap (boxRow theme selected (boxLeft rows x area) y (boxWidth rows area)))
        = (boxRows rows y area).flatMap
            (boxStrokes theme selected (boxPen theme t.pen) (boxLeft rows x area) y (boxWidth rows area)) := by
      refine strokes_boxRows theme selected (Nat.le_trans hleft hright) fun row hrow => ?_
      exact Nat.lt_of_lt_of_le (mem_boxRows.1 hrow).2.2 hbottom
    rw [drawBox_eq theme rows selected x y area hwidth]
    rw [List.cons_append, Terminal.strokes_cons, Terminal.strokes_append, hrows]
    exact List.append_nil _

theorem mem_strokes_drawBox {s : Stroke} (hplaced : Placed t area x y)
    (h : s ∈ t.strokes (drawBox theme rows selected x y area))
    : area.Covers s.column s.row
        ∧ ∃ row ∈ boxRows rows y area, s.cell.pen.background? = some (boxGround theme selected row.2) := by
  obtain ⟨hright, hbottom, hx, hy⟩ := hplaced
  rw [strokes_drawBox theme rows selected x y hright hbottom] at h
  obtain ⟨row, hrow, hstroke⟩ := List.mem_flatMap.1 h
  obtain ⟨hle, hlt, hplace, hpen⟩ := Stroke.mem_ofText hstroke
  have hleft := boxLeft_add_boxWidth_le rows x area
  have hlast := (mem_boxRows.1 hrow).2.2
  rw [length_fit] at hlt
  refine ⟨⟨?_, by omega, by omega, by omega⟩, row, hrow, by rw [hpen]⟩
  unfold boxLeft boxWidth at *
  omega

theorem prints_drawBox (theme : Theme) (rows : List (List Char)) (selected : Option Nat) (x y : Nat) (area : Rect)
    (hwidth : boxWidth rows area ≠ 0)
    : prints (drawBox theme rows selected x y area)
        = (rows.take (min overlayRows (area.bottom - y))).map (fit · (boxWidth rows area)) := by
  have hrow (cs : List (List Char × Nat)) (x width : Nat)
      : prints (cs.flatMap (boxRow theme selected x y width)) = (cs.map Prod.fst).map (fit · width) := by
    induction cs with
    | nil => rfl
    | cons row cs ih =>
      rw [List.flatMap_cons, List.map_cons, List.map_cons, ← ih]
      rfl
  have htaken : (boxRows rows y area).map Prod.fst = rows.take (min overlayRows (area.bottom - y)) :=
    List.zipIdx_map_fst 0 _
  rw [drawBox_eq theme rows selected x y area hwidth, ← htaken, ← hrow _ (boxLeft rows x area)]
  unfold prints
  rw [List.cons_append, List.filterMap_cons_none rfl, List.filterMap_append]
  exact List.append_nil _

theorem inks_drawBox {c : TerminalCommand} (h : c ∈ drawBox theme rows selected x y area) : c.Inks := by
  unfold drawBox at h
  dsimp only at h
  split at h
  next => cases h
  next =>
    rcases List.mem_append.1 h with h | h
    · rcases List.mem_cons.1 h with rfl | h
      · trivial
      · obtain ⟨row, -, h⟩ := List.mem_flatMap.1 h
        simp only [List.mem_cons, List.not_mem_nil, or_false] at h
        rcases h with rfl | rfl | rfl <;> trivial
    · rw [List.mem_singleton.1 h]
      trivial

end Box

section Pane

/-- The commands for an overlay draw in the pane alone: the first ones of its rows, not too many, and in one width. -/
structure Confined (v : View) (rows : List (List Char)) (cs : List TerminalCommand) : Prop where
  strokes : ∀ t : Terminal, t.width = v.width → t.height = v.height →
    ∀ s ∈ t.strokes cs, v.layout.editor.Covers s.column s.row
  cells : ∀ t : Terminal, t.width = v.width → t.height = v.height →
    ∀ x y, ¬ v.layout.editor.Covers x y → (t.execAll cs).cell x y = t.cell x y
  count : (prints cs).length ≤ overlayRows
  width : ∀ text ∈ prints cs, text.length = boxWidth rows v.layout.editor
  texts : ∃ n, prints cs = (rows.take n).map (fit · (boxWidth rows v.layout.editor))

theorem confined_nil (v : View) (rows : List (List Char)) : v.Confined rows [] where
  strokes t _ _ s hs := by cases hs
  cells t _ _ x y _ := rfl
  count := Nat.zero_le _
  width text htext := by cases htext
  texts := ⟨0, rfl⟩

theorem bottom_pane_le (hv : v.InRange) : v.layout.editor.bottom ≤ v.height := by
  rw [bottom_pane hv]
  exact Nat.le_trans v.height_pane_le (Nat.sub_le _ _)

theorem placed_pane (hv : v.InRange) (y : Nat) (hwidth : t.width = v.width) (hheight : t.height = v.height)
    (hx : v.layout.editor.x < v.layout.editor.right → v.layout.editor.x ≤ x)
    : Placed t v.layout.editor x y where
  right := Nat.le_of_eq (by rw [right_pane hv, hwidth])
  bottom := by
    rw [hheight]
    exact bottom_pane_le hv
  x := hx
  y := Nat.zero_le y

theorem confined_drawBox (hv : v.InRange) (theme : Theme) (rows : List (List Char)) (selected : Option Nat) (y : Nat)
    (hx : v.layout.editor.x < v.layout.editor.right → v.layout.editor.x ≤ x)
    : v.Confined rows (drawBox theme rows selected x y v.layout.editor) := by
  have hstrokes (t : Terminal) (hwidth : t.width = v.width) (hheight : t.height = v.height)
      : ∀ s ∈ t.strokes (drawBox theme rows selected x y v.layout.editor), v.layout.editor.Covers s.column s.row := by
    intro s hs
    exact (mem_strokes_drawBox (placed_pane hv y hwidth hheight hx) hs).1
  have htexts : ∃ n ≤ overlayRows, prints (drawBox theme rows selected x y v.layout.editor)
      = (rows.take n).map (fit · (boxWidth rows v.layout.editor)) := by
    by_cases hzero : boxWidth rows v.layout.editor = 0
    · unfold drawBox
      rw [if_pos hzero]
      exact ⟨0, Nat.zero_le _, rfl⟩
    · exact ⟨_, Nat.min_le_left _ _, prints_drawBox theme rows selected x y v.layout.editor hzero⟩
  obtain ⟨n, hn, htexts⟩ := htexts
  refine ⟨hstrokes, ?_, ?_, ?_, n, htexts⟩
  · intro t hwidth hheight column row houtside
    refine Terminal.cell_execAll (fun c hc => inks_drawBox hc) fun s hs hplace => houtside ?_
    rw [← hplace.1, ← hplace.2]
    exact hstrokes t hwidth hheight s hs
  · rw [htexts, List.length_map, List.length_take]
    omega
  · intro text htext
    rw [htexts] at htext
    obtain ⟨row, -, rfl⟩ := List.mem_map.1 htext
    exact length_fit _ _

theorem place_of_caretCell? {e : Editor} {rect : Rect} (h : v.caretCell? e rect = some (some (x, y)))
    : (rect.x < rect.right → rect.x ≤ x) ∧ y = rect.y + (e.caret.line - e.scroll) := by
  unfold caretCell? at h
  split at h
  next => cases h
  next =>
    obtain ⟨line, -, hplace⟩ := Option.map_eq_some_iff.1 h
    cases hplace
    exact ⟨fun hroom => by omega, rfl⟩

theorem confined_drawCompletion? {e : Editor} {cs : List TerminalCommand} (hv : v.InRange)
    (h : v.drawCompletion? theme e v.layout.editor = some cs)
    : v.Confined (e.completion?.elim [] listRows) cs := by
  rcases drawCompletion?_cases h with ⟨rfl, -⟩ | ⟨popup, x, y, hpopup, hcell, rfl⟩
  · exact confined_nil v _
  · rw [hpopup]
    exact confined_drawBox hv theme _ _ _ (place_of_caretCell? hcell).1

theorem le_hoverOrigin (rect : Rect) (gutter column caretRow rows : Nat) (hx : rect.x ≤ maxCoordinate)
    (hroom : rect.x < rect.right)
    : rect.x ≤ (hoverOrigin rect gutter column caretRow rows).1 := by
  unfold hoverOrigin addCoordinates
  dsimp only
  omega

theorem confined_drawHover? {e : Editor} {cs : List TerminalCommand} (hv : v.InRange)
    (h : v.drawHover? theme e v.layout.editor = some cs)
    : v.Confined (e.hover?.elim [] hoverRows) cs := by
  rcases drawHover?_cases h with ⟨rfl, -⟩ | ⟨hover, x, y, hhover, -, rfl⟩
  · exact confined_nil v _
  · rw [hhover]
    exact confined_drawBox hv theme _ _ _ (le_hoverOrigin _ _ _ _ _ (Nat.le_trans v.x_pane_le hv.width))

end Pane

section Frame

theorem cell_drawCursor? {e : Editor} {layout : ScreenLayout} {cs : List TerminalCommand}
    (h : v.drawCursor? e layout = some cs) : (t.execAll cs).cell = t.cell := by
  rcases drawCursor?_cases h with rfl | rfl | ⟨x, y, shape, rfl⟩ <;> rfl

def Beside (layout : ScreenLayout) (x y : Nat) : Prop :=
  (∃ rect, layout.sidebar? = some rect ∧ rect.Covers x y) ∨ layout.output.Covers x y ∨ y = layout.statusRow

theorem not_covers_of_beside (hv : v.InRange) (h : Beside v.layout x y) : ¬ v.layout.editor.Covers x y := by
  have hjoined := v.joined_layout
  have hstatus := hjoined.status
  have hlast := v.height_pane_le
  rintro ⟨hleft, -, -, hbottom⟩
  rw [bottom_pane hv] at hbottom
  rcases h with hsidebar | ⟨-, -, htop, -⟩ | hrow
  · obtain ⟨-, -, hright, -⟩ := hjoined.exists_sidebar.1 hsidebar
    rw [hjoined.right_sidebar] at hright
    omega
  · rw [hjoined.below] at htop
    omega
  · omega

structure OverlaysConfined (v : View) (s : Shell) (completion hover cursor : List TerminalCommand) : Prop where
  frame : v.render? s = some (v.panels s ++ completion ++ hover ++ cursor)
  layers : v.Layers s completion hover cursor
  list : v.Confined (s.editor.completion?.elim [] listRows) completion
  card : v.Confined (s.editor.hover?.elim [] hoverRows) hover
  outside : ∀ t : Terminal, t.width = v.width → t.height = v.height → ∀ x y, ¬ v.layout.editor.Covers x y →
    (t.execAll (v.panels s ++ completion ++ hover ++ cursor)).cell x y = (t.execAll (v.panels s)).cell x y
  beside : ∀ x y, Beside v.layout x y → ¬ v.layout.editor.Covers x y
  /-- Words of 64 bits are enough for a tab width up to 16 in a text of less than 2^59 characters. -/
  words : ∀ bound, maxCoordinate + numbersWidth + s.editor.document.text.length * max v.options.tabWidth 1 < bound →
    v.FitsWords bound s.editor

theorem overlaysConfined (v : View) (s : Shell) (hv : v.InRange)
    (hcaret : s.editor.document.Holds s.editor.caret)
    : ∃ completion hover cursor, v.OverlaysConfined s completion hover cursor := by
  obtain ⟨frame, hframe⟩ := Option.isSome_iff_exists.1 (render?_isSome hcaret v)
  obtain ⟨completion, hover, cursor, hlayers, rfl⟩ := render?_cases hframe
  have hlist := confined_drawCompletion? hv hlayers.list
  have hcard := confined_drawHover? hv hlayers.card
  have houtside : ∀ t : Terminal, t.width = v.width → t.height = v.height → ∀ x y, ¬ v.layout.editor.Covers x y →
      (t.execAll (v.panels s ++ completion ++ hover ++ cursor)).cell x y = (t.execAll (v.panels s)).cell x y := by
    intro t hwidth hheight x y hcell
    have hpanels := t.size_execAll (v.panels s)
    have hlisted := (t.execAll (v.panels s)).size_execAll completion
    rw [hwidth, hheight] at hpanels
    rw [hpanels.1, hpanels.2] at hlisted
    rw [Terminal.execAll_append, Terminal.execAll_append, Terminal.execAll_append]
    rw [cell_drawCursor? hlayers.place]
    rw [hcard.cells _ hlisted.1 hlisted.2 x y hcell]
    exact hlist.cells _ hpanels.1 hpanels.2 x y hcell
  exact ⟨completion, hover, cursor,
    ⟨hframe, hlayers, hlist, hcard, houtside, fun _ _ => not_covers_of_beside hv, fun _ => fitsWords hv⟩⟩

def overlaid : Shell :=
  let s := Shell.start Shell.builtIn "vs-dark"
  { s with
    editor :=
      { s.editor with
        completion? := some { items := [⟨"print", "print ", "Print"⟩], selected := 0, typed? := none, anchor := {} }
        hover? := some ⟨"**print**", {}⟩ } }

theorem holds_overlaid : overlaid.editor.document.Holds overlaid.editor.caret :=
  ⟨25, by decide +kernel, by decide⟩

theorem overlaysConfined_overlaid
    : ∃ completion hover cursor, (View.mk 80 24 {}).OverlaysConfined overlaid completion hover cursor
        ∧ (View.mk 80 24 {}).FitsWords 18446744073709551616 overlaid.editor := by
  obtain ⟨completion, hover, cursor, hconfined⟩ :=
    overlaysConfined (View.mk 80 24 {}) overlaid ⟨by decide, by decide⟩ holds_overlaid
  exact ⟨completion, hover, cursor, hconfined, hconfined.words _ (by decide +kernel)⟩

end Frame

end View

end Workbench
