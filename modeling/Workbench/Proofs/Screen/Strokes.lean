import Workbench.Screen.Terminal

/-!
What commands draw: a stroke for each printed character, with its place and its pen. A terminal changes in the
cells of the strokes alone, and a text for which there is room on the screen is drawn in one row.
-/

namespace Workbench

structure Stroke where
  column : Nat
  row : Nat
  cell : Cell
deriving DecidableEq, Repr

def Stroke.ofText (x y : Nat) (pen : Pen) : List Char → List Stroke
  | [] => []
  | c :: cs => ⟨x, y, ⟨c, pen⟩⟩ :: ofText (x + 1) y pen cs

def TerminalCommand.Inks : TerminalCommand → Prop
  | clearLine | clearScreen => False
  | _ => True

namespace Terminal

variable {t : Terminal} {x y : Nat} {pen : Pen} {text : List Char}

def textStrokes (t : Terminal) : List Char → List Stroke
  | [] => []
  | c :: cs => ⟨t.column, t.row, ⟨c, t.pen⟩⟩ :: (t.put c).textStrokes cs

def commandStrokes (t : Terminal) : TerminalCommand → List Stroke
  | .print text => t.textStrokes text
  | _ => []

def strokes (t : Terminal) : List TerminalCommand → List Stroke
  | [] => []
  | c :: cs => t.commandStrokes c ++ (t.exec c).strokes cs

@[simp] theorem execAll_nil (t : Terminal) : t.execAll [] = t :=
  rfl

@[simp] theorem execAll_cons (t : Terminal) (c : TerminalCommand) (cs : List TerminalCommand)
    : t.execAll (c :: cs) = (t.exec c).execAll cs :=
  rfl

@[simp] theorem execAll_append (t : Terminal) (cs ds : List TerminalCommand)
    : t.execAll (cs ++ ds) = (t.execAll cs).execAll ds :=
  List.foldl_append

@[simp] theorem strokes_nil (t : Terminal) : t.strokes [] = [] :=
  rfl

theorem strokes_cons (t : Terminal) (c : TerminalCommand) (cs : List TerminalCommand)
    : t.strokes (c :: cs) = t.commandStrokes c ++ (t.exec c).strokes cs :=
  rfl

theorem strokes_append (t : Terminal) (cs ds : List TerminalCommand)
    : t.strokes (cs ++ ds) = t.strokes cs ++ (t.execAll cs).strokes ds := by
  induction cs generalizing t with
  | nil => rfl
  | cons c cs ih =>
    rw [List.cons_append, strokes_cons, strokes_cons, execAll_cons]
    rw [ih, List.append_assoc]

theorem size_exec (t : Terminal) (c : TerminalCommand)
    : (t.exec c).width = t.width ∧ (t.exec c).height = t.height := by
  cases c with
  | print text =>
    unfold exec
    induction text generalizing t with
    | nil => exact ⟨rfl, rfl⟩
    | cons c text ih => exact ih (t.put c)
  | _ => exact ⟨rfl, rfl⟩

theorem size_execAll (t : Terminal) (cs : List TerminalCommand)
    : (t.execAll cs).width = t.width ∧ (t.execAll cs).height = t.height := by
  induction cs generalizing t with
  | nil => exact ⟨rfl, rfl⟩
  | cons c cs ih =>
    rw [execAll_cons, (ih _).1, (ih _).2]
    exact t.size_exec c

@[simp] theorem pen_print (t : Terminal) (text : List Char) : (t.exec (.print text)).pen = t.pen := by
  unfold exec
  induction text generalizing t with
  | nil => rfl
  | cons c text ih => exact ih (t.put c)

theorem map_cell_textStrokes (t : Terminal) (text : List Char)
    : (t.textStrokes text).map (·.cell) = text.map (⟨·, t.pen⟩) := by
  induction text generalizing t with
  | nil => rfl
  | cons c text ih =>
    unfold textStrokes
    rw [List.map_cons, List.map_cons, ih]
    rfl

theorem textStrokes_of_room (h : t.column + text.length ≤ t.width)
    : t.textStrokes text = Stroke.ofText t.column t.row t.pen text := by
  induction text generalizing t with
  | nil => rfl
  | cons c text ih =>
    rw [List.length_cons] at h
    unfold textStrokes Stroke.ofText
    cases text with
    | nil => rfl
    | cons d text =>
      rw [List.length_cons] at h
      have hcolumn : (t.put c).column = t.column + 1 := by
        unfold put
        dsimp only
        omega
      rw [ih (by rw [hcolumn, List.length_cons]; unfold put; dsimp only; omega)]
      rw [hcolumn]
      rfl

theorem strokes_moveTo_print (color : Color) (h : x + text.length ≤ t.width) (hy : y < t.height)
    : t.strokes [.moveTo x y, .background color, .print text]
        = Stroke.ofText x y { t.pen with background? := some color } text := by
  cases text with
  | nil => rfl
  | cons c text =>
    rw [List.length_cons] at h
    have hplace : min x (t.width - 1) = x ∧ min y (t.height - 1) = y := by omega
    have hroom : (((t.exec (.moveTo x y)).exec (.background color)).column + (c :: text).length
        ≤ ((t.exec (.moveTo x y)).exec (.background color)).width) := by
      unfold exec moveTo
      dsimp only
      rw [hplace.1, List.length_cons]
      exact h
    have hdraws : t.strokes [.moveTo x y, .background color, .print (c :: text)]
        = ((t.exec (.moveTo x y)).exec (.background color)).textStrokes (c :: text) := by
      exact List.append_nil _
    rw [hdraws, textStrokes_of_room hroom]
    unfold exec moveTo
    dsimp only
    rw [hplace.1, hplace.2]

theorem cell_execAll {cs : List TerminalCommand} (hcs : ∀ c ∈ cs, c.Inks)
    (h : ∀ s ∈ t.strokes cs, ¬ (s.column = x ∧ s.row = y))
    : (t.execAll cs).cell x y = t.cell x y := by
  have hprint (t : Terminal) (text : List Char) (h : ∀ s ∈ t.textStrokes text, ¬ (s.column = x ∧ s.row = y))
      : (text.foldl put t).cell x y = t.cell x y := by
    induction text generalizing t with
    | nil => rfl
    | cons c text ih =>
      unfold textStrokes at h
      rw [List.forall_mem_cons] at h
      rw [List.foldl_cons, ih _ h.2]
      exact if_neg fun hplace => h.1 ⟨hplace.1.symm, hplace.2.symm⟩
  induction cs generalizing t with
  | nil => rfl
  | cons c cs ih =>
    rw [strokes_cons, List.forall_mem_append] at h
    rw [List.forall_mem_cons] at hcs
    rw [execAll_cons, ih hcs.2 h.2]
    cases c with
    | print text => exact hprint t text h.1
    | clearLine => exact hcs.1.elim
    | clearScreen => exact hcs.1.elim
    | _ => rfl

end Terminal

namespace Stroke

variable {x y : Nat} {pen : Pen} {text : List Char} {s : Stroke}

theorem mem_ofText (h : s ∈ ofText x y pen text)
    : x ≤ s.column ∧ s.column < x + text.length ∧ s.row = y ∧ s.cell.pen = pen := by
  induction text generalizing x with
  | nil => cases h
  | cons c text ih =>
    unfold ofText at h
    rw [List.length_cons]
    cases List.mem_cons.1 h with
    | inl hfirst =>
      rw [hfirst]
      exact ⟨Nat.le_refl x, by dsimp only; omega, rfl, rfl⟩
    | inr hrest =>
      obtain ⟨hle, hlt, hrow, hpen⟩ := ih hrest
      exact ⟨by omega, by omega, hrow, hpen⟩

theorem ofText_ne_nil (x y : Nat) (pen : Pen) (h : text ≠ []) : ofText x y pen text ≠ [] := by
  cases text with
  | nil => contradiction
  | cons c text => exact List.cons_ne_nil _ _

end Stroke

end Workbench
