import Workbench.Screen.Frame

/-!
What a frame is made of: the panels, what lies over the pane of the document, and the cursor.
-/

namespace Workbench

namespace View

variable {v : View} {theme : Theme} {e : Editor} {rect : Rect} {cs : List TerminalCommand}

def listRows (popup : CompletionPopup) : List (List Char) :=
  (popup.items.drop (popup.selected - (overlayRows - 1))).map completionRow

def panels (v : View) (s : Shell) : List TerminalCommand :=
  let theme := View.theme s
  [.hideCursor, .background theme.background]
    ++ (match v.layout.sidebar? with
      | none => []
      | some rect =>
        drawSidebar theme s.functions (s.editor.mode = .functions) rect
          ++ drawSeparator theme rect.right rect.height)
    ++ v.drawEditor theme s.editor s.registry v.layout.editor
    ++ drawOutput theme s.output v.layout.output
    ++ v.drawStatus theme s v.layout.statusRow

theorem drawCompletion?_cases (h : v.drawCompletion? theme e rect = some cs)
    : cs = [] ∧ (e.completion? = none ∨ v.caretCell? e rect = some none)
      ∨ ∃ popup x y, e.completion? = some popup ∧ v.caretCell? e rect = some (some (x, y))
        ∧ cs = drawBox theme (listRows popup) (some (min popup.selected (overlayRows - 1))) x
          (addCoordinates y 1) rect := by
  unfold drawCompletion? at h
  split at h
  next hnone =>
    cases h
    exact .inl ⟨rfl, .inl hnone⟩
  next popup hpopup =>
    obtain ⟨cell?, hcell, rfl⟩ := Option.map_eq_some_iff.1 h
    split
    next => exact .inl ⟨rfl, .inr hcell⟩
    next x y =>
      have hindex : popup.selected - (popup.selected - (overlayRows - 1)) = min popup.selected (overlayRows - 1) := by
        omega
      refine .inr ⟨popup, x, y, hpopup, hcell, ?_⟩
      dsimp only
      rw [hindex]
      rfl

theorem drawHover?_cases (h : v.drawHover? theme e rect = some cs)
    : cs = [] ∧ (e.hover? = none ∨ v.caretCell? e rect = some none)
      ∨ ∃ hover x y, e.hover? = some hover ∧ v.caretCell? e rect = some (some (x, y))
        ∧ cs = drawBox theme (hoverRows hover) none
          (hoverOrigin rect v.gutterWidth hover.anchor.column y (hoverRows hover).length).1
          (hoverOrigin rect v.gutterWidth hover.anchor.column y (hoverRows hover).length).2 rect := by
  unfold drawHover? at h
  split at h
  next hnone =>
    cases h
    exact .inl ⟨rfl, .inl hnone⟩
  next hover hhover =>
    obtain ⟨cell?, hcell, rfl⟩ := Option.map_eq_some_iff.1 h
    split
    next => exact .inl ⟨rfl, .inr hcell⟩
    next x y => exact .inr ⟨hover, x, y, hhover, hcell, rfl⟩

theorem drawCursor?_cases {layout : ScreenLayout} (h : v.drawCursor? e layout = some cs)
    : cs = [] ∨ cs = [.hideCursor] ∨ ∃ x y shape, cs = [.moveTo x y, .cursorShape shape, .showCursor] := by
  unfold drawCursor? at h
  split at h
  next =>
    cases h
    exact .inr (.inr ⟨_, _, _, rfl⟩)
  next =>
    cases h
    exact .inr (.inl rfl)
  next =>
    obtain ⟨cell?, -, rfl⟩ := Option.map_eq_some_iff.1 h
    split
    next => exact .inl rfl
    next => exact .inr (.inr ⟨_, _, _, rfl⟩)

structure Layers (v : View) (s : Shell) (completion hover cursor : List TerminalCommand) : Prop where
  list : v.drawCompletion? (View.theme s) s.editor v.layout.editor = some completion
  card : v.drawHover? (View.theme s) s.editor v.layout.editor = some hover
  place : v.drawCursor? s.editor v.layout = some cursor

theorem render?_cases {s : Shell} {frame : List TerminalCommand} (h : v.render? s = some frame)
    : ∃ completion hover cursor,
        v.Layers s completion hover cursor ∧ frame = v.panels s ++ completion ++ hover ++ cursor := by
  unfold render? at h
  dsimp only at h
  simp only [Option.bind_eq_bind, Option.bind_eq_some_iff] at h
  obtain ⟨completion, hcompletion, hover, hhover, cursor, hcursor, hframe⟩ := h
  cases hframe
  exact ⟨completion, hover, cursor, ⟨hcompletion, hhover, hcursor⟩, rfl⟩

end View

end Workbench
