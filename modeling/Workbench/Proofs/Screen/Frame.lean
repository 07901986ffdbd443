import Workbench.Proofs.Screen.Legible
import Workbench.Proofs.Screen.Panels
import Workbench.Proofs.Screen.Panes
import Workbench.Proofs.Shell.Steady

/-!
A frame covers the screen: whatever the screen has shown before, it shows the same after the frame, and no
attribute is left.
-/

namespace Workbench

namespace View

section Cover

variable {width height : Nat} {known : Region}

theorem leading_drawBox (theme : Theme) (rows : List (List Char)) (selected : Option Nat) (x y : Nat) (area : Rect)
    : Leading (Alike width height known none Pens.grounded) (drawBox theme rows selected x y area)
        (Alike width height known none Pens.grounded) := by
  unfold drawBox
  dsimp only
  split
  next => exact .nil fun _ _ h => h
  next =>
    have hrow (x y : Nat) (ground : Color) (text : List Char)
        : Leading (Alike width height known none Pens.inked) [.moveTo x y, .background ground, .print text]
            (Alike width height known none Pens.inked) := by
      refine .cons (Alike.moveTo x y) (.cons (Alike.background_inked ground) ?_)
      refine (Alike.print (fun _ _ => Pens.eq_of_inked) text).weaken fun t₁ t₂ => ?_
      exact Alike.mono (fun _ _ _ _ h => .inl h) fun _ _ h => h
    refine .cons (Alike.foreground (fun _ _ h => h) _) ?_
    refine (Leading.flatMap fun row _ => hrow _ _ _ _).append ?_
    exact Alike.background (fun _ _ h => Pens.plain_of_grounded (Pens.grounded_of_inked h)) _

theorem leading_drawCompletion? {v : View} {theme : Theme} {e : Editor} {rect : Rect} {cs : List TerminalCommand}
    (h : v.drawCompletion? theme e rect = some cs)
    : Leading (Alike width height known none Pens.grounded) cs (Alike width height known none Pens.grounded) := by
  rcases drawCompletion?_cases h with ⟨rfl, -⟩ | ⟨popup, x, y, -, -, rfl⟩
  · exact .nil fun _ _ h => h
  · exact leading_drawBox _ _ _ _ _ _

theorem leading_drawHover? {v : View} {theme : Theme} {e : Editor} {rect : Rect} {cs : List TerminalCommand}
    (h : v.drawHover? theme e rect = some cs)
    : Leading (Alike width height known none Pens.grounded) cs (Alike width height known none Pens.grounded) := by
  rcases drawHover?_cases h with ⟨rfl, -⟩ | ⟨hover, x, y, -, -, rfl⟩
  · exact .nil fun _ _ h => h
  · exact leading_drawBox _ _ _ _ _ _

theorem leading_drawCursor? {v : View} {e : Editor} {layout : ScreenLayout} {cs : List TerminalCommand}
    (h : v.drawCursor? e layout = some cs)
    : Leading (Alike width height known none Pens.grounded) cs (Alike width height known none Pens.grounded) := by
  rcases drawCursor?_cases h with rfl | rfl | ⟨x, y, shape, rfl⟩
  · exact .nil fun _ _ h => h
  · exact Alike.idle fun _ => rfl
  · refine .cons (Alike.moveTo x y) (.cons (Alike.idle fun _ => rfl) ?_)
    exact (Alike.idle fun _ => rfl).weaken fun t₁ t₂ => Alike.mono (fun _ _ _ _ h => h) fun _ _ h => h

theorem leading_sides (v : View) (theme : Theme) (s : Shell)
    : Leading (Alike width height known none Pens.grounded)
        (match v.layout.sidebar? with
          | none => []
          | some rect =>
            drawSidebar theme s.functions (s.editor.mode = .functions) rect
              ++ drawSeparator theme rect.right rect.height)
        (Alike width height (known.plus (Region.block 0 0 v.layout.editor.x v.layout.statusRow)) none
          Pens.grounded) := by
  have hjoined := v.joined_layout
  rw [hjoined.sidebar]
  by_cases hshown : 0 < v.layout.editor.x
  · rw [if_pos hshown]
    refine ((leading_drawSidebar theme _ _ _).append (leading_drawSeparator theme _ _)).weaken fun t₁ t₂ => ?_
    refine Alike.mono ?_ fun _ _ h => h
    intro column row _ _ hin
    rw [hjoined.right_sidebar]
    unfold Region.block at hin ⊢
    grind
  · rw [if_neg hshown]
    refine .nil fun t₁ t₂ => Alike.mono ?_ fun _ _ h => h
    intro column row _ _ hin
    unfold Region.block at hin
    exact hin.resolve_right (by omega)

theorem covered_of_layout (v : View) {column row : Nat} (hcolumn : column < v.width) (hrow : row < v.height)
    : Region.block 0 0 v.layout.editor.x v.layout.statusRow column row ∨
        Region.block v.layout.editor.x v.layout.editor.y v.layout.editor.width v.layout.editor.height column row ∨
        Region.block v.layout.output.x v.layout.output.y v.layout.output.width v.layout.output.height column row ∨
        row = v.layout.statusRow := by
  obtain ⟨hstatus, htop, hright, hbelow, hbottom, hx, hwidth, -, -⟩ := v.joined_layout
  unfold Region.block
  omega

theorem leading_render? {v : View} {s : Shell} {frame : List TerminalCommand} (h : v.render? s = some frame)
    : Leading (Alike v.width v.height (fun _ _ => False) none Pens.plain) frame
        (Alike v.width v.height (fun _ _ => True) none Pens.grounded) := by
  obtain ⟨completion, hover, cursor, hlayers, rfl⟩ := render?_cases h
  have hstart : Leading (Alike v.width v.height (fun _ _ => False) none Pens.plain)
      [.hideCursor, .background (theme s).background]
      (Alike v.width v.height (fun _ _ => False) none Pens.grounded) :=
    .cons (Alike.idle fun _ => rfl) (Alike.background (fun _ _ h => h) _)
  have hpanels := (((hstart.append (leading_sides v (theme s) s)).append
    (v.leading_drawEditor (theme s) s.editor s.registry v.layout.editor)).append
    (leading_drawOutput (theme s) s.output v.layout.output)).append
    (v.leading_drawStatus (theme s) s v.layout.statusRow)
  have hoverlays := ((hpanels.append (leading_drawCompletion? hlayers.list)).append
    (leading_drawHover? hlayers.card)).append (leading_drawCursor? hlayers.place)
  refine hoverlays.weaken fun t₁ t₂ => Alike.mono ?_ fun _ _ h => h
  intro column row hcolumn hrow _
  rcases v.covered_of_layout hcolumn hrow with hsides | heditor | houtput | hstatus
  · exact .inl (.inl (.inl (.inr hsides)))
  · exact .inl (.inl (.inr heditor))
  · exact .inl (.inr houtput)
  · exact .inr hstatus

end Cover

theorem render?_isSome {s : Shell} (h : s.editor.document.Holds s.editor.caret) (v : View)
    : (v.render? s).isSome := by
  have hcell (rect : Rect) := Option.isSome_iff_exists.1 (caretCell?_isSome h v rect)
  have hcompletion : ∃ cs, v.drawCompletion? (theme s) s.editor v.layout.editor = some cs := by
    unfold drawCompletion?
    split
    next => exact ⟨_, rfl⟩
    next =>
      obtain ⟨cell?, hcell⟩ := hcell v.layout.editor
      rw [hcell]
      exact ⟨_, rfl⟩
  have hhover : ∃ cs, v.drawHover? (theme s) s.editor v.layout.editor = some cs := by
    unfold drawHover?
    split
    next => exact ⟨_, rfl⟩
    next =>
      obtain ⟨cell?, hcell⟩ := hcell v.layout.editor
      rw [hcell]
      exact ⟨_, rfl⟩
  have hcursor : ∃ cs, v.drawCursor? s.editor v.layout = some cs := by
    unfold drawCursor?
    split
    next => exact ⟨_, rfl⟩
    next => exact ⟨_, rfl⟩
    next =>
      obtain ⟨cell?, hcell⟩ := hcell v.layout.editor
      rw [hcell]
      exact ⟨_, rfl⟩
  obtain ⟨completion, hcompletion⟩ := hcompletion
  obtain ⟨hover, hhover⟩ := hhover
  obtain ⟨cursor, hcursor⟩ := hcursor
  unfold render?
  dsimp only
  rw [hcompletion, hhover, hcursor]
  rfl

theorem render?_covers (v : View) (s : Shell) (hcaret : s.editor.document.Holds s.editor.caret)
    (hlegible : s.Legible)
    : ∃ frame, v.render? s = some frame ∧
        ∀ t₁ t₂ : Terminal, t₁.width = v.width ∧ t₁.height = v.height →
          t₂.width = v.width ∧ t₂.height = v.height → t₁.pen.Plain → t₂.pen.Plain →
            let text := TerminalCommand.encodeAll frame
            (∀ x y, x < v.width → y < v.height → (t₁.feed text).cell x y = (t₂.feed text).cell x y) ∧
              (t₁.feed text).pen.Plain ∧ (t₂.feed text).pen.Plain := by
  obtain ⟨frame, hframe⟩ := Option.isSome_iff_exists.1 (render?_isSome hcaret v)
  refine ⟨frame, hframe, ?_⟩
  intro t₁ t₂ hsize₁ hsize₂ hplain₁ hplain₂
  dsimp only
  have hfirst : Alike v.width v.height (fun _ _ => False) none Pens.plain t₁ t₂ := by
    refine ⟨hsize₁, hsize₂, ?_, ?_, hplain₁, hplain₂⟩
    · intro x y _ _ hknown
      exact hknown.elim
    · intro place hplace
      cases hplace
  have hlast := leading_render? hframe t₁ t₂ hfirst
  have hprinted := allLegible_render? hlegible hframe
  rw [Terminal.feed_encodeAll hprinted, Terminal.feed_encodeAll hprinted]
  exact ⟨fun x y hx hy => hlast.cells x y hx hy trivial, hlast.pens.1, hlast.pens.2.1⟩

theorem legible_start : (Shell.start Shell.builtIn "vs-dark").Legible where
  lines := by decide +kernel
  output := by decide +kernel
  functions := by decide +kernel
  documentName := by decide +kernel
  theme := by decide +kernel
  commandLine := by decide +kernel
  completion := by
    intro popup hpopup
    cases hpopup
  hover := by
    intro hover hhover
    cases hhover

theorem render?_covers_start
    : ∃ frame, (View.mk 80 24 {}).render? (Shell.start Shell.builtIn "vs-dark") = some frame ∧
        ∀ x y, x < 80 → y < 24 →
          ((Terminal.mk 80 24 (fun _ _ => {}) 0 0 {}).feed (TerminalCommand.encodeAll frame)).cell x y
            = ((Terminal.mk 80 24 (fun _ _ => { char := 'x' }) 7 3 { foreground? := some Color.white }).feed
                (TerminalCommand.encodeAll frame)).cell x y := by
  have hcaret : (Shell.start Shell.builtIn "vs-dark").editor.document.Holds
      (Shell.start Shell.builtIn "vs-dark").editor.caret := ⟨25, by decide +kernel, by decide⟩
  obtain ⟨frame, hframe, hcovers⟩ :=
    render?_covers (View.mk 80 24 {}) (Shell.start Shell.builtIn "vs-dark") hcaret legible_start
  refine ⟨frame, hframe, ?_⟩
  exact (hcovers _ _ ⟨rfl, rfl⟩ ⟨rfl, rfl⟩ ⟨rfl, rfl, rfl⟩ ⟨rfl, rfl, rfl⟩).1

end View

end Workbench
