import Workbench.Editor.Editor

/-!
The operations of the editor that only move the caret or change what pops up.
-/

namespace Workbench.Editor

variable {e m e' : Editor}

/-- At most the caret and what pops up have changed, and no list of completions has come up. -/
structure Moved (e e' : Editor) : Prop where
  document : e'.document = e.document
  language : e'.language? = e.language?
  mode : e'.mode = e.mode
  listed : e'.completion? = e.completion? ∨ e'.completion? = none

theorem Moved.refl (e : Editor) : e.Moved e :=
  ⟨rfl, rfl, rfl, .inl rfl⟩

theorem Moved.trans (h : e.Moved m) (h' : m.Moved e') : e.Moved e' where
  document := h'.document.trans h.document
  language := h'.language.trans h.language
  mode := h'.mode.trans h.mode
  listed := by
    cases h'.listed with
    | inl hsame =>
      rw [hsame]
      exact h.listed
    | inr hnone => exact .inr hnone

theorem moved_caret (e : Editor) (p : Text.Position) : e.Moved { e with caret := p } :=
  ⟨rfl, rfl, rfl, .inl rfl⟩

theorem moved_closeHover (e : Editor) : e.Moved e.closeHover :=
  ⟨rfl, rfl, rfl, .inl rfl⟩

theorem moved_closePopups (e : Editor) : e.Moved e.closePopups :=
  ⟨rfl, rfl, rfl, .inr rfl⟩

theorem moved_showHover (e : Editor) (r : Registry) : e.Moved (e.showHover r) :=
  ⟨rfl, rfl, rfl, .inr rfl⟩

theorem moved_moveLeft (e : Editor) : e.Moved e.moveLeft :=
  (e.moved_caret e.caret.left).trans (moved_closeHover _)

theorem moved_moveToLineStart (e : Editor) : e.Moved e.moveToLineStart :=
  e.moved_caret _

theorem moved_clampColumn? (h : e.clampColumn? = some e') : e.Moved e' := by
  obtain ⟨n, -, rfl⟩ := Option.map_eq_some_iff.1 h
  exact e.moved_caret _

theorem moved_moveToLineEnd? (h : e.moveToLineEnd? = some e') : e.Moved e' := by
  obtain ⟨n, -, rfl⟩ := Option.map_eq_some_iff.1 h
  exact e.moved_caret _

theorem moved_moveToFirstLine? (h : e.moveToFirstLine? = some e') : e.Moved e' :=
  (e.moved_caret _).trans (moved_clampColumn? h)

theorem moved_moveToLastLine? (h : e.moveToLastLine? = some e') : e.Moved e' :=
  (e.moved_caret _).trans (moved_clampColumn? h)

theorem moved_moveRight? (h : e.moveRight? = some e') : e.Moved e' := by
  obtain ⟨n, -, rfl⟩ := Option.map_eq_some_iff.1 h
  exact (e.moved_caret _).trans (moved_closeHover _)

theorem moved_moveUp? (h : e.moveUp? = some e') : e.Moved e' := by
  obtain ⟨m, hm, rfl⟩ := Option.map_eq_some_iff.1 h
  exact ((e.moved_caret _).trans (moved_clampColumn? hm)).trans (moved_closeHover m)

theorem moved_moveDown? (h : e.moveDown? = some e') : e.Moved e' := by
  obtain ⟨m, hm, rfl⟩ := Option.map_eq_some_iff.1 h
  exact ((e.moved_caret _).trans (moved_clampColumn? hm)).trans (moved_closeHover m)

theorem moved_enterNormalMode? (h : e.enterNormalMode? = some e')
    : Moved { e with mode := .normal } e' := by
  obtain ⟨m, hm, rfl⟩ := Option.map_eq_some_iff.1 h
  have hline : Moved { e with mode := .normal } { e with mode := .normal, commandLine := [] } :=
    ⟨rfl, rfl, rfl, .inl rfl⟩
  exact (hline.trans (moved_clampColumn? hm)).trans (moved_closePopups m)

end Workbench.Editor
