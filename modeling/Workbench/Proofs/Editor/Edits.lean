import Workbench.Input.Handle
import Workbench.Proofs.Editor.Moves

/-!
What keys do to the document: they leave it as it is, or note that its text has changed. The file that it
belongs to stays the same.
-/

namespace Workbench
namespace Document

def Edited (d d' : Document) : Prop :=
  d' = d ∨ d'.path? = d.path? ∧ d'.dirty = true

variable {d d' d'' : Document}

theorem Edited.refl (d : Document) : d.Edited d :=
  .inl rfl

theorem Edited.trans (h : d.Edited d') (h' : d'.Edited d'') : d.Edited d'' := by
  cases h' with
  | inl hsame =>
    rw [hsame]
    exact h
  | inr hdirty =>
    refine .inr ⟨?_, hdirty.2⟩
    rw [hdirty.1]
    cases h with
    | inl hsame => rw [hsame]
    | inr hpath => exact hpath.1

theorem edited_insert? {line column : Nat} {cs : List Char} (h : d.insert? line column cs = some d')
    : d.Edited d' := by
  unfold insert? at h
  obtain ⟨i, -, h⟩ := Option.bind_eq_some_iff.1 h
  split at h
  · cases h
    exact .inr ⟨rfl, rfl⟩
  · contradiction

theorem edited_deleteRange? {line start stop : Nat} (h : d.deleteRange? line start stop = some d')
    : d.Edited d' := by
  unfold deleteRange? at h
  split at h
  · cases h
    exact .refl d
  · obtain ⟨i, -, rfl⟩ := Option.map_eq_some_iff.1 h
    split
    · exact .inr ⟨rfl, rfl⟩
    · exact .refl d

theorem edited_deleteBefore? {line column : Nat} (h : d.deleteBefore? line column = some d')
    : d.Edited d' := by
  unfold deleteBefore? at h
  obtain ⟨i, -, h⟩ := Option.bind_eq_some_iff.1 h
  split at h
  · cases h
    exact .refl d
  · split at h
    · cases h
      exact .inr ⟨rfl, rfl⟩
    · contradiction

end Document

namespace Editor

open Document

variable {e e' : Editor} {r : Registry} {key : Key}

theorem document_refreshCompletion (e : Editor) (r : Registry)
    : (e.refreshCompletion r).document = e.document := by
  unfold refreshCompletion
  split
  · rfl
  · rfl

theorem edited_of_eq (h : e'.document = e.document) : e.document.Edited e'.document :=
  .inl h

theorem Moved.edited (h : e.Moved e') : e.document.Edited e'.document :=
  edited_of_eq h.document

theorem edited_enterNormalMode? (h : e.enterNormalMode? = some e') : e.document.Edited e'.document :=
  (moved_enterNormalMode? h).edited

theorem edited_appendAtLineEnd? (h : e.appendAtLineEnd? = some e') : e.document.Edited e'.document := by
  obtain ⟨m, hm, rfl⟩ := Option.map_eq_some_iff.1 h
  exact (moved_moveToLineEnd? hm).edited

theorem edited_insertChar? {c : Char} (h : e.insertChar? c = some e')
    : e.document.Edited e'.document := by
  obtain ⟨d, hd, rfl⟩ := Option.map_eq_some_iff.1 h
  exact edited_insert? hd

theorem edited_insertNewline? (h : e.insertNewline? = some e') : e.document.Edited e'.document := by
  obtain ⟨d, hd, rfl⟩ := Option.map_eq_some_iff.1 h
  exact edited_insert? hd

theorem edited_deleteBackward? (h : e.deleteBackward? = some e')
    : e.document.Edited e'.document := by
  unfold deleteBackward? at h
  split at h
  · obtain ⟨d, hd, rfl⟩ := Option.map_eq_some_iff.1 h
    exact edited_deleteBefore? hd
  · split at h
    · obtain ⟨n, -, h⟩ := Option.bind_eq_some_iff.1 h
      obtain ⟨d, hd, rfl⟩ := Option.map_eq_some_iff.1 h
      exact edited_deleteBefore? hd
    · cases h
      exact .refl e.document

theorem edited_openLineBelow? (h : e.openLineBelow? = some e') : e.document.Edited e'.document := by
  obtain ⟨m, hm, rfl⟩ := Option.map_eq_some_iff.1 h
  obtain ⟨l, hl, hm⟩ := Option.bind_eq_some_iff.1 hm
  have hend := (moved_moveToLineEnd? hl).edited
  have hedited := hend.trans (edited_insertNewline? hm)
  exact hedited

theorem edited_acceptCompletion? (h : e.acceptCompletion? = some e')
    : e.document.Edited e'.document := by
  unfold acceptCompletion? at h
  split at h
  · cases h
    exact .refl e.document
  · dsimp only at h
    split at h
    · cases h
      exact .refl e.document
    · split at h
      · obtain ⟨d, hd, rfl⟩ := Option.map_eq_some_iff.1 h
        exact edited_insert? hd
      · obtain ⟨d, hd, h⟩ := Option.bind_eq_some_iff.1 h
        obtain ⟨d', hd', rfl⟩ := Option.map_eq_some_iff.1 h
        exact (edited_deleteRange? hd).trans (edited_insert? hd')

theorem edited_normalKey? (h : e.normalKey? r key = some e') : e.document.Edited e'.document := by
  unfold normalKey? at h
  split at h
  · cases h
    exact .refl e.document
  · cases h
    exact .refl e.document
  · cases h
    exact .refl e.document
  · exact (moved_moveDown? h).edited
  · exact (moved_moveDown? h).edited
  · exact (moved_moveUp? h).edited
  · exact (moved_moveUp? h).edited
  · exact (moved_moveRight? h).edited
  · exact (moved_moveRight? h).edited
  · cases h
    exact .refl e.document
  · cases h
    exact .refl e.document
  · exact (moved_moveToLineEnd? h).edited
  · exact (moved_moveToLineEnd? h).edited
  · exact (moved_moveToFirstLine? h).edited
  · exact (moved_moveToLastLine? h).edited
  · cases h
    exact .refl e.document
  · exact edited_appendAtLineEnd? h
  · exact edited_openLineBelow? h
  · cases h
    exact .refl e.document
  · cases h
    exact .refl e.document
  · cases h
    exact .refl e.document

theorem edited_typingKey? (h : e.typingKey? r key = some e') : e.document.Edited e'.document := by
  unfold typingKey? at h
  generalize key.code = code at h
  cases code with
  | esc => exact edited_enterNormalMode? h
  | tab =>
    cases h
    exact .refl e.document
  | char c =>
    dsimp only at h
    split at h
    · cases h
      exact .refl e.document
    · obtain ⟨m, hm, rfl⟩ := Option.map_eq_some_iff.1 h
      rw [document_refreshCompletion]
      exact edited_insertChar? hm
  | backspace =>
    obtain ⟨m, hm, rfl⟩ := Option.map_eq_some_iff.1 h
    rw [document_refreshCompletion]
    exact edited_deleteBackward? hm
  | enter => exact edited_insertNewline? h
  | left =>
    cases h
    exact .refl e.document
  | right => exact (moved_moveRight? h).edited
  | up => exact (moved_moveUp? h).edited
  | down => exact (moved_moveDown? h).edited
  | backTab | home | endKey | delete | insert | pageUp | pageDown | function n =>
    cases h
    exact .refl e.document

theorem edited_insertKey? (h : e.insertKey? r key = some e') : e.document.Edited e'.document := by
  unfold insertKey? at h
  split at h
  · cases h
    exact .refl e.document
  · cases h
    exact .refl e.document
  · exact edited_acceptCompletion? h
  · exact edited_acceptCompletion? h
  · cases h
    exact .refl e.document
  · exact edited_typingKey? h

end Editor

namespace Shell

open Document

variable {s s' : Shell} {key : Key} {a? : Option ShellAction}

theorem edited_commandKey? (h : s.commandKey? key = some (s', a?))
    : s.editor.document.Edited s'.editor.document := by
  unfold commandKey? at h
  dsimp only at h
  split at h
  · obtain ⟨e, he, h⟩ := Option.map_eq_some_iff.1 h
    cases h
    exact Editor.edited_enterNormalMode? he
  · obtain ⟨e, he, h⟩ := Option.map_eq_some_iff.1 h
    split at h
    · cases h
      exact Editor.edited_enterNormalMode? he
    · cases h
      exact Editor.edited_enterNormalMode? he
  · obtain ⟨e, he, h⟩ := Option.map_eq_some_iff.1 h
    cases h
    split at he
    · exact Editor.edited_enterNormalMode? he
    · cases he
      exact .refl s.editor.document
  · cases h
    exact .refl s.editor.document
  · cases h
    exact .refl s.editor.document

theorem document_functionsKey (s : Shell) (key : Key)
    : (s.functionsKey key).1.editor.document = s.editor.document := by
  unfold functionsKey
  split <;> rfl

theorem document_toggleFocus (s : Shell) : s.toggleFocus.editor.document = s.editor.document := by
  unfold toggleFocus
  dsimp only
  split
  · rfl
  · rfl

theorem edited_handleKey? (h : s.handleKey? key = some (s', a?))
    : s.editor.document.Edited s'.editor.document := by
  unfold handleKey? at h
  split at h
  · cases h
    exact .refl s.editor.document
  · split at h
    · cases h
      exact Editor.edited_of_eq (document_toggleFocus s)
    · split at h
      · obtain ⟨e, he, h⟩ := Option.map_eq_some_iff.1 h
        cases h
        exact Editor.edited_normalKey? he
      · obtain ⟨e, he, h⟩ := Option.map_eq_some_iff.1 h
        cases h
        exact Editor.edited_insertKey? he
      · exact edited_commandKey? h
      · have hkey : (s.functionsKey key).1 = s' := congrArg Prod.fst (Option.some.inj h)
        rw [← hkey]
        exact Editor.edited_of_eq (document_functionsKey s key)

theorem edited_handleTerminal? {e : TerminalEvent} (h : s.handleTerminal? e = some (s', a?))
    : s.editor.document.Edited s'.editor.document := by
  unfold handleTerminal? at h
  split at h
  · split at h
    · cases h
      exact .refl s.editor.document
    · exact edited_handleKey? h
  · cases h
    exact .refl s.editor.document

theorem edited_insertFunction (s : Shell)
    : s.editor.document.Edited s.insertFunction.editor.document := by
  unfold insertFunction
  split
  · exact .refl s.editor.document
  · exact .inr ⟨rfl, rfl⟩

end Shell
end Workbench
