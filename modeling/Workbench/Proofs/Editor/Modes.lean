import Workbench.Proofs.Editor.HoverCard
import Workbench.Proofs.Editor.Moves

/-!
What keys do in each mode. Text is written in insert mode alone, but for the key that opens a line, and a list
of completions comes up nowhere else.
-/

namespace Workbench

def Mode.insertCodes : Mode → List KeyCode
  | normal => [.char 'i', .char 'A', .char 'o']
  | functions => [.enter]
  | insert | command => []

namespace Editor

variable {e e' : Editor} {r : Registry} {key : Key} {code : KeyCode}

def ListInInsert (e : Editor) : Prop :=
  e.completion?.isSome → e.mode = .insert

structure ModeStep (code : KeyCode) (e e' : Editor) : Prop where
  document : ¬ (e.mode = .normal ∧ code = .char 'o') → e'.document = e.document
  language : e'.language? = e.language?
  listed : e'.completion? = e.completion? ∨ e'.completion? = none
  mode : e'.mode = .insert ↔ code ∈ e.mode.insertCodes

theorem Moved.modeStep (h : e.Moved e') (hmode : e.mode ≠ .insert) (hcode : code ∉ e.mode.insertCodes)
    : ModeStep code e e' where
  document _ := h.document
  language := h.language
  listed := h.listed
  mode := by
    rw [h.mode]
    exact iff_of_false hmode hcode

theorem listInInsert_of_unlisted (h : e.completion? = none) : e.ListInInsert := by
  intro hlisted
  rw [h] at hlisted
  contradiction

theorem ListInInsert.unlisted (h : e.ListInInsert) (hmode : e.mode ≠ .insert) : e.completion? = none := by
  rw [← Option.not_isSome_iff_eq_none]
  exact mt h hmode

theorem ListInInsert.of_listed (h : e.ListInInsert) (hmode : e'.mode = e.mode)
    (hlisted : e'.completion? = e.completion? ∨ e'.completion? = none)
    : e'.ListInInsert := by
  cases hlisted with
  | inl hsame =>
    unfold ListInInsert
    rw [hsame, hmode]
    exact h
  | inr hnone => exact listInInsert_of_unlisted hnone

theorem ModeStep.listInInsert (hstep : ModeStep code e e') (h : e.ListInInsert) (hmode : e.mode ≠ .insert)
    : e'.ListInInsert := by
  apply listInInsert_of_unlisted
  cases hstep.listed with
  | inl hsame =>
    rw [hsame]
    exact h.unlisted hmode
  | inr hnone => exact hnone

section Normal

theorem modeStep_appendAtLineEnd? (hmode : e.mode = .normal) (h : e.appendAtLineEnd? = some e')
    : ModeStep (.char 'A') e e' := by
  obtain ⟨m, hm, rfl⟩ := Option.map_eq_some_iff.1 h
  have hmoved := moved_moveToLineEnd? hm
  refine ⟨fun _ => hmoved.document, hmoved.language, hmoved.listed, iff_of_true rfl ?_⟩
  rw [hmode]
  decide

theorem modeStep_openLineBelow? (hmode : e.mode = .normal) (h : e.openLineBelow? = some e')
    : ModeStep (.char 'o') e e' := by
  obtain ⟨l, hl, rfl⟩ := Option.map_eq_some_iff.1 h
  obtain ⟨m, hm, hl⟩ := Option.bind_eq_some_iff.1 hl
  obtain ⟨d, -, rfl⟩ := Option.map_eq_some_iff.1 hl
  have hmoved := moved_moveToLineEnd? hm
  refine ⟨fun hother => absurd ⟨hmode, rfl⟩ hother, hmoved.language, hmoved.listed, iff_of_true rfl ?_⟩
  rw [hmode]
  decide

theorem modeStep_normalKey? (hmode : e.mode = .normal) (h : e.normalKey? r key = some e')
    : ModeStep key.code e e' := by
  have hstays : e.mode ≠ .insert := by
    rw [hmode]
    decide
  have hmoves (hmoved : e.Moved e') (hcode : key.code ∉ Mode.normal.insertCodes) : ModeStep key.code e e' :=
    hmoved.modeStep hstays (by rw [hmode]; exact hcode)
  unfold normalKey? at h
  split at h
  · next hcode =>
    cases h
    exact hmoves e.moved_closePopups (by rw [hcode]; decide)
  · next hcode =>
    cases h
    exact hmoves e.moved_moveLeft (by rw [hcode]; decide)
  · next hcode =>
    cases h
    exact hmoves e.moved_moveLeft (by rw [hcode]; decide)
  · next hcode => exact hmoves (moved_moveDown? h) (by rw [hcode]; decide)
  · next hcode => exact hmoves (moved_moveDown? h) (by rw [hcode]; decide)
  · next hcode => exact hmoves (moved_moveUp? h) (by rw [hcode]; decide)
  · next hcode => exact hmoves (moved_moveUp? h) (by rw [hcode]; decide)
  · next hcode => exact hmoves (moved_moveRight? h) (by rw [hcode]; decide)
  · next hcode => exact hmoves (moved_moveRight? h) (by rw [hcode]; decide)
  · next hcode =>
    cases h
    exact hmoves e.moved_moveToLineStart (by rw [hcode]; decide)
  · next hcode =>
    cases h
    exact hmoves e.moved_moveToLineStart (by rw [hcode]; decide)
  · next hcode => exact hmoves (moved_moveToLineEnd? h) (by rw [hcode]; decide)
  · next hcode => exact hmoves (moved_moveToLineEnd? h) (by rw [hcode]; decide)
  · next hcode => exact hmoves (moved_moveToFirstLine? h) (by rw [hcode]; decide)
  · next hcode => exact hmoves (moved_moveToLastLine? h) (by rw [hcode]; decide)
  -- the keys that lead to other modes
  · next hcode =>
    cases h
    rw [hcode]
    exact ⟨fun _ => rfl, rfl, .inl rfl, iff_of_true rfl (by rw [hmode]; decide)⟩
  · next hcode =>
    rw [hcode]
    exact modeStep_appendAtLineEnd? hmode h
  · next hcode =>
    rw [hcode]
    exact modeStep_openLineBelow? hmode h
  · next hcode =>
    cases h
    exact hmoves (e.moved_showHover r) (by rw [hcode]; decide)
  · next hcode =>
    cases h
    rw [hcode]
    exact ⟨fun _ => rfl, rfl, .inr rfl, iff_of_false Mode.noConfusion (by rw [hmode]; decide)⟩
  · cases h
    refine hmoves (.refl e) ?_
    simp_all [Mode.insertCodes]

end Normal

section Insert

theorem mode_refreshCompletion (e : Editor) (r : Registry) : (e.refreshCompletion r).mode = e.mode := by
  unfold refreshCompletion
  split <;> rfl

theorem insert_or_unlisted_typingKey? (hmode : e.mode = .insert) (h : e.typingKey? r key = some e')
    : e'.mode = .insert ∨ e'.completion? = none := by
  unfold typingKey? at h
  generalize key.code = code at h
  cases code with
  | esc =>
    obtain ⟨m, -, rfl⟩ := Option.map_eq_some_iff.1 h
    exact .inr rfl
  | tab =>
    cases h
    exact .inl hmode
  | char c =>
    dsimp only at h
    split at h
    · cases h
      exact .inl hmode
    · obtain ⟨m, hm, rfl⟩ := Option.map_eq_some_iff.1 h
      obtain ⟨d, -, rfl⟩ := Option.map_eq_some_iff.1 hm
      exact .inl ((mode_refreshCompletion _ r).trans hmode)
  | backspace =>
    obtain ⟨m, hm, rfl⟩ := Option.map_eq_some_iff.1 h
    exact .inl ((mode_refreshCompletion m r).trans ((hover?_deleteBackward? hm).2.trans hmode))
  | enter =>
    obtain ⟨d, -, rfl⟩ := Option.map_eq_some_iff.1 h
    exact .inl hmode
  | left =>
    cases h
    exact .inl hmode
  | right => exact .inl ((moved_moveRight? h).mode.trans hmode)
  | up => exact .inl ((moved_moveUp? h).mode.trans hmode)
  | down => exact .inl ((moved_moveDown? h).mode.trans hmode)
  | backTab | home | endKey | delete | insert | pageUp | pageDown | function n =>
    cases h
    exact .inl hmode

theorem insert_or_unlisted_insertKey? (hmode : e.mode = .insert) (h : e.insertKey? r key = some e')
    : e'.mode = .insert ∨ e'.completion? = none := by
  unfold insertKey? at h
  split at h
  · cases h
    exact .inl hmode
  · cases h
    exact .inl hmode
  · exact .inl ((hover?_acceptCompletion? h).2.trans hmode)
  · exact .inl ((hover?_acceptCompletion? h).2.trans hmode)
  · cases h
    exact .inr rfl
  · exact insert_or_unlisted_typingKey? hmode h

end Insert

end Editor

end Workbench
