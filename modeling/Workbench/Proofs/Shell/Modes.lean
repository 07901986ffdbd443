import Workbench.Proofs.Editor.Modes
import Workbench.Proofs.Shell.HoverCard

/-!
The modes through whatever happens to the shell: which events leave it as it is, which leave the document as it
is, which keys lead to insert mode, and what may pop up in which mode.
-/

namespace Workbench

def Key.shortcutCodes : List KeyCode :=
  [.char 'r', .char 'n', .char 'o', .char 's', .char 't', .char 'c', .char 'q']

theorem Key.isSome_globalAction?_iff {key : Key}
    : key.globalAction?.isSome ↔ key.control = true ∧ key.code ∈ shortcutCodes := by
  unfold globalAction? shortcutCodes
  split
  · next hcontrol =>
    split <;> simp_all
  · next hcontrol =>
    exact iff_of_false Bool.noConfusion fun h => hcontrol h.1

theorem Happening.Presses.eq {i : Happening} {key key' : Key} (h : i.Presses key) (h' : i.Presses key')
    : key' = key := by
  obtain ⟨phase, -, rfl⟩ := h
  obtain ⟨phase', -, heq⟩ := h'
  cases heq
  rfl

namespace Shell

open Editor

variable {s s' : Shell} {e : TerminalEvent} {key : Key} {a? : Option ShellAction} {i : Happening}
  {asked : List (HostRequest × Option HostResponse)}

section Keys

theorem handleTerminal?_of_not_presses (h : ∀ key, ¬ (Happening.terminal e).Presses key)
    : s.handleTerminal? e = some (s, none) := by
  unfold handleTerminal?
  split
  · next key phase =>
    apply if_pos
    apply Classical.byContradiction
    intro hphase
    exact h key ⟨phase, hphase, rfl⟩
  · rfl

theorem handleTerminal?_of_presses (h : (Happening.terminal e).Presses key)
    : s.handleTerminal? e = s.handleKey? key := by
  obtain ⟨phase, hphase, heq⟩ := h
  cases heq
  exact if_neg hphase

theorem handleKey?_of_globalAction? {a : ShellAction} (h : key.globalAction? = some a)
    : s.handleKey? key = some (s, some a) := by
  unfold handleKey?
  rw [h]

theorem handleTerminal?_cases (h : s.handleTerminal? e = some (s', a?))
    : (s' = s ∧ ∀ key, (Happening.terminal e).Presses key → key.globalAction? ≠ none)
      ∨ ∃ key, (Happening.terminal e).Presses key ∧ key.globalAction? = none
          ∧ s.handleKey? key = some (s', a?) := by
  by_cases hpresses : ∃ key, (Happening.terminal e).Presses key
  · obtain ⟨key, hkey⟩ := hpresses
    rw [handleTerminal?_of_presses hkey] at h
    cases haction : key.globalAction? with
    | none => exact .inr ⟨key, hkey, haction, h⟩
    | some a =>
      rw [handleKey?_of_globalAction? haction] at h
      cases h
      refine .inl ⟨rfl, fun key' hkey' => ?_⟩
      rw [hkey.eq hkey', haction]
      exact Option.some_ne_none a
  · rw [handleTerminal?_of_not_presses (not_exists.1 hpresses)] at h
    cases h
    exact .inl ⟨rfl, fun key hkey => absurd ⟨key, hkey⟩ hpresses⟩

theorem modeStep_toggleFocus : ModeStep (.char 'g') s.editor s.toggleFocus.editor := by
  have hcode : .char 'g' ∉ s.editor.mode.insertCodes := by
    cases s.editor.mode <;> decide
  unfold toggleFocus
  dsimp only
  split
  · exact ⟨fun _ => rfl, rfl, .inl rfl, iff_of_false Mode.noConfusion hcode⟩
  · exact ⟨fun _ => rfl, rfl, .inr rfl, iff_of_false Mode.noConfusion hcode⟩

theorem modeStep_commandKey? (hmode : s.editor.mode = .command) (h : s.commandKey? key = some (s', a?))
    : ModeStep key.code s.editor s'.editor := by
  have hcode : key.code ∉ s.editor.mode.insertCodes := by
    rw [hmode]
    exact List.not_mem_nil
  obtain ⟨cs, hread | hnormal⟩ := editor_commandKey? h
  · rw [hread]
    exact ⟨fun _ => rfl, rfl, .inl rfl, iff_of_false (by rw [hmode]; decide) hcode⟩
  · have hmoved := moved_enterNormalMode? hnormal
    refine ⟨fun _ => hmoved.document, hmoved.language, hmoved.listed, iff_of_false ?_ hcode⟩
    rw [hmoved.mode]
    exact Mode.noConfusion

theorem modeStep_functionsKey (hmode : s.editor.mode = .functions)
    : ModeStep key.code s.editor (s.functionsKey key).1.editor := by
  have hstays (hcode : key.code ≠ .enter) : ModeStep key.code s.editor s.editor := by
    apply (Moved.refl s.editor).modeStep
    · rw [hmode]
      decide
    · rw [hmode]
      exact mt List.mem_singleton.1 hcode
  unfold functionsKey
  split
  · next hcode =>
    rw [hcode]
    exact ⟨fun _ => rfl, rfl, .inl rfl, iff_of_false Mode.noConfusion (by rw [hmode]; decide)⟩
  · next hcode => exact hstays (by rw [hcode]; decide)
  · next hcode => exact hstays (by rw [hcode]; decide)
  · next hcode => exact hstays (by rw [hcode]; decide)
  · next hcode => exact hstays (by rw [hcode]; decide)
  · next hcode =>
    rw [hcode]
    exact ⟨fun _ => rfl, rfl, .inl rfl, iff_of_true rfl (by rw [hmode]; decide)⟩
  · next hcode => exact hstays hcode

theorem modeStep_handleKey? (hmode : s.editor.mode ≠ .insert) (haction : key.globalAction? = none)
    (h : s.handleKey? key = some (s', a?))
    : ModeStep key.code s.editor s'.editor := by
  unfold handleKey? at h
  rw [haction] at h
  dsimp only at h
  split at h
  · next hfocus =>
    cases h
    rw [hfocus.2]
    exact modeStep_toggleFocus
  · split at h
    · next hnormal =>
      obtain ⟨e, he, h⟩ := Option.map_eq_some_iff.1 h
      cases h
      exact modeStep_normalKey? hnormal he
    · next hinsert => exact absurd hinsert hmode
    · next hcommand => exact modeStep_commandKey? hcommand h
    · next hfunctions =>
      have hkey : (s.functionsKey key).1 = s' := congrArg Prod.fst (Option.some.inj h)
      rw [← hkey]
      exact modeStep_functionsKey hfunctions

theorem listInInsert_handleKey? (h : s.editor.ListInInsert) (haction : key.globalAction? = none)
    (heq : s.handleKey? key = some (s', a?))
    : s'.editor.ListInInsert := by
  by_cases hmode : s.editor.mode = .insert
  · unfold handleKey? at heq
    rw [haction] at heq
    dsimp only at heq
    split at heq
    · cases heq
      apply listInInsert_of_unlisted
      unfold toggleFocus
      rw [hmode]
      rfl
    · rw [hmode] at heq
      obtain ⟨e, he, heq⟩ := Option.map_eq_some_iff.1 heq
      cases heq
      cases insert_or_unlisted_insertKey? hmode he with
      | inl hinsert => exact fun _ => hinsert
      | inr hnone => exact listInInsert_of_unlisted hnone
  · exact (modeStep_handleKey? hmode haction heq).listInInsert h hmode

end Keys

section Steps

theorem mode_perform {a : ShellAction} (h : Performed s a asked s')
    : s'.editor.mode = s.editor.mode
      ∧ (s'.editor.completion? = s.editor.completion? ∨ s'.editor.completion? = none) := by
  cases h with
  | newFile => exact ⟨rfl, .inr rfl⟩
  | opened path content => exact ⟨rfl, .inr rfl⟩
  | insertFunction =>
    unfold insertFunction
    split
    · exact ⟨rfl, .inl rfl⟩
    · exact ⟨rfl, .inr rfl⟩
  | run | openCanceled | openFailed | written | writeFailed | targetCanceled | targetFailed
  | toggleTheme | quit =>
    exact ⟨rfl, .inl rfl⟩

theorem mode_of_step (h : Step s i s') (hi : ∀ e, i ≠ .terminal e)
    : s'.editor.mode = s.editor.mode
      ∧ (s'.editor.completion? = s.editor.completion? ∨ s'.editor.completion? = none) := by
  cases h with
  | terminal heq => exact absurd rfl (hi _)
  | action hcourse => exact mode_perform (performed_of_course hcourse)
  | event e =>
    rw [(kept_handleEvent s e).1]
    exact ⟨rfl, .inl rfl⟩
  | ping url result =>
    rw [(kept_applyPing s url result).1]
    exact ⟨rfl, .inl rfl⟩
  | loadFunctions | fault message | draw height => exact ⟨rfl, .inl rfl⟩

theorem listInInsert_step (h : s.editor.ListInInsert) (hstep : Step s i s') : s'.editor.ListInInsert := by
  by_cases hi : ∃ e, i = .terminal e
  · obtain ⟨e, rfl⟩ := hi
    cases hstep with
    | terminal heq =>
      obtain ⟨rfl, -⟩ | ⟨key, -, haction, hkey⟩ := handleTerminal?_cases heq
      · exact h
      · exact listInInsert_handleKey? h haction hkey
  · obtain ⟨hmode, hlisted⟩ := mode_of_step hstep (not_exists.1 hi)
    exact h.of_listed hmode hlisted

theorem listInInsert_of_history {first : Shell} {past : List (Shell × Happening)}
    (hfirst : first.editor.completion? = none) (h : History Step first past s)
    : s.editor.ListInInsert := by
  apply History.invariant (P := fun t => t.editor.ListInInsert) (listInInsert_of_unlisted hfirst) _ h
  exact fun t i t' hlist hstep => listInInsert_step hlist hstep

theorem insert_of_step_iff (h : Step s i s') (hmode : s.editor.mode ≠ .insert)
    : s'.editor.mode = .insert
        ↔ ∃ key, i.Presses key ∧ key.globalAction? = none ∧ key.code ∈ s.editor.mode.insertCodes := by
  by_cases hi : ∃ e, i = .terminal e
  · obtain ⟨e, rfl⟩ := hi
    cases h with
    | terminal heq =>
      obtain ⟨rfl, hshortcut⟩ | ⟨key, hpress, haction, hkey⟩ := handleTerminal?_cases heq
      · refine iff_of_false hmode ?_
        rintro ⟨key, hpress, haction, -⟩
        exact hshortcut key hpress haction
      · rw [(modeStep_handleKey? hmode haction hkey).mode]
        constructor
        · exact fun hcode => ⟨key, hpress, haction, hcode⟩
        · rintro ⟨key', hpress', -, hcode⟩
          rw [← hpress.eq hpress']
          exact hcode
  · refine iff_of_false ?_ ?_
    · rw [(mode_of_step h (not_exists.1 hi)).1]
      exact hmode
    · rintro ⟨key, ⟨phase, -, rfl⟩, -⟩
      exact hi ⟨_, rfl⟩

end Steps

structure Moded (s : Shell) : Prop where
  ignored : ∀ e, (∀ key, ¬ (Happening.terminal e).Presses key) → s.handleTerminal? e = some (s, none)
  shortcut : ∀ e key, (Happening.terminal e).Presses key → key.control = true →
    key.code ∈ Key.shortcutCodes → ∃ a, s.handleTerminal? e = some (s, some a)
  unwritten : ∀ e s' a?, s.handleTerminal? e = some (s', a?) → s.editor.mode ≠ .insert →
    (s.editor.mode = .normal → ∀ key, (Happening.terminal e).Presses key → key.code ≠ .char 'o') →
    s'.editor.document = s.editor.document ∧ s'.editor.language? = s.editor.language?
  entered : ∀ i s', Step s i s' → s.editor.mode ≠ .insert →
    (s'.editor.mode = .insert
      ↔ ∃ key, i.Presses key ∧ key.globalAction? = none ∧ key.code ∈ s.editor.mode.insertCodes)
  popups : ∀ r theme past, History Step (.start r theme) past s →
    (s.editor.completion?.isSome → s.editor.mode = .insert)
      ∧ (s.editor.hover?.isSome → s.editor.mode = .normal)

theorem moded (s : Shell) : s.Moded where
  ignored _ h := handleTerminal?_of_not_presses h
  shortcut e key hpress hcontrol hcode := by
    obtain ⟨a, ha⟩ := Option.isSome_iff_exists.1 (Key.isSome_globalAction?_iff.2 ⟨hcontrol, hcode⟩)
    rw [handleTerminal?_of_presses hpress]
    exact ⟨a, handleKey?_of_globalAction? ha⟩
  unwritten e s' a? h hmode hother := by
    obtain ⟨rfl, -⟩ | ⟨key, hpress, haction, hkey⟩ := handleTerminal?_cases h
    · exact ⟨rfl, rfl⟩
    · have hstep := modeStep_handleKey? hmode haction hkey
      exact ⟨hstep.document fun ho => hother ho.1 key hpress ho.2, hstep.language⟩
  entered _ _ h hmode := insert_of_step_iff h hmode
  popups _ _ _ h := ⟨listInInsert_of_history rfl h, cardInNormal_of_history rfl h⟩

theorem moded_listing
    : ∃ past s, History Step (.start builtIn "vs-dark") past s
        ∧ s.editor.completion?.isSome ∧ s.editor.mode = .insert := by
  have hcodes : ∀ c, .char c ∈ ([.char 'i', .tab] : List KeyCode) → Text.isLineBreak c = false := by
    intro c hc
    simp only [List.mem_cons, KeyCode.char.injEq] at hc
    rcases hc with rfl | hc | hc
    · decide
    all_goals contradiction
  have hlisted : ((start builtIn "vs-dark").press? [.char 'i', .tab]).any
      (·.editor.completion?.isSome) = true := by
    decide
  obtain ⟨s, hpress, hs⟩ := (Option.any_eq_true _ _).1 hlisted
  obtain ⟨past, hpast, -⟩ := history_press? (fun _ => True) .nil hpress (by simp) hcodes
  exact ⟨past, s, hpast, hs, ((moded s).popups _ _ _ hpast).1 hs⟩

end Shell

end Workbench
