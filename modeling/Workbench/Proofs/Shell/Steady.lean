import Workbench.Proofs.Editor.Caret
import Workbench.Proofs.Shell.Steps
import Workbench.Screen.View

/-!
A shell whose texts end their lines in line feeds alone: whatever happens to it, the caret stays in the
text and no key finds it outside.
-/

namespace Workbench

open Text

def Happening.Brings (loadable : List Char → Prop) : Happening → Prop
  | .terminal (.key key _) => ∀ c, key.code = .char c → isLineBreak c = false
  | .action _ ds =>
    ∀ path content, (.openFile, some (.openResult (.opened path content))) ∈ Deed.exchanges ds →
      loadable content.toList
  | .event (.functionsLoaded (.ok names)) => ∀ name ∈ names, loadable name.toList
  | _ => True

theorem Happening.Brings.mono {p q : List Char → Prop} {i : Happening} (hpq : ∀ cs, p cs → q cs)
    (h : i.Brings p)
    : i.Brings q := by
  unfold Brings at h ⊢
  split
  · exact h
  · exact fun path content hmem => hpq _ (h path content hmem)
  · exact fun name hmem => hpq _ (h name hmem)
  · trivial

namespace Shell

structure Steady (s : Shell) : Prop where
  editor : s.editor.Sound
  names : ∀ name ∈ s.functions.names, FeedsOnly name.toList
  registry : s.registry.SuggestsLines

variable {s s' : Shell}

theorem Steady.withEditor {e : Editor} (h : s.Steady) (he : e.Sound) : { s with editor := e }.Steady where
  editor := he
  names := h.names
  registry := h.registry

theorem steady_commandKey? {key : Key} (h : s.Steady) (hmode : s.editor.mode = .command)
    : ∃ s' a?, s.commandKey? key = some (s', a?) ∧ s'.Steady := by
  have hquiet : s.editor.Quiet := h.editor.quiet (by rw [hmode]; decide)
  obtain ⟨e, heq, he⟩ := Editor.quiet_enterNormalMode? h.editor.toPlaced
  have hnormal := h.withEditor he.sound
  unfold commandKey?
  dsimp only
  split
  · rw [heq]
    exact ⟨_, _, rfl, hnormal⟩
  · rw [heq, Option.map_some]
    split
    · exact ⟨_, _, rfl, hnormal⟩
    · exact ⟨_, _, rfl, hnormal.editor, hnormal.names, hnormal.registry⟩
  · split
    · obtain ⟨e, heq, he⟩ := Editor.quiet_enterNormalMode?
        (e := { s.editor with commandLine := s.editor.commandLine.dropLast })
        ⟨hquiet.feeds, hquiet.caret⟩
      rw [heq]
      exact ⟨_, _, rfl, h.withEditor he.sound⟩
    · refine ⟨_, _, rfl, h.withEditor (Editor.Quiet.sound ?_)⟩
      exact ⟨⟨hquiet.feeds, hquiet.caret⟩, hquiet.unlisted⟩
  · refine ⟨_, _, rfl, h.withEditor (Editor.Quiet.sound ?_)⟩
    exact ⟨⟨hquiet.feeds, hquiet.caret⟩, hquiet.unlisted⟩
  · exact ⟨s, none, rfl, h⟩

theorem names_selectNext (p : FunctionPanel) : p.selectNext.names = p.names := by
  cases p <;> rfl

theorem names_selectPrevious (p : FunctionPanel) : p.selectPrevious.names = p.names := by
  cases p <;> rfl

theorem steady_functionsKey {key : Key} (h : s.Steady) (hmode : s.editor.mode = .functions)
    : (s.functionsKey key).1.Steady := by
  have hquiet : s.editor.Quiet := h.editor.quiet (by rw [hmode]; decide)
  have hother (mode : Mode) : { s.editor with mode }.Sound :=
    Editor.Quiet.sound ⟨⟨hquiet.feeds, hquiet.caret⟩, hquiet.unlisted⟩
  unfold functionsKey
  split
  · exact h.withEditor (hother _)
  · exact ⟨h.editor, by rw [names_selectNext]; exact h.names, h.registry⟩
  · exact ⟨h.editor, by rw [names_selectNext]; exact h.names, h.registry⟩
  · exact ⟨h.editor, by rw [names_selectPrevious]; exact h.names, h.registry⟩
  · exact ⟨h.editor, by rw [names_selectPrevious]; exact h.names, h.registry⟩
  · exact h.withEditor (hother _)
  · exact h

theorem steady_toggleFocus (h : s.Steady) : s.toggleFocus.Steady := by
  apply h.withEditor
  split
  · next hmode =>
    have hquiet := h.editor.quiet (by rw [hmode]; decide)
    exact Editor.Quiet.sound ⟨⟨hquiet.feeds, hquiet.caret⟩, hquiet.unlisted⟩
  · exact Editor.Quiet.sound ⟨⟨h.editor.feeds, h.editor.caret⟩, rfl⟩

theorem steady_handleKey? {key : Key} (h : s.Steady)
    (hkey : ∀ c, key.code = .char c → isLineBreak c = false)
    : ∃ s' a?, s.handleKey? key = some (s', a?) ∧ s'.Steady := by
  unfold handleKey?
  split
  · exact ⟨s, _, rfl, h⟩
  · split
    · exact ⟨_, none, rfl, steady_toggleFocus h⟩
    · split
      · next hmode =>
        have hquiet := h.editor.quiet (by rw [hmode]; decide)
        obtain ⟨e, heq, he⟩ := Editor.quiet_normalKey? s.registry key hquiet
        rw [heq]
        exact ⟨_, none, rfl, h.withEditor he.sound⟩
      · next hmode =>
        obtain ⟨e, heq, he⟩ := Editor.sound_insertKey? h.registry h.editor hmode hkey
        rw [heq]
        exact ⟨_, none, rfl, h.withEditor he⟩
      · next hmode => exact steady_commandKey? h hmode
      · next hmode => exact ⟨_, _, rfl, steady_functionsKey h hmode⟩

theorem steady_handleTerminal? {e : TerminalEvent} (h : s.Steady)
    (he : (Happening.terminal e).Brings FeedsOnly)
    : ∃ s' a?, s.handleTerminal? e = some (s', a?) ∧ s'.Steady := by
  unfold handleTerminal?
  split
  · split
    · exact ⟨s, none, rfl, h⟩
    · exact steady_handleKey? h he
  · exact ⟨s, none, rfl, h⟩

theorem steady_setDocument {text : List Char} (h : s.Steady) (htext : FeedsOnly text)
    (path? : Option Path) (language? : Option String)
    : { s with editor := s.editor.setDocument text path? language? }.Steady := by
  exact h.withEditor (Editor.quiet_setDocument htext path? language?).sound

theorem steady_insertFunction (h : s.Steady) : s.insertFunction.Steady := by
  unfold insertFunction
  split
  · exact h
  · next name hname =>
    have hmem : name ∈ s.functions.names := by
      obtain ⟨i, -, hi⟩ := Option.bind_eq_some_iff.1 hname
      exact List.mem_of_getElem? hi
    apply h.withEditor
    apply Editor.Quiet.sound
    apply Editor.quiet_appendText h.editor.toPlaced
    have hblank : Unbroken [' '] := unbroken_cons.2 ⟨by decide, unbroken_nil⟩
    rw [feedsOnly_append, feedsOnly_cons]
    exact ⟨⟨fun _ => rfl, h.names name hmem⟩, feedsOnly_of_unbroken hblank⟩

theorem steady_perform {a : ShellAction} {ds : List Deed} (h : s.Steady)
    (hds : (Happening.action a ds).Brings FeedsOnly) (hs : Interaction.Course (s.perform a) ds s')
    : s'.Steady := by
  have hp := performed_of_course hs
  have hopened : ∀ path content,
      (.openFile, some (.openResult (.opened path content))) ∈ Deed.exchanges ds →
      FeedsOnly content.toList := hds
  generalize Deed.exchanges ds = exchanges at hp hopened
  cases hp with
  | run => exact ⟨h.editor, h.names, h.registry⟩
  | newFile =>
    have hempty : FeedsOnly [] := feedsOnly_of_unbroken unbroken_nil
    have := steady_setDocument h hempty none (untitledLanguage? s.registry)
    exact ⟨this.editor, this.names, this.registry⟩
  | opened path content =>
    have htext := hopened path content (List.mem_singleton.2 rfl)
    have := steady_setDocument h htext (some path) (s.registry.languageForPath? path)
    exact ⟨this.editor, this.names, this.registry⟩
  | openCanceled => exact ⟨h.editor, h.names, h.registry⟩
  | openFailed hm => exact ⟨h.editor, h.names, h.registry⟩
  | written path message ht =>
    exact ⟨Editor.sound_markSaved h.editor _ _, h.names, h.registry⟩
  | writeFailed ht hm => exact ⟨h.editor, h.names, h.registry⟩
  | targetCanceled ha => exact ⟨h.editor, h.names, h.registry⟩
  | targetFailed ha hm => exact ⟨h.editor, h.names, h.registry⟩
  | toggleTheme => exact ⟨h.editor, h.names, h.registry⟩
  | insertFunction => exact steady_insertFunction h
  | quit => exact ⟨h.editor, h.names, h.registry⟩

theorem steady_handleEvent {e : ShellEvent} (h : s.Steady) (he : (Happening.event e).Brings FeedsOnly)
    : (s.handleEvent e).1.Steady := by
  cases e with
  | runFinished id result =>
    unfold handleEvent finishRun
    dsimp only
    split
    · exact h
    · split
      · exact ⟨h.editor, h.names, h.registry⟩
      · exact ⟨h.editor, h.names, h.registry⟩
  | functionsLoaded result =>
    cases result with
    | ok names => exact ⟨h.editor, he, h.registry⟩
    | error e => exact ⟨h.editor, by simp [handleEvent, applyFunctions, FunctionPanel.names], h.registry⟩

theorem steady_step {i : Happening} (h : s.Steady) (hi : i.Brings FeedsOnly) (hs : Step s i s')
    : s'.Steady := by
  cases hs with
  | terminal heq =>
    obtain ⟨t, b?, heq', ht⟩ := steady_handleTerminal? h hi
    rw [heq] at heq'
    cases heq'
    exact ht
  | action hcourse => exact steady_perform h hi hcourse
  | event e => exact steady_handleEvent h hi
  | ping url result =>
    unfold applyPing
    dsimp only
    split
    · exact ⟨h.editor, h.names, h.registry⟩
    · exact h
  | loadFunctions =>
    exact ⟨h.editor, by simp [loadFunctions, FunctionPanel.names], h.registry⟩
  | fault message => exact ⟨h.editor, h.names, h.registry⟩
  | draw height =>
    refine ⟨⟨⟨h.editor.feeds, h.editor.caret⟩, ?_⟩, h.names, h.registry⟩
    intro popup hp
    have hlisted := h.editor.listed popup hp
    exact ⟨hlisted.1, hlisted.2.congr rfl rfl⟩

theorem steady_of_history {first : Shell} {past : List (Shell × Happening)} (hfirst : first.Steady)
    (h : History Step first past s) (hpast : ∀ x ∈ past, x.2.Brings FeedsOnly)
    : s.Steady := by
  induction h with
  | nil => exact hfirst
  | snoc hpre hs ih =>
    apply steady_step _ (hpast _ (List.mem_append_right _ (List.mem_singleton.2 rfl))) hs
    exact ih fun x hx => hpast x (List.mem_append_left _ hx)

end Shell

theorem View.caretCell?_isSome {e : Editor} (h : e.document.Holds e.caret) (v : View) (rect : Rect)
    : (v.caretCell? e rect).isSome := by
  unfold View.caretCell?
  split
  · rfl
  · obtain ⟨n, hn, -⟩ := h
    obtain ⟨l, hl, -⟩ := Option.map_eq_some_iff.1 hn
    rw [hl]
    rfl

end Workbench
