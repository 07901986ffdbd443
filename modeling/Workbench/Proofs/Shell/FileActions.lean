import Workbench.Proofs.Shell.Steps

/-!
Opening and saving, whatever the host does: which requests are made, and what each reply leads to, replies
of the wrong kind and lost ones among them.
-/

namespace Workbench

def HostRequest.isPicker : HostRequest → Bool
  | writeFile _ _ => false
  | _ => true

namespace Shell

variable {s s' : Shell} {a : ShellAction} {xs : List (HostRequest × Option HostResponse)}

def AsksTarget (s : Shell) (xs : List (HostRequest × Option HostResponse)) : Prop :=
  (∃ path reply?, xs = [(.saveFileAs s.documentName, some (.saveTarget (.chosen path))),
      (.writeFile path (String.ofList s.editor.text), reply?)])
    ∨ ∃ reply?, xs = [(.saveFileAs s.documentName, reply?)]
      ∧ ∀ path, reply? ≠ some (.saveTarget (.chosen path))

def Requests (s : Shell) (a : ShellAction) (xs : List (HostRequest × Option HostResponse)) : Prop :=
  match a, s.editor.path? with
  | .openFile, _ => ∃ reply?, xs = [(.openFile, reply?)]
  | .save, some path => ∃ reply?, xs = [(.writeFile path (String.ofList s.editor.text), reply?)]
  | .save, none | .saveAs, _ => s.AsksTarget xs
  | _, _ => xs = []

structure FileOutcome (s : Shell) (a : ShellAction) (xs : List (HostRequest × Option HostResponse))
    (s' : Shell) : Prop where
  requests : s.Requests a xs
  pickers : (∃ x ∈ xs, x.1.isPicker = true) ↔ s.needsTerminal a = true
  opened : ∀ path content,
    xs.getLast? = some (.openFile, some (.openResult (.opened path content))) →
    s'.editor.document = { text := content.toList, path? := some path, dirty := false }
      ∧ s'.editor.caret = ⟨0, 0⟩ ∧ s'.editor.language? = s.registry.languageForPath? path
  written : ∀ target content path,
    xs.getLast? = some (.writeFile target content, some (.writeOutcome (.written path))) →
    s'.editor = { s.editor with
      document := { s.editor.document with path? := some path, dirty := false }
      language? := (s.registry.languageForPath? path).or s.editor.language? }
  unchanged :
    (∀ path content, xs.getLast? ≠ some (.openFile, some (.openResult (.opened path content)))) →
    (∀ target content path,
      xs.getLast? ≠ some (.writeFile target content, some (.writeOutcome (.written path)))) →
    s'.editor = s.editor
  failed : ∀ m, s'.output = .error m ↔
    ∃ r reply?, xs.getLast? = some (r, reply?) ∧ r.failure? reply? = some m
  noticed : (∀ r reply?, xs.getLast? = some (r, reply?) → r.failure? reply? = none) →
    ∃ m, s'.output = .notice m
  others : s' = { s with editor := s'.editor, output := s'.output, saveState := s'.saveState }
  saveState : s'.saveState = if a = .openFile then s.saveState else .idle

structure Asked (s : Shell) (a : ShellAction) (xs : List (HostRequest × Option HostResponse))
    (r : HostRequest) (reply? : Option HostResponse) : Prop where
  requests : s.Requests a xs
  pickers : (∃ x ∈ xs, x.1.isPicker = true) ↔ s.needsTerminal a = true
  last : xs.getLast? = some (r, reply?)

variable {r : HostRequest} {reply? : Option HostResponse} {state : SaveState}

theorem outcome_of_failure {m : String} (h : s.Asked a xs r reply?) (hm : r.failure? reply? = some m)
    (hstate : state = if a = .openFile then s.saveState else .idle)
    : s.FileOutcome a xs { s with output := .error m, saveState := state } where
  requests := h.requests
  pickers := h.pickers
  opened := by
    intro path content hlast
    rw [h.last] at hlast
    cases hlast
    cases hm
  written := by
    intro target content path hlast
    rw [h.last] at hlast
    cases hlast
    cases hm
  unchanged := fun _ _ => rfl
  failed := by
    intro m'
    constructor
    · intro houtput
      cases houtput
      exact ⟨r, reply?, h.last, hm⟩
    · rintro ⟨r', reply?', hlast, hm'⟩
      rw [h.last] at hlast
      cases hlast
      rw [hm] at hm'
      cases hm'
      rfl
  noticed := by
    intro hnone
    rw [hnone r reply? h.last] at hm
    contradiction
  others := rfl
  saveState := hstate

theorem outcome_of_cancel {m : String} (h : s.Asked a xs r reply?)
    (hreply : reply? = some (.openResult .canceled) ∧ r = .openFile
      ∨ reply? = some (.saveTarget .canceled) ∧ ∃ name, r = .saveFileAs name)
    (hstate : state = if a = .openFile then s.saveState else .idle)
    : s.FileOutcome a xs { s with output := .notice m, saveState := state } where
  requests := h.requests
  pickers := h.pickers
  opened := by
    intro path content hlast
    rw [h.last] at hlast
    cases hlast
    simp at hreply
  written := by
    intro target content path hlast
    rw [h.last] at hlast
    cases hlast
    simp at hreply
  unchanged := fun _ _ => rfl
  failed := by
    intro m'
    constructor
    · intro houtput
      cases houtput
    · rintro ⟨r', reply?', hlast, hm'⟩
      rw [h.last] at hlast
      cases hlast
      obtain ⟨rfl, rfl⟩ | ⟨rfl, name, rfl⟩ := hreply
      · cases hm'
      · cases hm'
  noticed := fun _ => ⟨m, rfl⟩
  others := rfl
  saveState := hstate

theorem outcome_of_opened {path : Path} {content m : String}
    (h : s.Asked .openFile xs .openFile (some (.openResult (.opened path content))))
    : s.FileOutcome .openFile xs { s with
        editor := s.editor.setDocument content.toList (some path) (s.registry.languageForPath? path)
        output := .notice m } where
  requests := h.requests
  pickers := h.pickers
  opened := by
    intro path' content' hlast
    rw [h.last] at hlast
    cases hlast
    exact ⟨rfl, rfl, rfl⟩
  written := by
    intro target content' path' hlast
    rw [h.last] at hlast
    cases hlast
  unchanged := fun hne _ => absurd h.last (hne path content)
  failed := by
    intro m'
    constructor
    · intro houtput
      cases houtput
    · rintro ⟨r', reply?', hlast, hm'⟩
      rw [h.last] at hlast
      cases hlast
      cases hm'
  noticed := fun _ => ⟨m, rfl⟩
  others := rfl
  saveState := rfl

theorem outcome_of_written {target path : Path} {content m : String} (ha : a ≠ .openFile)
    (h : s.Asked a xs (.writeFile target content) (some (.writeOutcome (.written path))))
    : s.FileOutcome a xs { s with
        editor := s.editor.markSaved path (s.registry.languageForPath? path)
        output := .notice m
        saveState := .idle } where
  requests := h.requests
  pickers := h.pickers
  opened := by
    intro path' content' hlast
    rw [h.last] at hlast
    cases hlast
  written := by
    intro target' content' path' hlast
    rw [h.last] at hlast
    cases hlast
    rfl
  unchanged := fun _ hne => absurd h.last (hne target content path)
  failed := by
    intro m'
    constructor
    · intro houtput
      cases houtput
    · rintro ⟨r', reply?', hlast, hm'⟩
      rw [h.last] at hlast
      cases hlast
      cases hm'
  noticed := fun _ => ⟨m, rfl⟩
  others := rfl
  saveState := by rw [if_neg ha]

theorem asked_open (s : Shell) (reply? : Option HostResponse)
    : s.Asked .openFile [(.openFile, reply?)] .openFile reply? where
  requests := ⟨reply?, rfl⟩
  pickers := by simp [HostRequest.isPicker, needsTerminal]
  last := rfl

theorem requests_of_asksTarget (ha : a = .saveAs ∨ a = .save ∧ s.editor.path? = none)
    (h : s.AsksTarget xs)
    : s.Requests a xs := by
  cases ha with
  | inl hsaveAs =>
    rw [hsaveAs]
    exact h
  | inr hsave =>
    unfold Requests
    rw [hsave.1, hsave.2]
    exact h

theorem needsTerminal_of_asksTarget (ha : a = .saveAs ∨ a = .save ∧ s.editor.path? = none)
    : s.needsTerminal a = true := by
  cases ha with
  | inl hsaveAs =>
    rw [hsaveAs]
    rfl
  | inr hsave =>
    unfold needsTerminal
    rw [hsave.1]
    dsimp only
    rw [hsave.2]
    rfl

theorem asked_target (ha : a = .saveAs ∨ a = .save ∧ s.editor.path? = none)
    (hreply : ∀ path, reply? ≠ some (.saveTarget (.chosen path)))
    : s.Asked a [(.saveFileAs s.documentName, reply?)] (.saveFileAs s.documentName) reply? where
  requests := requests_of_asksTarget ha (.inr ⟨reply?, rfl, hreply⟩)
  pickers := by
    rw [needsTerminal_of_asksTarget ha]
    simp [HostRequest.isPicker]
  last := rfl

theorem asked_write {target : Path} {asked : List (HostRequest × Option HostResponse)}
    (h : s.Targets a asked target) (reply? : Option HostResponse)
    : s.Asked a (asked ++ [(.writeFile target (String.ofList s.editor.text), reply?)])
        (.writeFile target (String.ofList s.editor.text)) reply? := by
  cases h with
  | known hpath =>
    refine ⟨?_, ?_, rfl⟩
    · unfold Requests
      rw [hpath]
      exact ⟨reply?, rfl⟩
    · unfold needsTerminal
      dsimp only
      rw [hpath]
      simp [HostRequest.isPicker]
  | chosen ha =>
    refine ⟨requests_of_asksTarget ha (.inl ⟨target, reply?, rfl⟩), ?_, rfl⟩
    rw [needsTerminal_of_asksTarget ha]
    simp [HostRequest.isPicker]

theorem ne_openFile_of_targets {target : Path} {asked : List (HostRequest × Option HostResponse)}
    (h : s.Targets a asked target)
    : a ≠ .openFile := by
  cases h.saves with
  | inl hsave =>
    rw [hsave]
    decide
  | inr hsaveAs =>
    rw [hsaveAs]
    decide

theorem not_chosen_of_failure {name m : String}
    (hm : (HostRequest.saveFileAs name).failure? reply? = some m)
    : ∀ path, reply? ≠ some (.saveTarget (.chosen path)) := by
  rintro path rfl
  cases hm

theorem fileOutcome_of_performed (ha : a = .openFile ∨ a = .save ∨ a = .saveAs)
    (h : s.Performed a xs s')
    : s.FileOutcome a xs s' := by
  cases h with
  | opened path content => exact outcome_of_opened (asked_open s _)
  | openCanceled => exact outcome_of_cancel (asked_open s _) (.inl ⟨rfl, rfl⟩) rfl
  | openFailed hm => exact outcome_of_failure (asked_open s _) hm rfl
  | written path message ht =>
    exact outcome_of_written (ne_openFile_of_targets ht) (asked_write ht _)
  | writeFailed ht hm =>
    apply outcome_of_failure (asked_write ht _) hm
    rw [if_neg (ne_openFile_of_targets ht)]
  | targetCanceled hasks =>
    apply outcome_of_cancel (asked_target hasks (by simp)) (.inr ⟨rfl, _, rfl⟩)
    have hne : a ≠ .openFile := by
      rintro rfl
      simp at hasks
    rw [if_neg hne]
  | targetFailed hasks hm =>
    apply outcome_of_failure (asked_target hasks (not_chosen_of_failure hm)) hm
    have hne : a ≠ .openFile := by
      rintro rfl
      simp at hasks
    rw [if_neg hne]
  | run | newFile | toggleTheme | insertFunction | quit => simp at ha

/-- A shell that the program may be in: what has happened to it since its start may include that its
editor, its panels and its registry were set from outside. -/
inductive Reached : Shell → Prop where
  | start (r : Registry) (theme : String) : Reached (start r theme)
  | step {s s' : Shell} {i : Happening} : Reached s → s.Step i s' → Reached s'
  | set {s : Shell} (editor : Editor) (output : OutputPanel) (functions : FunctionPanel)
    (registry : Registry) : Reached s → Reached { s with editor, output, functions, registry }

theorem saveState_of_step {i : Happening} (h : s.Step i s') (hs : s.saveState = .idle)
    : s'.saveState = .idle := by
  cases h with
  | terminal heq =>
    rw [(keptBesides_handleTerminal? heq).1]
    exact hs
  | action hcourse =>
    have hperformed := performed_of_course hcourse
    generalize Deed.exchanges _ = exchanges at hperformed
    cases hperformed with
    | run | newFile | opened | openCanceled | openFailed | toggleTheme | quit => exact hs
    | written | writeFailed | targetCanceled | targetFailed => rfl
    | insertFunction =>
      unfold insertFunction
      split
      · exact hs
      · exact hs
  | event e =>
    unfold handleEvent
    split
    · unfold finishRun
      split
      · exact hs
      · split <;> exact hs
    · unfold applyFunctions
      split <;> exact hs
  | ping url result =>
    unfold applyPing
    dsimp only
    split <;> exact hs
  | loadFunctions => exact hs
  | fault message => exact hs
  | draw height => exact hs

theorem saveState_of_reached (h : s.Reached) : s.saveState = .idle := by
  induction h with
  | start r theme => rfl
  | step _ hstep ih => exact saveState_of_step hstep ih
  | set editor output functions registry _ ih => exact ih

theorem fileAction_outcome {σ : Type} (host : HostRequest → StateM σ (Option HostResponse)) (w : σ)
    (s : Shell) {a : ShellAction} (ha : a = .openFile ∨ a = .save ∨ a = .saveAs)
    : ∃ s' w' ds, ((s.perform a).play host).run (w, []) = (s', w', ds)
        ∧ Interaction.Served host w (Deed.exchanges ds) w'
        ∧ s.FileOutcome a (Deed.exchanges ds) s'
        ∧ (s.Reached → s'.saveState = .idle) := by
  obtain ⟨s', w', ds, hplay, hcourse, hserved⟩ := Interaction.play_spec host (s.perform a) w []
  refine ⟨s', w', ds, hplay, hserved, fileOutcome_of_performed ha (performed_of_course hcourse), ?_⟩
  -- opening leaves the state of saving alone, so that it depends on where the shell comes from
  intro h
  exact saveState_of_step (.action hcourse) (saveState_of_reached h)

def diskless : HostRequest → StateM Unit (Option HostResponse)
  | .saveFileAs _ => pure (some (.saveTarget (.chosen "a.oc")))
  | _ => pure (some (.rejected "no disk"))

theorem fileAction_outcome_diskless
    : ∃ s' w' ds, (((start builtIn "vs-dark").perform .save).play diskless).run ((), []) = (s', w', ds)
        ∧ Deed.exchanges ds = [(.saveFileAs "untitled.oc", some (.saveTarget (.chosen "a.oc"))),
          (.writeFile "a.oc" welcomeText, some (.rejected "no disk"))]
        ∧ s'.output = .error "file host rejected the request: no disk"
        ∧ s'.editor = (start builtIn "vs-dark").editor
        ∧ s'.saveState = .idle := by
  obtain ⟨s', w', ds, hplay, -, houtcome, hidle⟩ :=
    fileAction_outcome diskless () (start builtIn "vs-dark") (.inr (.inl rfl) : ShellAction.save = _ ∨ _)
  have hds : ds = ((((start builtIn "vs-dark").perform .save).play diskless).run ((), [])).2.2 := by
    rw [hplay]
  have hexchanges : Deed.exchanges ds
      = [(.saveFileAs "untitled.oc", some (.saveTarget (.chosen "a.oc"))),
        (.writeFile "a.oc" welcomeText, some (.rejected "no disk"))] := by
    rw [hds]
    decide +kernel
  refine ⟨s', w', ds, hplay, hexchanges, ?_, ?_, hidle (.start builtIn "vs-dark")⟩
  · rw [houtcome.failed, hexchanges]
    exact ⟨_, _, rfl, by decide⟩
  · apply houtcome.unchanged
    · rw [hexchanges]
      intro path content heq
      cases heq
    · rw [hexchanges]
      intro target content path heq
      cases heq

end Shell
end Workbench
