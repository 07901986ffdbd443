import Workbench.Proofs.Shell.Steps

/-!
What the things that happen to a shell do to its runs and to its output.
-/

namespace Workbench

def RunResult.shown : RunResult → OutputPanel
  | .ok output => .program output
  | .error e => .error e.message

def Deed.started (ds : List Deed) : List (Nat × List Char) :=
  ds.filterMap fun
    | signal (.startRun id code) => some (id, code)
    | _ => none

def Deed.tasks (tasks : List (Nat × List Char)) : List Deed → List (Nat × List Char)
  | [] => tasks
  | signal (.startRun id code) :: ds => Deed.tasks (tasks ++ [(id, code)]) ds
  | signal (.stopRun id) :: ds => Deed.tasks (tasks.filter (·.1 ≠ id)) ds
  | _ :: ds => Deed.tasks tasks ds

def Happening.started : Happening → List (Nat × List Char)
  | action _ ds => Deed.started ds
  | _ => []

def Happening.tasks (tasks : List (Nat × List Char)) : Happening → List (Nat × List Char)
  | action _ ds => Deed.tasks tasks ds
  | _ => tasks

theorem Deed.started_sublist (d : Deed) (ds : List Deed)
    : (started ds).Sublist (started (d :: ds)) := by
  unfold started
  apply List.Sublist.filterMap
  apply List.sublist_cons_self

theorem Deed.tasks_sublist (tasks : List (Nat × List Char)) (ds : List Deed)
    : (Deed.tasks tasks ds).Sublist (tasks ++ started ds) := by
  fun_induction Deed.tasks tasks ds with
  | case1 tasks =>
    apply List.sublist_append_left
  | case2 tasks id code ds ih =>
    rw [List.append_assoc] at ih
    exact ih
  | case3 tasks id ds ih =>
    apply ih.trans
    apply List.Sublist.append_right
    apply List.filter_sublist
  | case4 tasks d ds hstart hstop ih =>
    apply ih.trans
    apply List.Sublist.append_left
    apply started_sublist

def Happening.Keeps (id : Nat) (i : Happening) : Prop :=
  i.started = [] ∧ (∀ ds, i ≠ .action .quit ds) ∧ ∀ result, i ≠ .event (.runFinished id result)

theorem Happening.tasks_sublist (tasks : List (Nat × List Char)) (i : Happening)
    : (i.tasks tasks).Sublist (tasks ++ i.started) := by
  cases i with
  | action a ds => apply Deed.tasks_sublist
  | _ => apply List.sublist_append_left

/-- The output panel is set by this. A key may leave a notice besides. -/
def Happening.Writes (s : Shell) : Happening → Prop
  | action a _ => a ≠ .toggleTheme ∧ a ≠ .insertFunction ∧ a ≠ .quit
  | event (.runFinished id _) => s.activeRun? = some id
  | ping _ _ => s.output = .empty
  | fault _ => True
  | _ => False

namespace Shell

open Interaction

variable {s s' : Shell} {a : ShellAction} {ds : List Deed}

theorem started_of_openFile (h : Course s.openFile ds s') : Deed.started ds = [] := by
  unfold openFile at h
  simp only [course_request_iff, course_done_iff] at h
  obtain ⟨reply?, ds', rfl, rfl, -⟩ := h
  rfl

theorem started_of_writeTo {path : Path} {choice : Bool} (h : Course (s.writeTo path choice) ds s')
    : Deed.started ds = [] := by
  unfold writeTo at h
  simp only [course_request_iff, course_done_iff] at h
  obtain ⟨reply?, ds', rfl, rfl, -⟩ := h
  rfl

theorem started_of_saveAs (h : Course s.saveAs ds s') : Deed.started ds = [] := by
  unfold saveAs at h
  rw [course_request_iff] at h
  obtain ⟨reply?, ds', rfl, h⟩ := h
  have hrequest : ∀ r, Deed.started (.request r reply? :: ds') = Deed.started ds' := fun r => rfl
  rw [hrequest]
  split at h
  · exact started_of_writeTo h
  · obtain ⟨rfl, -⟩ := course_done_iff.1 h
    rfl
  · obtain ⟨rfl, -⟩ := course_done_iff.1 h
    rfl
  · obtain ⟨rfl, -⟩ := course_done_iff.1 h
    rfl

theorem started_of_beginRun (s : Shell)
    : Deed.started (s.beginRun.2.map .signal) = [(s.runCount + 1, s.editor.text)] := by
  unfold beginRun
  cases s.activeRun? with
  | none => rfl
  | some previous => rfl

theorem started_of_quit (s : Shell) : Deed.started (s.quit.2.map .signal) = [] := by
  unfold quit
  cases s.activeRun? with
  | none => rfl
  | some previous => rfl

theorem started_of_course (h : Course (s.perform a) ds s')
    : Deed.started ds = if a = .run then [(s.runCount + 1, s.editor.text)] else [] := by
  unfold perform at h
  rw [course_signal_iff] at h
  obtain ⟨ds', rfl, h⟩ := h
  have hlog : ∀ e, Deed.started (.signal (.log e) :: ds') = Deed.started ds' := fun e => rfl
  unfold logged
  rw [hlog]
  cases a with
  | run =>
    rw [(course_settle h).1]
    exact started_of_beginRun s
  | newFile =>
    rw [(course_done_iff.1 h).1]
    rfl
  | openFile => exact started_of_openFile h
  | save =>
    dsimp only at h
    unfold save at h
    split at h
    · exact started_of_writeTo h
    · exact started_of_saveAs h
  | saveAs => exact started_of_saveAs h
  | toggleTheme =>
    rw [(course_settle h).1]
    rfl
  | insertFunction =>
    rw [(course_done_iff.1 h).1]
    rfl
  | quit =>
    rw [(course_settle h).1]
    exact started_of_quit s

inductive RunStep (s : Shell) : Happening → Shell → Prop where
  | began {ds : List Deed} : Deed.started ds = [(s.runCount + 1, s.editor.text)] →
    RunStep s (.action .run ds)
      { s with runCount := s.runCount + 1, activeRun? := some (s.runCount + 1), output := .running }
  | finished (id : Nat) (result : RunResult) : s.activeRun? = some id →
    RunStep s (.event (.runFinished id result)) { s with activeRun? := none, output := result.shown }
  | stale (id : Nat) (result : RunResult) : s.activeRun? ≠ some id →
    RunStep s (.event (.runFinished id result)) s
  | quit {ds : List Deed} : Deed.started ds = [] →
    RunStep s (.action .quit ds) { s with activeRun? := none, running := false }
  | pinged (url : String) (result : Except ServiceError String) {output : OutputPanel} :
    s.output = .empty → output ≠ .empty → output ≠ .running → (∀ o, output ≠ .program o) →
    RunStep s (.ping url result) { s with output }
  | missed (url : String) (result : Except ServiceError String) : s.output ≠ .empty →
    RunStep s (.ping url result) s
  | other {i : Happening} {s' : Shell} : i.started = [] → (∀ ds, i ≠ .action .quit ds) →
    (∀ id result, i ≠ .event (.runFinished id result)) → (∀ url result, i ≠ .ping url result) →
    s'.runCount = s.runCount → s'.activeRun? = s.activeRun? → s'.running = s.running →
    (s'.output = s.output ∨ (∃ m, s'.output = .notice m) ∨ ∃ m, s'.output = .error m) →
    RunStep s i s'

theorem runStep_of_finishRun (s : Shell) (id : Nat) (result : RunResult)
    : s.RunStep (.event (.runFinished id result)) (s.finishRun id result).1 := by
  unfold finishRun
  split
  · next hne => exact .stale id result hne
  · next heq =>
    have hactive := Decidable.not_not.1 heq
    split
    · next output => exact .finished id (.ok output) hactive
    · next e => exact .finished id (.error e) hactive

theorem runStep_of_applyPing (s : Shell) (url : String) (result : Except ServiceError String)
    : s.RunStep (.ping url result) (s.applyPing url result).1 := by
  unfold applyPing
  dsimp only
  split
  · next hempty =>
    cases result with
    | ok reply => exact .pinged url (.ok reply) hempty (by simp) (by simp) (by simp)
    | error e => exact .pinged url (.error e) hempty (by simp) (by simp) (by simp)
  · next hne => exact .missed url result hne

theorem runStep_of_course (h : Course (s.perform a) ds s') : s.RunStep (.action a ds) s' := by
  have hstarted := started_of_course h
  have hperformed := performed_of_course h
  generalize Deed.exchanges ds = exchanges at hperformed
  have hother (hrun : a ≠ .run) (hquit : a ≠ .quit) (hcount : s'.runCount = s.runCount)
      (hactive : s'.activeRun? = s.activeRun?) (hrunning : s'.running = s.running)
      (houtput : s'.output = s.output ∨ (∃ m, s'.output = .notice m) ∨ ∃ m, s'.output = .error m)
      : s.RunStep (.action a ds) s' := by
    rw [if_neg hrun] at hstarted
    refine .other hstarted ?_ ?_ ?_ hcount hactive hrunning houtput
    · intro ds' heq
      cases heq
      exact hquit rfl
    · intro id result heq
      cases heq
    · intro url result heq
      cases heq
  have hsave (ha : a = .save ∨ a = .saveAs) : a ≠ .run ∧ a ≠ .quit := by
    cases ha with
    | inl h => simp [h]
    | inr h => simp [h]
  cases hperformed with
  | run => exact .began hstarted
  | quit => exact .quit hstarted
  | newFile => exact hother (by simp) (by simp) rfl rfl rfl (.inr (.inl ⟨_, rfl⟩))
  | opened path content => exact hother (by simp) (by simp) rfl rfl rfl (.inr (.inl ⟨_, rfl⟩))
  | openCanceled => exact hother (by simp) (by simp) rfl rfl rfl (.inr (.inl ⟨_, rfl⟩))
  | openFailed hm => exact hother (by simp) (by simp) rfl rfl rfl (.inr (.inr ⟨_, rfl⟩))
  | written path message ht =>
    obtain ⟨hrun, hquit⟩ := hsave ht.saves
    exact hother hrun hquit rfl rfl rfl (.inr (.inl ⟨_, rfl⟩))
  | writeFailed ht hm =>
    obtain ⟨hrun, hquit⟩ := hsave ht.saves
    exact hother hrun hquit rfl rfl rfl (.inr (.inr ⟨_, rfl⟩))
  | targetCanceled ha =>
    obtain ⟨hrun, hquit⟩ := hsave (ha.symm.imp And.left id)
    exact hother hrun hquit rfl rfl rfl (.inr (.inl ⟨_, rfl⟩))
  | targetFailed ha hm =>
    obtain ⟨hrun, hquit⟩ := hsave (ha.symm.imp And.left id)
    exact hother hrun hquit rfl rfl rfl (.inr (.inr ⟨_, rfl⟩))
  | toggleTheme => exact hother (by simp) (by simp) rfl rfl rfl (.inl rfl)
  | insertFunction =>
    unfold insertFunction at hother ⊢
    split at hother
    · exact hother (by simp) (by simp) rfl rfl rfl (.inl rfl)
    · exact hother (by simp) (by simp) rfl rfl rfl (.inl rfl)

theorem runStep_of_step {i : Happening} (h : s.Step i s') : s.RunStep i s' := by
  cases h with
  | terminal heq =>
    obtain ⟨hsame, houtput⟩ := keptBesides_handleTerminal? heq
    apply RunStep.other rfl (by simp) (by simp) (by simp)
    · rw [hsame]
    · rw [hsame]
    · rw [hsame]
    · exact houtput.imp_right .inl
  | action hcourse => exact runStep_of_course hcourse
  | event e =>
    cases e with
    | runFinished id result => exact runStep_of_finishRun s id result
    | functionsLoaded result =>
      cases result with
      | ok names => exact .other rfl (by simp) (by simp) (by simp) rfl rfl rfl (.inl rfl)
      | error e => exact .other rfl (by simp) (by simp) (by simp) rfl rfl rfl (.inl rfl)
  | ping url result => exact runStep_of_applyPing s url result
  | loadFunctions => exact .other rfl (by simp) (by simp) (by simp) rfl rfl rfl (.inl rfl)
  | fault message =>
    exact .other rfl (by simp) (by simp) (by simp) rfl rfl rfl (.inr (.inr ⟨message, rfl⟩))
  | draw height => exact .other rfl (by simp) (by simp) (by simp) rfl rfl rfl (.inl rfl)

variable {i : Happening}

theorem runCount_of_runStep (h : s.RunStep i s')
    : i.started = [(s.runCount + 1, s.editor.text)] ∧ s'.runCount = s.runCount + 1
      ∨ i.started = [] ∧ s'.runCount = s.runCount := by
  cases h with
  | began hstarted => exact .inl ⟨hstarted, rfl⟩
  | finished id result hactive => exact .inr ⟨rfl, rfl⟩
  | stale id result hne => exact .inr ⟨rfl, rfl⟩
  | quit hstarted => exact .inr ⟨hstarted, rfl⟩
  | pinged url result => exact .inr ⟨rfl, rfl⟩
  | missed url result => exact .inr ⟨rfl, rfl⟩
  | other hstarted hquit hfinished hping hcount => exact .inr ⟨hstarted, hcount⟩

theorem activeRun_of_runStep (h : s.RunStep i s') (id : Nat)
    : s'.activeRun? = some id
      ↔ (∃ code, (id, code) ∈ i.started) ∨ s.activeRun? = some id ∧ i.Keeps id := by
  unfold Happening.Keeps
  cases h with
  | began hstarted =>
    dsimp only [Happening.started]
    rw [hstarted]
    simp [eq_comm]
  | finished id' result hactive =>
    simp [Happening.started, hactive]
  | stale id' result hne =>
    -- the report of another run leaves the one that is awaited
    simp only [Happening.started, List.not_mem_nil, exists_false, false_or]
    constructor
    · intro hactive
      refine ⟨hactive, trivial, by simp, ?_⟩
      intro result' heq
      cases heq
      exact hne hactive
    · exact And.left
  | quit hstarted =>
    dsimp only [Happening.started]
    rw [hstarted]
    simp
  | pinged url result => simp [Happening.started]
  | missed url result => simp [Happening.started]
  | other hstarted hquit hfinished hping hcount hactive =>
    rw [hactive]
    simp [hstarted, hquit, hfinished]

theorem last_of_runStep (h : s.RunStep i s')
    (hs : ∀ id, s.activeRun? = some id → 0 < id ∧ id = s.runCount)
    : ∀ id, s'.activeRun? = some id → 0 < id ∧ id = s'.runCount := by
  intro id hactive
  rw [activeRun_of_runStep h] at hactive
  cases runCount_of_runStep h with
  | inl hbegan =>
    rw [hbegan.1] at hactive
    rw [hbegan.2]
    unfold Happening.Keeps at hactive
    simp [hbegan.1] at hactive
    omega
  | inr hkept =>
    rw [hkept.1] at hactive
    rw [hkept.2]
    simp at hactive
    exact hs id hactive.1

theorem finishRun_ne_iff {id : Nat} {result : RunResult}
    : (s.finishRun id result).1 ≠ s ↔ s.activeRun? = some id := by
  constructor
  · intro hne
    apply Decidable.byContradiction
    intro hactive
    apply hne
    unfold finishRun
    rw [if_pos hactive]
  · intro hactive heq
    have hrun := congrArg Shell.activeRun? heq
    rw [hactive] at hrun
    unfold finishRun at hrun
    rw [if_neg (not_not_intro hactive)] at hrun
    split at hrun <;> contradiction

theorem output_of_finishRun {id : Nat} {result : RunResult} (h : s.activeRun? = some id)
    : (s.finishRun id result).1.output = result.shown := by
  unfold finishRun
  rw [if_neg (not_not_intro h)]
  cases result with
  | ok output => rfl
  | error e => rfl

theorem shown_ne_running (result : RunResult) : result.shown ≠ .running := by
  unfold RunResult.shown
  split <;> simp

theorem shown_ne_empty (result : RunResult) : result.shown ≠ .empty := by
  unfold RunResult.shown
  split <;> simp

theorem shown_eq_program {result : RunResult} {o : String} (h : result.shown = .program o)
    : result = .ok o := by
  unfold RunResult.shown at h
  split at h
  · cases h
    rfl
  · contradiction

theorem output_kept {before after shown : OutputPanel} (hafter : after = shown)
    (h : after = before ∨ (∃ m, after = .notice m) ∨ ∃ m, after = .error m)
    (hnotice : ∀ m, shown ≠ .notice m) (herror : ∀ m, shown ≠ .error m)
    : before = shown := by
  rw [hafter] at h
  cases h with
  | inl hsame => exact hsame.symm
  | inr hset =>
    cases hset with
    | inl hset => exact absurd hset.choose_spec (hnotice _)
    | inr hset => exact absurd hset.choose_spec (herror _)

theorem awaited_of_runStep (h : s.RunStep i s')
    (hs : s.running = true → s.output = .running → s.activeRun?.isSome)
    : s'.running = true → s'.output = .running → s'.activeRun?.isSome := by
  intro hrunning houtput
  cases h with
  | began hstarted => rfl
  | finished id result hactive => exact absurd houtput (shown_ne_running result)
  | stale id result hne => exact hs hrunning houtput
  | quit hstarted => cases hrunning
  | pinged url result hempty hne hnotRunning => exact absurd houtput hnotRunning
  | missed url result hne => exact hs hrunning houtput
  | other hstarted hquit hfinished hping hcount hactive hsame hout =>
    rw [hactive]
    rw [hsame] at hrunning
    apply hs hrunning
    exact output_kept houtput hout (by simp) (by simp)

theorem program_of_runStep (h : s.RunStep i s') {o : String} (houtput : s'.output = .program o)
    : s'.runCount = s.runCount
      ∧ (s.output = .program o
        ∨ ∃ id, i = .event (.runFinished id (.ok o)) ∧ s.activeRun? = some id) := by
  cases h with
  | began hstarted => cases houtput
  | finished id result hactive =>
    rw [shown_eq_program houtput]
    exact ⟨rfl, .inr ⟨id, rfl, hactive⟩⟩
  | stale id result hne => exact ⟨rfl, .inl houtput⟩
  | quit hstarted => exact ⟨rfl, .inl houtput⟩
  | pinged url result hempty hne hnotRunning hnotProgram => exact absurd houtput (hnotProgram o)
  | missed url result hne => exact ⟨rfl, .inl houtput⟩
  | other hstarted hquit hfinished hping hcount hactive hsame hout =>
    exact ⟨hcount, .inl (output_kept houtput hout (by simp) (by simp))⟩

theorem output_of_runStep (h : s.RunStep i s') (houtput : s'.output = .empty) : s.output = .empty := by
  cases h with
  | began hstarted => cases houtput
  | finished id result hactive => exact absurd houtput (shown_ne_empty result)
  | stale id result hne => exact houtput
  | quit hstarted => exact houtput
  | pinged url result hempty => exact hempty
  | missed url result hne => exact houtput
  | other hstarted hquit hfinished hping hcount hactive hsame hout =>
    exact output_kept houtput hout (by simp) (by simp)

theorem output_of_writes (h : s.Step i s') (hw : i.Writes s) : s'.output ≠ .empty := by
  cases h with
  | terminal heq => cases hw
  | action hcourse =>
    have hperformed := performed_of_course hcourse
    generalize Deed.exchanges _ = exchanges at hperformed
    obtain ⟨htheme, hfunction, hquit⟩ := hw
    cases hperformed with
    | toggleTheme => contradiction
    | insertFunction => contradiction
    | quit => contradiction
    | run | newFile | opened | openCanceled | openFailed => simp [beginRun, newFile, notice]
    | written | writeFailed | targetCanceled | targetFailed => simp
  | event e =>
    cases e with
    | runFinished id result =>
      intro hempty
      apply shown_ne_empty result
      rw [← output_of_finishRun hw]
      exact hempty
    | functionsLoaded result => cases hw
  | ping url result =>
    have hempty : s.output = .empty := hw
    have hrun := runStep_of_applyPing s url result
    generalize (s.applyPing url result).1 = s' at hrun
    cases hrun with
    | pinged _ _ _ hne => exact hne
    | missed _ _ hne => exact hne
    | other _ _ _ hping => exact absurd rfl (hping url result)
  | loadFunctions => cases hw
  | fault message => simp [fail]
  | draw height => cases hw

end Shell
end Workbench
