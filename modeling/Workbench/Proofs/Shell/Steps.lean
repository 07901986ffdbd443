import Workbench.Proofs.Shell.Course

/-!
What a command of the shell can come to, and the histories of a shell: everything that may happen to it,
in any order.
-/

namespace Workbench

def HostRequest.failure? : HostRequest → Option HostResponse → Option String
  | .openFile, some (.openResult (.failed error)) => some error
  | .openFile, some (.openResult _) => none
  | .saveFileAs _, some (.saveTarget (.failed error)) => some error
  | .saveFileAs _, some (.saveTarget _) => none
  | .writeFile _ _, some (.writeOutcome (.failed error)) => some error
  | .writeFile _ _, some (.writeOutcome _) => none
  | r, reply? => some (HostResponse.mismatch r reply?).message

namespace HostResponse

theorem asOpenResult_ok {reply? : Option HostResponse} {r : FileOpenResult}
    (h : asOpenResult reply? = .ok r)
    : reply? = some (.openResult r) := by
  unfold asOpenResult at h
  split at h
  · cases h
    rfl
  · contradiction

theorem asOpenResult_error {reply? : Option HostResponse} {e : BridgeError}
    (h : asOpenResult reply? = .error e)
    : HostRequest.openFile.failure? reply? = some e.message := by
  unfold asOpenResult at h
  split at h
  · contradiction
  · next hne =>
    cases h
    unfold HostRequest.failure?
    split <;> simp_all

theorem asSaveTarget_ok {name : String} {reply? : Option HostResponse} {t : SaveTarget}
    (h : asSaveTarget name reply? = .ok t)
    : reply? = some (.saveTarget t) := by
  unfold asSaveTarget at h
  split at h
  · cases h
    rfl
  · contradiction

theorem asSaveTarget_error {name : String} {reply? : Option HostResponse} {e : BridgeError}
    (h : asSaveTarget name reply? = .error e)
    : (HostRequest.saveFileAs name).failure? reply? = some e.message := by
  unfold asSaveTarget at h
  split at h
  · contradiction
  · next hne =>
    cases h
    unfold HostRequest.failure?
    split <;> simp_all

theorem asWriteOutcome_ok {path : Path} {content : String} {reply? : Option HostResponse}
    {o : WriteOutcome} (h : asWriteOutcome path content reply? = .ok o)
    : reply? = some (.writeOutcome o) := by
  unfold asWriteOutcome at h
  split at h
  · cases h
    rfl
  · contradiction

theorem asWriteOutcome_error {path : Path} {content : String} {reply? : Option HostResponse}
    {e : BridgeError} (h : asWriteOutcome path content reply? = .error e)
    : (HostRequest.writeFile path content).failure? reply? = some e.message := by
  unfold asWriteOutcome at h
  split at h
  · contradiction
  · next hne =>
    cases h
    unfold HostRequest.failure?
    split <;> simp_all

end HostResponse

namespace Shell

def builtIn : Registry := ⟨[Language.Builtin.language]⟩

theorem register_builtIn : Language.Builtin.register {} = .ok builtIn := by
  rfl

inductive Targets (s : Shell) : ShellAction → List (HostRequest × Option HostResponse) → Path → Prop where
  | known {path : Path} : s.editor.path? = some path → Targets s .save [] path
  | chosen {a : ShellAction} {path : Path} : a = .saveAs ∨ a = .save ∧ s.editor.path? = none →
    Targets s a [(.saveFileAs s.documentName, some (.saveTarget (.chosen path)))] path

theorem Targets.saves {s : Shell} {a : ShellAction} {asked : List (HostRequest × Option HostResponse)}
    {path : Path} (h : s.Targets a asked path)
    : a = .save ∨ a = .saveAs := by
  cases h with
  | known => exact .inl rfl
  | chosen ha =>
    cases ha with
    | inl hsaveAs => exact .inr hsaveAs
    | inr hsave => exact .inl hsave.1

inductive Performed (s : Shell) : ShellAction → List (HostRequest × Option HostResponse) → Shell → Prop where
  | run : Performed s .run [] s.beginRun.1
  | newFile : Performed s .newFile [] s.newFile
  | opened (path : Path) (content : String) :
    Performed s .openFile [(.openFile, some (.openResult (.opened path content)))]
      { s with
        editor := s.editor.setDocument content.toList (some path) (s.registry.languageForPath? path)
        output := .notice s!"Opened: {path}" }
  | openCanceled :
    Performed s .openFile [(.openFile, some (.openResult .canceled))]
      { s with output := .notice "Open canceled." }
  | openFailed {reply? : Option HostResponse} {m : String} :
    HostRequest.openFile.failure? reply? = some m →
    Performed s .openFile [(.openFile, reply?)] { s with output := .error m }
  | written {a : ShellAction} {asked : List (HostRequest × Option HostResponse)} {target : Path}
    (path : Path) (message : String) : Targets s a asked target →
    Performed s a
      (asked ++ [(.writeFile target (String.ofList s.editor.text), some (.writeOutcome (.written path)))])
      { s with
        editor := s.editor.markSaved path (s.registry.languageForPath? path)
        output := .notice message
        saveState := .idle }
  | writeFailed {a : ShellAction} {asked : List (HostRequest × Option HostResponse)} {target : Path}
    {reply? : Option HostResponse} {m : String} : Targets s a asked target →
    (HostRequest.writeFile target (String.ofList s.editor.text)).failure? reply? = some m →
    Performed s a (asked ++ [(.writeFile target (String.ofList s.editor.text), reply?)])
      { s with output := .error m, saveState := .idle }
  | targetCanceled {a : ShellAction} : a = .saveAs ∨ a = .save ∧ s.editor.path? = none →
    Performed s a [(.saveFileAs s.documentName, some (.saveTarget .canceled))]
      { s with output := .notice "Save canceled.", saveState := .idle }
  | targetFailed {a : ShellAction} {reply? : Option HostResponse} {m : String} :
    a = .saveAs ∨ a = .save ∧ s.editor.path? = none →
    (HostRequest.saveFileAs s.documentName).failure? reply? = some m →
    Performed s a [(.saveFileAs s.documentName, reply?)]
      { s with output := .error m, saveState := .idle }
  | toggleTheme : Performed s .toggleTheme [] s.toggleTheme.1
  | insertFunction : Performed s .insertFunction [] s.insertFunction
  | quit : Performed s .quit [] s.quit.1

open Interaction

theorem performed_of_openFile {s s' : Shell} {ds : List Deed} (h : Course s.openFile ds s')
    : Performed s .openFile (Deed.exchanges ds) s' := by
  unfold openFile at h
  simp only [course_request_iff, course_done_iff] at h
  obtain ⟨reply?, ds', rfl, rfl, rfl⟩ := h
  unfold afterOpen
  split
  · next path content hok =>
    rw [HostResponse.asOpenResult_ok hok]
    exact .opened path content
  · next hok =>
    rw [HostResponse.asOpenResult_ok hok]
    exact .openCanceled
  · next error hok =>
    apply Performed.openFailed
    rw [HostResponse.asOpenResult_ok hok]
    rfl
  · next e herror =>
    apply Performed.openFailed
    exact HostResponse.asOpenResult_error herror

theorem performed_of_writeTo {s t s' : Shell} {a : ShellAction} {ds : List Deed} {path : Path}
    {choice : Bool} {asked : List (HostRequest × Option HostResponse)}
    (ht : t = { s with saveState := .awaitingWrite path }) (htarget : Targets s a asked path)
    (h : Course (t.writeTo path choice) ds s')
    : Performed s a (asked ++ Deed.exchanges ds) s' := by
  unfold writeTo at h
  simp only [course_request_iff, course_done_iff] at h
  obtain ⟨reply?, ds', rfl, rfl, rfl⟩ := h
  rw [ht]
  unfold afterWrite
  dsimp only
  split
  · next written hok =>
    rw [HostResponse.asWriteOutcome_ok hok]
    exact .written written _ htarget
  · next error hok =>
    apply Performed.writeFailed htarget
    rw [HostResponse.asWriteOutcome_ok hok]
    rfl
  · next e herror =>
    apply Performed.writeFailed htarget
    exact HostResponse.asWriteOutcome_error herror

theorem performed_of_saveAs {s s' : Shell} {a : ShellAction} {ds : List Deed}
    (ha : a = .saveAs ∨ a = .save ∧ s.editor.path? = none)
    (h : Course (saveAs { s with saveState := .awaitingTarget }) ds s')
    : Performed s a (Deed.exchanges ds) s' := by
  unfold saveAs at h
  rw [course_request_iff] at h
  obtain ⟨reply?, ds', rfl, h⟩ := h
  -- the name that is proposed does not depend on how far saving has come
  have hname : documentName { s with saveState := .awaitingTarget } = s.documentName := rfl
  rw [hname] at h ⊢
  split at h
  · next path hok =>
    rw [HostResponse.asSaveTarget_ok hok]
    exact performed_of_writeTo rfl (.chosen ha) h
  · next hok =>
    obtain ⟨rfl, rfl⟩ := course_done_iff.1 h
    rw [HostResponse.asSaveTarget_ok hok]
    exact .targetCanceled ha
  · next error hok =>
    obtain ⟨rfl, rfl⟩ := course_done_iff.1 h
    apply Performed.targetFailed ha
    rw [HostResponse.asSaveTarget_ok hok]
    rfl
  · next e herror =>
    obtain ⟨rfl, rfl⟩ := course_done_iff.1 h
    apply Performed.targetFailed ha
    exact HostResponse.asSaveTarget_error herror

theorem course_settle {change : Shell × List Signal} {ds : List Deed} {s' : Shell}
    (h : Course (settle change) ds s')
    : ds = change.2.map .signal ∧ s' = change.1 := by
  unfold settle at h
  simp only [course_signals_iff, course_done_iff] at h
  obtain ⟨ds', rfl, rfl, rfl⟩ := h
  exact ⟨List.append_nil _, rfl⟩

theorem exchanges_signals (ss : List Signal) : Deed.exchanges (ss.map .signal) = [] := by
  induction ss with
  | nil => rfl
  | cons s ss ih => exact ih

theorem performed_of_course {s s' : Shell} {a : ShellAction} {ds : List Deed}
    (h : Course (s.perform a) ds s')
    : Performed s a (Deed.exchanges ds) s' := by
  unfold perform at h
  rw [course_signal_iff] at h
  obtain ⟨ds', rfl, h⟩ := h
  rw [Deed.exchanges_signal]
  cases a with
  | run =>
    obtain ⟨rfl, rfl⟩ := course_settle h
    rw [exchanges_signals]
    exact .run
  | newFile =>
    obtain ⟨rfl, rfl⟩ := course_done_iff.1 h
    exact .newFile
  | openFile => exact performed_of_openFile h
  | save =>
    dsimp only at h
    unfold save at h
    split at h
    · next path hpath =>
      rw [← List.nil_append (Deed.exchanges ds')]
      exact performed_of_writeTo rfl (.known hpath) h
    · next hpath => exact performed_of_saveAs (.inr ⟨rfl, hpath⟩) h
  | saveAs => exact performed_of_saveAs (.inl rfl) h
  | toggleTheme =>
    obtain ⟨rfl, rfl⟩ := course_settle h
    rw [exchanges_signals]
    exact .toggleTheme
  | insertFunction =>
    obtain ⟨rfl, rfl⟩ := course_done_iff.1 h
    exact .insertFunction
  | quit =>
    obtain ⟨rfl, rfl⟩ := course_settle h
    rw [exchanges_signals]
    exact .quit

def KeptBesides (s s' : Shell) : Prop :=
  s' = { s with editor := s'.editor, functions := s'.functions, output := s'.output }
    ∧ (s'.output = s.output ∨ ∃ m, s'.output = .notice m)

theorem keptBesides_withEditor (s : Shell) (e : Editor) : s.KeptBesides (s.withEditor e).1 := by
  exact ⟨rfl, .inl rfl⟩

theorem keptBesides_commandKey? {s s' : Shell} {key : Key} {a? : Option ShellAction}
    (h : s.commandKey? key = some (s', a?))
    : s.KeptBesides s' := by
  unfold commandKey? at h
  dsimp only at h
  split at h
  · obtain ⟨e, -, h⟩ := Option.map_eq_some_iff.1 h
    cases h
    exact keptBesides_withEditor s e
  · obtain ⟨e, -, h⟩ := Option.map_eq_some_iff.1 h
    split at h
    · cases h
      exact ⟨rfl, .inl rfl⟩
    · cases h
      exact ⟨rfl, .inr ⟨_, rfl⟩⟩
  · obtain ⟨e, -, h⟩ := Option.map_eq_some_iff.1 h
    cases h
    exact keptBesides_withEditor s e
  · cases h
    exact keptBesides_withEditor s _
  · cases h
    exact ⟨rfl, .inl rfl⟩

theorem keptBesides_functionsKey (s : Shell) (key : Key) : s.KeptBesides (s.functionsKey key).1 := by
  unfold functionsKey
  split <;> exact ⟨rfl, .inl rfl⟩

theorem keptBesides_handleKey? {s s' : Shell} {key : Key} {a? : Option ShellAction}
    (h : s.handleKey? key = some (s', a?))
    : s.KeptBesides s' := by
  unfold handleKey? at h
  split at h
  · cases h
    exact ⟨rfl, .inl rfl⟩
  · split at h
    · cases h
      exact ⟨rfl, .inl rfl⟩
    · split at h
      · obtain ⟨e, -, h⟩ := Option.map_eq_some_iff.1 h
        cases h
        exact keptBesides_withEditor s e
      · obtain ⟨e, -, h⟩ := Option.map_eq_some_iff.1 h
        cases h
        exact keptBesides_withEditor s e
      · exact keptBesides_commandKey? h
      · have hkey : (s.functionsKey key).1 = s' := congrArg Prod.fst (Option.some.inj h)
        rw [← hkey]
        exact keptBesides_functionsKey s key

theorem keptBesides_handleTerminal? {s s' : Shell} {e : TerminalEvent} {a? : Option ShellAction}
    (h : s.handleTerminal? e = some (s', a?))
    : s.KeptBesides s' := by
  unfold handleTerminal? at h
  split at h
  · split at h
    · cases h
      exact ⟨rfl, .inl rfl⟩
    · exact keptBesides_handleKey? h
  · cases h
    exact ⟨rfl, .inl rfl⟩

end Shell

inductive Happening where
  | terminal (e : TerminalEvent)
  | action (a : ShellAction) (ds : List Deed)
  | event (e : ShellEvent)
  | ping (url : String) (result : Except ServiceError String)
  | loadFunctions
  | fault (message : String)
  | draw (height : Nat)

def Happening.exchanges : Happening → List (HostRequest × Option HostResponse)
  | action _ ds => Deed.exchanges ds
  | _ => []

/-- The shell after something has happened to it; there is none where the program ends for a caret
outside the text. -/
inductive Shell.Step : Shell → Happening → Shell → Prop where
  | terminal {s s' : Shell} {e : TerminalEvent} {a? : Option ShellAction} :
    s.handleTerminal? e = some (s', a?) → Step s (.terminal e) s'
  | action {s s' : Shell} {a : ShellAction} {ds : List Deed} :
    Interaction.Course (s.perform a) ds s' → Step s (.action a ds) s'
  | event (s : Shell) (e : ShellEvent) : Step s (.event e) (s.handleEvent e).1
  | ping (s : Shell) (url : String) (result : Except ServiceError String) :
    Step s (.ping url result) (s.applyPing url result).1
  | loadFunctions (s : Shell) : Step s .loadFunctions s.loadFunctions.1
  | fault (s : Shell) (message : String) : Step s (.fault message) (s.fail message)
  | draw (s : Shell) (height : Nat) :
    Step s (.draw height) { s with editor := s.editor.adjustScroll height }

/-- A state is reached after the steps from some earlier states, the first one among them. -/
inductive History {σ ι : Type} (step : σ → ι → σ → Prop) (first : σ) : List (σ × ι) → σ → Prop where
  | nil : History step first [] first
  | snoc {past : List (σ × ι)} {s s' : σ} {i : ι} :
    History step first past s → step s i s' → History step first (past ++ [(s, i)]) s'

namespace History

variable {σ ι : Type} {step : σ → ι → σ → Prop} {first s : σ} {past : List (σ × ι)}

theorem invariant {P : σ → Prop} (hfirst : P first)
    (hstep : ∀ s i s', P s → step s i s' → P s') (h : History step first past s)
    : P s := by
  induction h with
  | nil => exact hfirst
  | snoc _ hs ih => exact hstep _ _ _ ih hs

theorem append {s' : σ} {more : List (σ × ι)} (h : History step first past s)
    (hmore : History step s more s')
    : History step first (past ++ more) s' := by
  induction hmore with
  | nil =>
    rw [List.append_nil]
    exact h
  | snoc _ hs ih =>
    rw [← List.append_assoc]
    exact ih.snoc hs

end History

end Workbench
