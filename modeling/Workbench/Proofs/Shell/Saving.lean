import Workbench.Proofs.Bridge.Host
import Workbench.Proofs.Editor.Edits
import Workbench.Proofs.Shell.Steps
import Workbench.Session

/-!
The shell and the host at work on files: a document that is not marked as changed is what its file holds,
through canceled pickers and failed reads and writes.
-/

namespace Workbench

structure Workplace (σ φ : Type) where
  shell : Shell
  desk : Desk σ φ

namespace Workplace

variable {σ φ : Type}

def CleanAt (w : Workplace σ φ) (p : Path) : Prop :=
  w.shell.editor.path? = some p ∧ w.shell.editor.document.dirty = false

def bytes (w : Workplace σ φ) : ByteArray :=
  (String.ofList w.shell.editor.text).toUTF8

/-- What an unchanged document shows is what its file holds. -/
def Truthful (content? : φ → Path → Option ByteArray) (w : Workplace σ φ) : Prop :=
  ∀ p, w.CleanAt p → content? w.desk.store p = some w.bytes

variable [FileSystem φ] (dialogs : Dialogs σ)

def perform (w : Workplace σ φ) (a : ShellAction) : Shell × Desk σ φ × List Deed :=
  ((w.shell.perform a).play (Host.answer dialogs)).run (w.desk, [])

def after (w : Workplace σ φ) (a : ShellAction) : Workplace σ φ where
  shell := (w.perform dialogs a).1
  desk := (w.perform dialogs a).2.1

def deeds (w : Workplace σ φ) (a : ShellAction) : List Deed :=
  (w.perform dialogs a).2.2

inductive Step : Workplace σ φ → Happening → Workplace σ φ → Prop where
  | perform (w : Workplace σ φ) (a : ShellAction) :
    Step w (.action a (w.deeds dialogs a)) (w.after dialogs a)
  | other {w : Workplace σ φ} {i : Happening} {s : Shell} :
    (∀ a ds, i ≠ .action a ds) → w.shell.Step i s → Step w i ⟨s, w.desk⟩

inductive Effect (content? : φ → Path → Option ByteArray) (Apart : Path → Path → Prop)
    (w : Workplace σ φ) : Happening → Workplace σ φ → Prop where
  | edited {i : Happening} {w' : Workplace σ φ} :
    (∀ path content, i.exchanges ≠ [(.openFile, some (.openResult (.opened path content)))]) →
    (∀ path content q, (.writeFile path content, some (.writeOutcome (.written q))) ∉ i.exchanges) →
    content? w'.desk.store = content? w.desk.store →
    w.shell.editor.document.Edited w'.shell.editor.document → Effect content? Apart w i w'
  | renewed {ds : List Deed} {w' : Workplace σ φ} :
    Deed.exchanges ds = [] → content? w'.desk.store = content? w.desk.store →
    w'.shell.editor.path? = none → Effect content? Apart w (.action .newFile ds) w'
  | opened {ds : List Deed} {w' : Workplace σ φ} (path : Path) (content : String) :
    Deed.exchanges ds = [(.openFile, some (.openResult (.opened path content)))] →
    content? w'.desk.store = content? w.desk.store →
    content? w.desk.store path = some content.toUTF8 →
    w'.shell.editor.document = { text := content.toList, path? := some path } →
    Effect content? Apart w (.action .openFile ds) w'
  | saved {a : ShellAction} {ds : List Deed} {w' : Workplace σ φ}
    (asked : List (HostRequest × Option HostResponse)) (path : Path) :
    w.shell.Targets a asked path →
    Deed.exchanges ds = asked
      ++ [(.writeFile path (String.ofList w.shell.editor.text), some (.writeOutcome (.written path)))] →
    w'.shell.editor.document = { w.shell.editor.document with path? := some path, dirty := false } →
    content? w'.desk.store path = some w.bytes →
    (∀ q, Apart path q → content? w'.desk.store q = content? w.desk.store q) →
    Effect content? Apart w (.action a ds) w'

variable {content? : φ → Path → Option ByteArray} {Apart : Path → Path → Prop}

section Steps

open Interaction Host

variable {s s' : Shell} {a : ShellAction} {asked rest : List (HostRequest × Option HostResponse)}
  {path : Path} {d d' : Desk σ φ}

theorem served_targets (h : s.Targets a asked path) (hserved : Served (answer dialogs) d (asked ++ rest) d')
    : ∃ d₁, d₁.store = d.store ∧ Served (answer dialogs) d₁ rest d' := by
  cases h with
  | known hpath => exact ⟨d, rfl, hserved⟩
  | chosen ha =>
    obtain ⟨-, hrest⟩ := hserved
    exact ⟨_, answer_saveFileAs dialogs d _, hrest⟩

theorem not_written_of_targets (h : s.Targets a asked path)
    : ∀ target content reply?, (.writeFile target content, reply?) ∉ asked := by
  intro target content reply? hmem
  cases h with
  | known => cases hmem
  | chosen => cases List.mem_singleton.1 hmem

theorem ne_opened_of_targets {r : HostRequest} {reply? : Option HostResponse} (h : s.Targets a asked path)
    (hr : r ≠ .openFile)
    : ∀ path content, asked ++ [(r, reply?)] ≠ [(.openFile, some (.openResult (.opened path content)))] := by
  intro path content heq
  cases h with
  | known =>
    cases heq
    exact hr rfl
  | chosen => cases heq

theorem served_openFile (hfs : FileSystem.Lawful content? Apart) {reply? : Option HostResponse}
    (h : Served (answer dialogs) d [(.openFile, reply?)] d')
    : content? d'.store = content? d.store
      ∧ ∀ path content, reply? = some (.openResult (.opened path content)) →
        content? d.store path = some content.toUTF8 := by
  obtain ⟨hreply, hd⟩ := h
  have hanswer := answer_openFile dialogs hfs d
  rw [hd, hreply]
  exact hanswer

theorem served_saveFileAs {name : String} {reply? : Option HostResponse}
    (h : Served (answer dialogs) d [(.saveFileAs name, reply?)] d')
    : d'.store = d.store := by
  obtain ⟨-, hd⟩ := h
  rw [hd]
  exact answer_saveFileAs dialogs d name

theorem served_writeFile (hfs : FileSystem.Lawful content? Apart) {target : Path} {content : String}
    {reply? : Option HostResponse} (h : Served (answer dialogs) d [(.writeFile target content, reply?)] d')
    : (reply? = some (.writeOutcome (.written target))
          ∧ content? d'.store target = some content.toUTF8
          ∧ ∀ q, Apart target q → content? d'.store q = content? d.store q)
      ∨ (∃ error, reply? = some (.writeOutcome (.failed error)))
          ∧ content? d'.store = content? d.store := by
  obtain ⟨hreply, hd⟩ := h
  rw [hd, hreply]
  cases answer_writeFile dialogs hfs d target content with
  | inl hwritten =>
    obtain ⟨d₁, heq, hcontent⟩ := hwritten
    rw [heq]
    exact .inl ⟨rfl, hcontent⟩
  | inr hfailed =>
    obtain ⟨error, d₁, heq, hcontent⟩ := hfailed
    rw [heq]
    exact .inr ⟨⟨error, rfl⟩, hcontent⟩

omit [FileSystem φ] in
theorem edited_of_store {w : Workplace σ φ} {ds : List Deed} {r : HostRequest}
    {reply? : Option HostResponse} (hasked : asked = [] ∨ ∃ target, w.shell.Targets a asked target)
    (hds : Deed.exchanges ds = asked ++ [(r, reply?)])
    (hopen : ∀ path content, (r, reply?) ≠ (.openFile, some (.openResult (.opened path content))))
    (hwrite : ∀ path content q, (r, reply?) ≠ (.writeFile path content, some (.writeOutcome (.written q))))
    (hstore : content? d'.store = content? w.desk.store)
    (hdocument : s'.editor.document = w.shell.editor.document)
    : Effect content? Apart w (.action a ds) ⟨s', d'⟩ := by
  have hi : (Happening.action a ds).exchanges = asked ++ [(r, reply?)] := hds
  refine .edited ?_ ?_ hstore (.inl hdocument)
  · rw [hi]
    intro path content heq
    have hlast := congrArg List.getLast? heq
    rw [List.getLast?_concat] at hlast
    exact hopen path content (Option.some.inj hlast)
  · rw [hi]
    intro path content q hmem
    rw [List.mem_append, List.mem_singleton] at hmem
    cases hmem with
    | inl hmem =>
      cases hasked with
      | inl hnil =>
        rw [hnil] at hmem
        cases hmem
      | inr ht =>
        obtain ⟨target, ht⟩ := ht
        exact not_written_of_targets ht path content _ hmem
    | inr heq => exact hwrite path content q heq.symm

theorem ne_of_failure {r : HostRequest} {reply? : Option HostResponse} {m : String}
    (hm : r.failure? reply? = some m)
    : (∀ path content, (r, reply?) ≠ (.openFile, some (.openResult (.opened path content))))
      ∧ ∀ path content q, (r, reply?) ≠ (.writeFile path content, some (.writeOutcome (.written q))) := by
  constructor
  · intro path content heq
    cases heq
    cases hm
  · intro path content q heq
    cases heq
    cases hm

theorem effect_of_performed (hfs : FileSystem.Lawful content? Apart) {w : Workplace σ φ}
    {ds : List Deed} (h : w.shell.Performed a (Deed.exchanges ds) s')
    (hserved : Served (answer dialogs) w.desk (Deed.exchanges ds) d')
    : Effect content? Apart w (.action a ds) ⟨s', d'⟩ := by
  have hnone (hempty : Deed.exchanges ds = [])
      (hedited : w.shell.editor.document.Edited s'.editor.document)
      : Effect content? Apart w (.action a ds) ⟨s', d'⟩ := by
    have hi : (Happening.action a ds).exchanges = [] := hempty
    rw [hempty] at hserved
    apply Effect.edited
    · rw [hi]
      intro path content heq
      cases heq
    · rw [hi]
      intro path content q hmem
      cases hmem
    · rw [hserved]
    · exact hedited
  generalize hds : Deed.exchanges ds = exchanges at h hserved hnone
  cases h with
  | run => exact hnone rfl (.refl _)
  | newFile =>
    refine .renewed hds ?_ rfl
    rw [hserved]
  | opened path content =>
    obtain ⟨hstore, hcontent⟩ := served_openFile dialogs hfs hserved
    exact .opened path content hds hstore (hcontent path content rfl) rfl
  | openCanceled =>
    obtain ⟨hstore, -⟩ := served_openFile dialogs hfs hserved
    apply edited_of_store (.inl rfl) hds
    · intro path content heq
      cases heq
    · intro path content q heq
      cases heq
    · exact hstore
    · rfl
  | openFailed hm =>
    obtain ⟨hstore, -⟩ := served_openFile dialogs hfs hserved
    obtain ⟨hopen, hwrite⟩ := ne_of_failure hm
    exact edited_of_store (.inl rfl) hds hopen hwrite hstore rfl
  | written path message ht =>
    obtain ⟨d₁, hstore, hserved⟩ := served_targets dialogs ht hserved
    cases served_writeFile dialogs hfs hserved with
    | inl hwritten =>
      obtain ⟨hreply, hcontent, hapart⟩ := hwritten
      cases hreply
      rw [hstore] at hapart
      exact .saved _ _ ht hds rfl hcontent hapart
    | inr hfailed =>
      obtain ⟨⟨error, hreply⟩, -⟩ := hfailed
      cases hreply
  | writeFailed ht hm =>
    obtain ⟨d₁, hstore, hserved⟩ := served_targets dialogs ht hserved
    cases served_writeFile dialogs hfs hserved with
    | inl hwritten =>
      rw [hwritten.1] at hm
      cases hm
    | inr hfailed =>
      have hsame := hfailed.2
      rw [hstore] at hsame
      obtain ⟨hopen, hwrite⟩ := ne_of_failure hm
      exact edited_of_store (.inr ⟨_, ht⟩) hds hopen hwrite hsame rfl
  | targetCanceled ha =>
    have hstore := served_saveFileAs dialogs hserved
    apply edited_of_store (.inl rfl) hds
    · intro path content heq
      cases heq
    · intro path content q heq
      cases heq
    · exact congrArg content? hstore
    · rfl
  | targetFailed ha hm =>
    have hstore := served_saveFileAs dialogs hserved
    obtain ⟨hopen, hwrite⟩ := ne_of_failure hm
    exact edited_of_store (.inl rfl) hds hopen hwrite (congrArg content? hstore) rfl
  | toggleTheme => exact hnone rfl (.refl _)
  | insertFunction => exact hnone rfl (Shell.edited_insertFunction _)
  | quit => exact hnone rfl (.refl _)

end Steps

theorem edited_of_step {s s' : Shell} {i : Happening} (hi : ∀ a ds, i ≠ .action a ds) (h : s.Step i s')
    : s.editor.document.Edited s'.editor.document := by
  cases h with
  | terminal heq => exact Shell.edited_handleTerminal? heq
  | action hcourse => exact absurd rfl (hi _ _)
  | event e =>
    apply Editor.edited_of_eq
    unfold Shell.handleEvent
    split
    · unfold Shell.finishRun
      split
      · rfl
      · split <;> rfl
    · unfold Shell.applyFunctions
      split <;> rfl
  | ping url result =>
    apply Editor.edited_of_eq
    unfold Shell.applyPing
    dsimp only
    split <;> rfl
  | loadFunctions => exact .refl s.editor.document
  | fault message => exact .refl s.editor.document
  | draw height => exact .refl s.editor.document

theorem step_effect (hfs : FileSystem.Lawful content? Apart) {w w' : Workplace σ φ} {i : Happening}
    (h : Step dialogs w i w')
    : Effect content? Apart w i w' := by
  cases h with
  | perform a =>
    have hrun : ((w.shell.perform a).play (Host.answer dialogs)).run (w.desk, [])
        = ((w.after dialogs a).shell, (w.after dialogs a).desk, w.deeds dialogs a) := rfl
    obtain ⟨hcourse, hserved⟩ := Interaction.course_of_play hrun
    exact effect_of_performed dialogs hfs (Shell.performed_of_course hcourse) hserved
  | other hi hs =>
    have hnone : i.exchanges = [] := by
      cases i with
      | action a ds => exact absurd rfl (hi a ds)
      | terminal | event | ping | loadFunctions | fault | draw => rfl
    apply Effect.edited
    · rw [hnone]
      intro path content heq
      cases heq
    · rw [hnone]
      intro path content q hmem
      cases hmem
    · rfl
    · exact edited_of_step hi hs

omit [FileSystem φ] in
theorem truthful_of_effect {w w' : Workplace σ φ} {i : Happening} (h : w.Truthful content?)
    (he : Effect content? Apart w i w')
    : w'.Truthful content? := by
  intro p hp
  cases he with
  | edited hopen hwrite hstore hedited =>
    rw [hstore]
    cases hedited with
    | inl hsame =>
      unfold CleanAt Editor.path? at hp
      rw [hsame] at hp
      unfold bytes Editor.text
      rw [hsame]
      exact h p hp
    | inr hdirty =>
      -- a change that is marked promises nothing
      have hclean := hp.2
      rw [hdirty.2] at hclean
      contradiction
  | renewed hds hstore hpath =>
    have hsome := hp.1
    rw [hpath] at hsome
    contradiction
  | opened path content hds hstore hcontent hdocument =>
    have hpath := hp.1
    unfold Editor.path? at hpath
    rw [hdocument] at hpath
    cases hpath
    unfold bytes Editor.text
    rw [hdocument, hstore, hcontent]
    dsimp only
    rw [String.ofList_toList]
  | saved asked path ht hds hdocument hcontent hapart =>
    have hpath := hp.1
    unfold Editor.path? at hpath
    rw [hdocument] at hpath
    cases hpath
    rw [hcontent]
    unfold bytes Editor.text
    rw [hdocument]

theorem content_of_history (hfs : FileSystem.Lawful content? Apart) {first w : Workplace σ φ}
    {past : List (Workplace σ φ × Happening)} {p : Path} (h : History (Step dialogs) first past w)
    (hpast : ∀ x ∈ past, ∀ path content q,
      (.writeFile path content, some (.writeOutcome (.written q))) ∈ x.2.exchanges → Apart path p)
    : content? w.desk.store p = content? first.desk.store p := by
  induction h with
  | nil => rfl
  | snoc hpre hs ih =>
    have hprev := ih fun x hx => hpast x (List.mem_append_left _ hx)
    have hlast := hpast _ (List.mem_append_right _ (List.mem_singleton.2 rfl))
    rw [← hprev]
    cases step_effect dialogs hfs hs with
    | edited hopen hwrite hstore hedited => rw [hstore]
    | renewed hds hstore hpath => rw [hstore]
    | opened path content hds hstore hcontent hdocument => rw [hstore]
    | saved asked path ht hds hdocument hcontent hapart =>
      apply hapart
      apply hlast path (String.ofList _) path
      unfold Happening.exchanges
      dsimp only
      rw [hds]
      exact List.mem_append_right _ (List.mem_singleton.2 rfl)

theorem saved_of_written (hfs : FileSystem.Lawful content? Apart) {w w' : Workplace σ φ}
    {a : ShellAction} {ds : List Deed} {p q : Path} {content : String}
    (h : Step dialogs w (.action a ds) w')
    (hmem : (.writeFile p content, some (.writeOutcome (.written q))) ∈ Deed.exchanges ds)
    : content? w'.desk.store p = some w.bytes := by
  cases step_effect dialogs hfs h with
  | edited hopen hwrite hstore hedited => exact absurd hmem (hwrite p content q)
  | renewed hds hstore hpath =>
    rw [hds] at hmem
    cases hmem
  | opened path content hds hstore hcontent hdocument =>
    rw [hds] at hmem
    cases List.mem_singleton.1 hmem
  | saved asked path ht hds hdocument hcontent hapart =>
    rw [hds, List.mem_append, List.mem_singleton] at hmem
    cases hmem with
    | inl hmem => exact absurd hmem (not_written_of_targets ht p content _)
    | inr heq =>
      cases heq
      exact hcontent

theorem bytes_of_opened (hfs : FileSystem.Lawful content? Apart) {w w' : Workplace σ φ}
    {a : ShellAction} {ds : List Deed} {p : Path} {content : String}
    (h : Step dialogs w (.action a ds) w')
    (hds : Deed.exchanges ds = [(.openFile, some (.openResult (.opened p content)))])
    : content? w.desk.store p = some w'.bytes := by
  cases step_effect dialogs hfs h with
  | edited hopen hwrite hstore hedited => exact absurd hds (hopen p content)
  | renewed hds' hstore hpath =>
    rw [hds'] at hds
    cases hds
  | opened path content hds' hstore hcontent hdocument =>
    rw [hds'] at hds
    cases hds
    rw [hcontent]
    unfold bytes Editor.text
    rw [hdocument]
    dsimp only
    rw [String.ofList_toList]
  | saved asked path ht hds' hdocument hcontent hapart =>
    rw [hds'] at hds
    exact absurd hds (ne_opened_of_targets ht (by simp) p content)

omit [FileSystem φ] in
theorem text_of_bytes {w w' : Workplace σ φ} (h : w.bytes = w'.bytes)
    : w.shell.editor.text = w'.shell.editor.text := by
  have htext := String.toByteArray_inj.1 h
  exact String.ofList_injective htext

theorem saved_truthfully (hfs : FileSystem.Lawful content? Apart) (r : Registry) (theme : String)
    (desk : Desk σ φ) {past : List (Workplace σ φ × Happening)} {w : Workplace σ φ}
    (h : History (Step dialogs) ⟨Shell.start r theme, desk⟩ past w)
    : w.Truthful content?
      ∧ (∀ i w', Step dialogs w i w' → w'.shell.editor.text ≠ w.shell.editor.text →
          w'.shell.editor.document.dirty = true
          ∨ (∃ ds, i = .action .newFile ds)
          ∨ ∃ ds path content, i = .action .openFile ds
            ∧ Deed.exchanges ds = [(.openFile, some (.openResult (.opened path content)))])
      ∧ ∀ a ds w₁ p content, Step dialogs w (.action a ds) w₁ →
          (.writeFile p content, some (.writeOutcome (.written p))) ∈ Deed.exchanges ds →
          ∀ past' w₂, History (Step dialogs) w₁ past' w₂ →
          (∀ x ∈ past', ∀ path content q,
            (.writeFile path content, some (.writeOutcome (.written q))) ∈ x.2.exchanges → Apart path p) →
          ∀ ds' w₃ content', Step dialogs w₂ (.action .openFile ds') w₃ →
          Deed.exchanges ds' = [(.openFile, some (.openResult (.opened p content')))] →
          w₃.shell.editor.text = w.shell.editor.text := by
  refine ⟨?_, ?_, ?_⟩
  · apply History.invariant _ _ h
    · intro p hp
      cases hp.1
    · intro w i w' hw hs
      exact truthful_of_effect hw (step_effect dialogs hfs hs)
  · intro i w' hs hne
    cases step_effect dialogs hfs hs with
    | edited hopen hwrite hstore hedited =>
      cases hedited with
      | inl hsame =>
        unfold Editor.text at hne
        rw [hsame] at hne
        exact absurd rfl hne
      | inr hdirty => exact .inl hdirty.2
    | renewed hds hstore hpath => exact .inr (.inl ⟨_, rfl⟩)
    | opened path content hds hstore hcontent hdocument =>
      exact .inr (.inr ⟨_, path, content, rfl, hds⟩)
    | saved asked path ht hds hdocument hcontent hapart =>
      unfold Editor.text at hne
      rw [hdocument] at hne
      exact absurd rfl hne
  · intro a ds w₁ p content hsave hmem past' w₂ hpast' hapart ds' w₃ content' hopen hds'
    -- from the write to the read the file is left alone
    have hsaved := saved_of_written dialogs hfs hsave hmem
    have hkept := content_of_history dialogs hfs hpast' hapart
    have hopened := bytes_of_opened dialogs hfs hopen hds'
    rw [hkept, hsaved] at hopened
    exact text_of_bytes (Option.some.inj hopened).symm

def novice : Workplace ScriptedPickers FileStore where
  shell := .start Shell.builtIn "vs-dark"
  desk := { pickers := { saves := [.ok (some "a")], opens := [.ok (some "a.oc")] }, store := {} }

theorem saved_truthfully_novice
    : FileSystem.Lawful (fun (s : FileStore) p => (s.read p).toOption)
        (fun p q => FileStore.placeOf p ≠ FileStore.placeOf q)
      ∧ (novice.after ScriptedPickers.dialogs .saveAs).CleanAt "a.oc"
      ∧ ((novice.after ScriptedPickers.dialogs .saveAs).desk.store.read "a.oc").toOption
          = some (novice.after ScriptedPickers.dialogs .saveAs).bytes
      ∧ (((novice.after ScriptedPickers.dialogs .saveAs).after ScriptedPickers.dialogs .newFile).after
          ScriptedPickers.dialogs .openFile).shell.editor.text = Shell.welcomeText.toList := by
  have hstep (w : Workplace ScriptedPickers FileStore) (a : ShellAction)
      : Step ScriptedPickers.dialogs w (.action a (w.deeds ScriptedPickers.dialogs a))
          (w.after ScriptedPickers.dialogs a) := .perform w a
  have hclean : (novice.after ScriptedPickers.dialogs .saveAs).CleanAt "a.oc" := by
    unfold CleanAt
    decide +kernel
  have htruthful := saved_truthfully ScriptedPickers.dialogs FileStore.lawful Shell.builtIn "vs-dark"
    novice.desk (History.nil.snoc (hstep novice .saveAs))
  have hreopened := saved_truthfully ScriptedPickers.dialogs FileStore.lawful Shell.builtIn "vs-dark"
    novice.desk .nil
  refine ⟨FileStore.lawful, hclean, htruthful.1 "a.oc" hclean, ?_⟩
  apply hreopened.2.2 _ _ _ "a.oc" Shell.welcomeText (hstep novice .saveAs) _ _ _
    (History.nil.snoc (hstep _ .newFile)) _ _ _ Shell.welcomeText (hstep _ .openFile)
  · decide +kernel
  · decide +kernel
  · intro x hx path content q hmem
    rw [List.mem_append, List.mem_singleton] at hx
    cases hx with
    | inl hx => cases hx
    | inr hx =>
      rw [hx] at hmem
      cases hmem

end Workplace
end Workbench
