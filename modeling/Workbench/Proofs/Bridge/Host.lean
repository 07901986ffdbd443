import Workbench.Bridge.Host
import Workbench.Proofs.Files.Laws

/-!
What the host does to the files when it answers a request.
-/

namespace Workbench
namespace Host

variable {σ φ : Type}

section Runs

variable {α β : Type} (d : Desk σ φ)

theorem run_bind (x : StateM (Desk σ φ) α) (f : α → StateM (Desk σ φ) β)
    : (x >>= f).run d = (f (x.run d).1).run (x.run d).2 := by
  rfl

theorem run_pure (a : α) : (pure a : StateM (Desk σ φ) α).run d = (a, d) := by
  rfl

theorem run_pick (ask : StateM σ PickResult)
    : (pick ask).run d = ((ask.run d.pickers).1, { d with pickers := (ask.run d.pickers).2 }) := by
  rfl

theorem run_onFiles (act : StateM φ α)
    : (onFiles act).run d = ((act.run d.store).1, { d with store := (act.run d.store).2 }) := by
  rfl

theorem store_log (level : LogLevel) (message : String) (fields : List (String × LogValue))
    : ((log level message fields).run d).2.store = d.store := by
  rfl

end Runs

variable [FileSystem φ] {content? : φ → Path → Option ByteArray} {Apart : Path → Path → Prop}
  (dialogs : Dialogs σ)

def answer (r : HostRequest) : StateM (Desk σ φ) (Option HostResponse) :=
  some <$> handle dialogs (.of r)

theorem openFile_spec (hfs : FileSystem.Lawful content? Apart) (d : Desk σ φ)
    : content? ((openFile dialogs).run d).2.store = content? d.store
      ∧ ∀ path content, ((openFile dialogs).run d).1 = .opened path content →
        content? d.store path = some content.toUTF8 := by
  unfold openFile
  rw [run_bind, run_pick]
  dsimp only
  split
  · rw [run_pure]
    exact ⟨rfl, fun path content h => by contradiction⟩
  · rw [run_pure]
    exact ⟨rfl, fun path content h => by contradiction⟩
  · next path hpick =>
    rw [run_bind, run_onFiles]
    dsimp only
    split
    · next content hread =>
      rw [run_bind, run_pure]
      dsimp only
      rw [store_log]
      refine ⟨hfs.readText_content path d.store, ?_⟩
      intro path' content' h
      cases h
      exact hfs.readText_ok path d.store content hread
    · rw [run_bind, run_pure]
      dsimp only
      rw [store_log]
      exact ⟨hfs.readText_content path d.store, fun path content h => by contradiction⟩

omit [FileSystem φ] in
theorem saveFileAs_store (d : Desk σ φ) (name : String)
    : ((saveFileAs dialogs name).run d).2.store = d.store := by
  unfold saveFileAs
  dsimp only
  rw [run_bind, run_pick]
  dsimp only
  split
  · rfl
  · rfl
  · rfl

theorem writeFile_spec (hfs : FileSystem.Lawful content? Apart) (d : Desk σ φ) (path : Path)
    (content : String)
    : (∃ d', (writeFile path content).run d = (.written path, d')
          ∧ content? d'.store path = some content.toUTF8
          ∧ ∀ q, Apart path q → content? d'.store q = content? d.store q)
      ∨ ∃ error d', (writeFile path content).run d = (.failed error, d')
          ∧ content? d'.store = content? d.store := by
  unfold writeFile
  rw [run_bind, run_onFiles]
  dsimp only
  split
  · next hwrite =>
    refine .inl ⟨_, rfl, ?_, ?_⟩
    · exact hfs.write_ok path content.toUTF8 d.store hwrite
    · exact fun q hq => hfs.write_apart path q content.toUTF8 d.store hq hwrite
  · next e hwrite =>
    exact .inr ⟨_, _, rfl, hfs.write_error path content.toUTF8 d.store e hwrite⟩

theorem answer_openFile (hfs : FileSystem.Lawful content? Apart) (d : Desk σ φ)
    : content? ((answer dialogs .openFile).run d).2.store = content? d.store
      ∧ ∀ path content,
        ((answer dialogs .openFile).run d).1 = some (.openResult (.opened path content)) →
        content? d.store path = some content.toUTF8 := by
  obtain ⟨log, hrun⟩ : ∃ log, (answer dialogs .openFile).run d
      = (some (.openResult ((openFile dialogs).run { d with log }).1),
        ((openFile dialogs).run { d with log }).2) := ⟨_, rfl⟩
  have hspec := openFile_spec dialogs hfs { d with log }
  rw [hrun]
  refine ⟨hspec.1, ?_⟩
  intro path content h
  rw [Option.some.injEq, HostResponse.openResult.injEq] at h
  exact hspec.2 path content h

theorem answer_saveFileAs (d : Desk σ φ) (name : String)
    : ((answer dialogs (.saveFileAs name)).run d).2.store = d.store := by
  obtain ⟨log, hrun⟩ : ∃ log, (answer dialogs (.saveFileAs name)).run d
      = (some (.saveTarget ((saveFileAs dialogs name).run { d with log }).1),
        ((saveFileAs dialogs name).run { d with log }).2) := ⟨_, rfl⟩
  rw [hrun]
  exact saveFileAs_store dialogs { d with log } name

theorem answer_writeFile (hfs : FileSystem.Lawful content? Apart) (d : Desk σ φ) (path : Path)
    (content : String)
    : (∃ d', (answer dialogs (.writeFile path content)).run d = (some (.writeOutcome (.written path)), d')
          ∧ content? d'.store path = some content.toUTF8
          ∧ ∀ q, Apart path q → content? d'.store q = content? d.store q)
      ∨ ∃ error d', (answer dialogs (.writeFile path content)).run d
            = (some (.writeOutcome (.failed error)), d')
          ∧ content? d'.store = content? d.store := by
  obtain ⟨log, hrun⟩ : ∃ log, (answer dialogs (.writeFile path content)).run d
      = (some (.writeOutcome ((writeFile path content).run { d with log }).1),
        ((writeFile path content).run { d with log }).2) := ⟨_, rfl⟩
  rw [hrun]
  cases writeFile_spec hfs { d with log } path content with
  | inl hwritten =>
    obtain ⟨d', heq, hcontent⟩ := hwritten
    rw [heq]
    exact .inl ⟨d', rfl, hcontent⟩
  | inr hfailed =>
    obtain ⟨error, d', heq, hcontent⟩ := hfailed
    rw [heq]
    exact .inr ⟨error, d', rfl, hcontent⟩

theorem run_handle_of_ne (e : Envelope) (d : Desk σ φ) (h : e.version ≠ protocolVersion)
    : ∃ event, (handle dialogs e).run d
        = (.rejected s!"unsupported protocol version {e.version} (host speaks {protocolVersion})",
            { d with log := d.log ++ [event] }) := by
  unfold handle
  rw [if_pos h]
  exact ⟨_, rfl⟩

theorem run_handle_of_eq (e : Envelope) (d : Desk σ φ) (h : e.version = protocolVersion)
    : ∃ log, (handle dialogs e).run d = match e.request with
        | .openFile =>
          (.openResult ((openFile dialogs).run { d with log }).1, ((openFile dialogs).run { d with log }).2)
        | .saveFileAs name =>
          (.saveTarget ((saveFileAs dialogs name).run { d with log }).1,
            ((saveFileAs dialogs name).run { d with log }).2)
        | .writeFile path content =>
          (.writeOutcome ((writeFile path content).run { d with log }).1,
            ((writeFile path content).run { d with log }).2) := by
  unfold handle
  rw [if_neg (not_not_intro h)]
  cases e.request with
  | openFile => exact ⟨_, rfl⟩
  | saveFileAs name => exact ⟨_, rfl⟩
  | writeFile path content => exact ⟨_, rfl⟩

theorem openFile_store (d : Desk σ φ)
    : ((openFile dialogs).run d).2.store = d.store
      ∨ ∃ path, ((openFile dialogs).run d).2.store = ((FileSystem.readText path).run d.store).2 := by
  unfold openFile
  rw [run_bind, run_pick]
  dsimp only
  split
  · exact .inl rfl
  · exact .inl rfl
  · next path hpick =>
    refine .inr ⟨path, ?_⟩
    rw [run_bind, run_onFiles]
    dsimp only
    split
    · rfl
    · rfl

theorem writeFile_store (d : Desk σ φ) (path : Path) (content : String)
    : ((writeFile path content).run d).2.store
      = ((FileSystem.write path content.toUTF8).run d.store).2 := by
  unfold writeFile
  rw [run_bind, run_onFiles]
  dsimp only
  split
  · rfl
  · rfl

end Host

def HostRequest.Matches : HostRequest → HostResponse → Prop
  | openFile, .openResult _ => True
  | saveFileAs _, .saveTarget _ => True
  | writeFile _ _, .writeOutcome _ => True
  | _, _ => False

/-- What a request may do to the files: opening reads one of them, and writing writes its own. -/
inductive HostRequest.Access {φ : Type} [FileSystem φ] : HostRequest → φ → φ → Prop where
  | none {r : HostRequest} (s : φ) : (∀ path content, r ≠ .writeFile path content) → Access r s s
  | read (path : Path) (s : φ) : Access .openFile s ((FileSystem.readText path).run s).2
  | write (path : Path) (content : String) (s : φ) :
    Access (.writeFile path content) s ((FileSystem.write path content.toUTF8).run s).2

/-- Reading leaves the files alone, and writing to one path, also where it fails, leaves alone what the
paths apart from it hold. -/
structure FileSystem.Confined {φ : Type} [FileSystem φ] (content? : φ → Path → Option ByteArray)
    (Apart : Path → Path → Prop) : Prop where
  readText_content : ∀ p s, content? ((FileSystem.readText p).run s).2 = content? s
  write_apart : ∀ p q bytes s, Apart p q →
    content? ((FileSystem.write p bytes).run s).2 q = content? s q

theorem FileSystem.Lawful.confined {φ : Type} [FileSystem φ] {content? : φ → Path → Option ByteArray}
    {Apart : Path → Path → Prop} (hfs : FileSystem.Lawful content? Apart)
    : FileSystem.Confined content? Apart where
  readText_content := hfs.readText_content
  write_apart p q bytes s hpq := by
    cases hwrite : ((FileSystem.write p bytes).run s).1 with
    | ok u => exact hfs.write_apart p q bytes s hpq hwrite
    | error e => rw [hfs.write_error p bytes s e hwrite]

namespace Host

variable {σ φ : Type} [FileSystem φ] {content? : φ → Path → Option ByteArray}
  {Apart : Path → Path → Prop} (dialogs : Dialogs σ)

theorem handle_matches (e : Envelope) (d : Desk σ φ) (h : e.version = protocolVersion)
    : e.request.Matches ((handle dialogs e).run d).1 := by
  obtain ⟨log, hrun⟩ := run_handle_of_eq dialogs e d h
  rw [hrun]
  cases e.request with
  | openFile => trivial
  | saveFileAs name => trivial
  | writeFile path content => trivial

theorem handle_access (e : Envelope) (d : Desk σ φ) (h : e.version = protocolVersion)
    : e.request.Access d.store ((handle dialogs e).run d).2.store := by
  obtain ⟨log, hrun⟩ := run_handle_of_eq dialogs e d h
  rw [hrun]
  cases e.request with
  | openFile =>
    dsimp only
    cases openFile_store dialogs { d with log } with
    | inl hsame =>
      rw [hsame]
      exact .none d.store (by simp)
    | inr hread =>
      obtain ⟨path, hread⟩ := hread
      rw [hread]
      exact .read path d.store
  | saveFileAs name =>
    dsimp only
    rw [saveFileAs_store]
    exact .none d.store (by simp)
  | writeFile path content =>
    dsimp only
    rw [writeFile_store]
    exact .write path content d.store

theorem content_of_access (hfs : FileSystem.Confined content? Apart) {r : HostRequest} {s s' : φ}
    (h : r.Access s s')
    : ((∀ path content, r ≠ .writeFile path content) → content? s' = content? s)
      ∧ ∀ path content q, r = .writeFile path content → Apart path q →
        content? s' q = content? s q := by
  cases h with
  | none s hne =>
    refine ⟨fun _ => rfl, ?_⟩
    intro path content q heq
    exact absurd heq (hne path content)
  | read path s =>
    refine ⟨fun _ => hfs.readText_content path s, ?_⟩
    intro path content q heq
    contradiction
  | write path content s =>
    constructor
    · intro hne
      exact absurd rfl (hne path content)
    · intro path' content' q heq hq
      cases heq
      exact hfs.write_apart path q content.toUTF8 s hq

end Host
end Workbench
