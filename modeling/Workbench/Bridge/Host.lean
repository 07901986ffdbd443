import Workbench.Bridge.Message
import Workbench.Files.System
import Workbench.Log.Event
import Workbench.Picker.Filter

/-!
The file host: it alone shows pickers and touches files. Whatever goes wrong there is an outcome in its
response. An envelope of another version is refused before anything is done.
-/

namespace Workbench

structure Dialogs (σ : Type) where
  pickOpen : List FileFilter → StateM σ PickResult
  pickSave : String → List FileFilter → StateM σ PickResult

def withDefaultExtension (p : Path) : Path :=
  if p.extension?.any (· ≠ "") then p else p.withExtension Language.Builtin.defaultExtension

structure Desk (σ φ : Type) where
  pickers : σ
  store : φ
  log : List LogEvent := []

namespace Host

variable {σ φ : Type}

def log (level : LogLevel) (message : String) (fields : List (String × LogValue)) :
    StateM (Desk σ φ) Unit :=
  modify fun d =>
    { d with log := d.log ++ [{ level, target := "ocide::bridge::host", message, fields }] }

def pick (ask : StateM σ PickResult) : StateM (Desk σ φ) PickResult :=
  modifyGet fun d =>
    let (answer, pickers) := ask.run d.pickers
    (answer, { d with pickers })

def onFiles {α : Type} (act : StateM φ α) : StateM (Desk σ φ) α :=
  modifyGet fun d =>
    let (result, store) := act.run d.store
    (result, { d with store })

def openFile [FileSystem φ] (dialogs : Dialogs σ) : StateM (Desk σ φ) FileOpenResult := do
  match ← pick (dialogs.pickOpen FileFilter.forOpen) with
  | .error e => return .failed e.message
  | .ok none => return .canceled
  | .ok (some path) =>
    match ← onFiles (FileSystem.readText path) with
    | .ok content =>
      log .info "opened file" [("path", .plain path), ("bytes", .number content.utf8ByteSize)]
      return .opened path content
    | .error e =>
      log .warn "open failed" [("path", .plain path), ("error", .plain e)]
      return .failed s!"{path}: {e}"

def saveFileAs (dialogs : Dialogs σ) (defaultName : String) : StateM (Desk σ φ) SaveTarget := do
  let name := if defaultName.isEmpty then Language.Builtin.untitledName else defaultName
  match ← pick (dialogs.pickSave name FileFilter.forSave) with
  | .error e => return .failed e.message
  | .ok none => return .canceled
  | .ok (some path) => return .chosen (withDefaultExtension path)

def writeFile [FileSystem φ] (path : Path) (content : String) : StateM (Desk σ φ) WriteOutcome := do
  match ← onFiles (FileSystem.write path content.toUTF8) with
  | .ok () =>
    log .info "wrote file" [("path", .plain path), ("bytes", .number content.utf8ByteSize)]
    return .written path
  | .error e =>
    log .warn "write failed" [("path", .plain path), ("error", .plain e)]
    return .failed s!"{path}: {e}"

def handle [FileSystem φ] (dialogs : Dialogs σ) (envelope : Envelope) :
    StateM (Desk σ φ) HostResponse := do
  if envelope.version ≠ protocolVersion then
    log .warn "rejected bridge request"
      [("version", .number envelope.version.toNat), ("expected", .number protocolVersion.toNat)]
    return .rejected
      s!"unsupported protocol version {envelope.version} (host speaks {protocolVersion})"
  log .debug "bridge request" [("channel", .quoted envelope.request.channel)]
  match envelope.request with
  | .openFile => .openResult <$> openFile dialogs
  | .saveFileAs defaultName => .saveTarget <$> saveFileAs dialogs defaultName
  | .writeFile path content => .writeOutcome <$> writeFile path content

end Host

end Workbench
