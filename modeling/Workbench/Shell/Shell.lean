import Workbench.Bridge.Client
import Workbench.Editor.Editor
import Workbench.Language.Builtin
import Workbench.Screen.Theme
import Workbench.Service.Error
import Workbench.Shell.Interaction
import Workbench.Shell.Panels

/-!
The shell: it owns the document and the panels, and turns commands into changes of them, requests to the
file host and runs on the service. Every run has a number of its own, and only the result of the run that
was started last is shown.
-/

namespace Workbench

inductive ShellAction where
  | run
  | newFile
  | openFile
  | save
  | saveAs
  | toggleTheme
  | insertFunction
  | quit
deriving DecidableEq, Repr

def ShellAction.name : ShellAction → String
  | run => "Run"
  | newFile => "NewFile"
  | openFile => "Open"
  | save => "Save"
  | saveAs => "SaveAs"
  | toggleTheme => "ToggleTheme"
  | insertFunction => "InsertFunction"
  | quit => "Quit"

inductive ShellEvent where
  | runFinished (id : Nat) (result : RunResult)
  | functionsLoaded (result : ListResult)

inductive SaveState where
  | idle
  | awaitingTarget
  | awaitingWrite (path : Path)
deriving DecidableEq, Repr

def SaveState.label : SaveState → String
  | idle => "Idle"
  | awaitingTarget => "AwaitingTarget"
  | awaitingWrite path => "AwaitingWrite \x7b path: " ++ Text.quote path ++ " \x7d"

structure Shell where
  editor : Editor := {}
  output : OutputPanel := .empty
  functions : FunctionPanel := .loading
  registry : Registry
  theme : String
  saveState : SaveState := .idle
  runCount : Nat := 0
  activeRun? : Option Nat := none
  running : Bool := true

namespace Shell

def welcomeText : String := "# Welcome to OpenCode IDE\nprint hi"

def untitledLanguage? (r : Registry) : Option String :=
  r.languageForPath? Language.Builtin.untitledName

def start (registry : Registry) (theme : String) : Shell :=
  { registry, theme,
    editor := Editor.setDocument {} welcomeText.toList none (untitledLanguage? registry) }

def documentName (s : Shell) : String :=
  (s.editor.path?.bind (Path.fileName? ·)).getD Language.Builtin.untitledName

def notice (s : Shell) (message : String) : Shell :=
  { s with output := .notice message }

def fail (s : Shell) (message : String) : Shell :=
  { s with output := .error message }

def logged (level : LogLevel) (message : String) (fields : List (String × LogValue)) : Signal :=
  .log { level, target := "ocide::shell::controller", message, fields }

def needsTerminal (s : Shell) : ShellAction → Bool
  | .openFile | .saveAs => true
  | .save => s.editor.path?.isNone
  | _ => false

def quit (s : Shell) : Shell × List Signal :=
  ({ s with activeRun? := none, running := false }, (s.activeRun?.map Signal.stopRun).toList)

def newFile (s : Shell) : Shell :=
  { s with editor := s.editor.setDocument [] none (untitledLanguage? s.registry) }.notice
    "New file ready."

def toggleTheme (s : Shell) : Shell × List Signal :=
  let theme := Theme.toggled s.theme
  ({ s with theme }, [logged .debug "theme toggled" [("theme", .plain theme)]])

def beginRun (s : Shell) : Shell × List Signal :=
  let id := s.runCount + 1
  let stopped := s.activeRun?.toList.flatMap fun previous =>
    [.stopRun previous, logged .debug "superseded run aborted" [("run_id", .number previous)]]
  let started :=
    [logged .info "run started"
        [("run_id", .number id), ("bytes", .number (Text.Utf8.size s.editor.text))],
      .startRun id s.editor.text]
  ({ s with runCount := id, activeRun? := some id, output := .running }, stopped ++ started)

def finishRun (s : Shell) (id : Nat) (result : RunResult) : Shell × List Signal :=
  if s.activeRun? ≠ some id then
    (s, [logged .debug "stale run result ignored" [("run_id", .number id)]])
  else match result with
    | .ok output =>
      ({ s with activeRun? := none, output := .program output },
        [logged .info "run finished"
          [("run_id", .number id), ("bytes", .number output.utf8ByteSize)]])
    | .error e =>
      ({ s with activeRun? := none, output := .error e.message },
        [logged .warn "run failed" [("run_id", .number id), ("error", .plain e.message)]])

def loadFunctions (s : Shell) : Shell × List Signal :=
  ({ s with functions := .loading }, [.listFunctions])

def applyFunctions (s : Shell) : ListResult → Shell × List Signal
  | .ok names =>
    ({ s with functions := .ofNames names },
      [logged .info "functions loaded" [("count", .number names.length)]])
  | .error e =>
    ({ s with functions := .failed },
      [logged .warn "failed to load functions" [("error", .plain e.message)]])

def applyPing (s : Shell) (url : String) (result : Except ServiceError String) :
    Shell × List Signal :=
  let (output, event) := match result with
    | .ok reply =>
      (OutputPanel.notice s!"Execution service ready at {url}",
        logged .info "execution service reachable" [("url", .quoted url), ("reply", .plain reply)])
    | .error e =>
      (OutputPanel.error s!"execution service unavailable: {e.message}",
        logged .warn "execution service unreachable"
          [("url", .quoted url), ("error", .plain e.message)])
  (if s.output = .empty then { s with output } else s, [event])

def handleEvent (s : Shell) : ShellEvent → Shell × List Signal
  | .runFinished id result => s.finishRun id result
  | .functionsLoaded result => s.applyFunctions result

def insertFunction (s : Shell) : Shell :=
  match s.functions.selectedName? with
  | none => s
  | some name => { s with editor := s.editor.appendText ('\n' :: name.toList ++ [' ']) }

def afterOpen (s : Shell) (reply : Option HostResponse) : Shell :=
  match HostResponse.asOpenResult reply with
  | .ok (.opened path content) =>
    let language? := s.registry.languageForPath? path
    { s with editor := s.editor.setDocument content.toList (some path) language? }.notice
      s!"Opened: {path}"
  | .ok .canceled => s.notice "Open canceled."
  | .ok (.failed error) => s.fail error
  | .error e => s.fail e.message

def openFile (s : Shell) : Interaction Shell :=
  .request .openFile fun reply => .done (s.afterOpen reply)

def afterWrite (s : Shell) (path : Path) (content : String) (choice : Bool)
    (reply : Option HostResponse) : Shell :=
  let s := { s with saveState := .idle }
  match HostResponse.asWriteOutcome path content reply with
  | .ok (.written path) =>
    let editor := s.editor.markSaved path (s.registry.languageForPath? path)
    { s with editor }.notice ((if choice then "Saved as " else "Saved ") ++ path)
  | .ok (.failed error) => s.fail error
  | .error e => s.fail e.message

def writeTo (s : Shell) (path : Path) (choice : Bool) : Interaction Shell :=
  let content := String.ofList s.editor.text
  .request (.writeFile path content) fun reply => .done (s.afterWrite path content choice reply)

def saveAs (s : Shell) : Interaction Shell :=
  let name := s.documentName
  .request (.saveFileAs name) fun reply =>
    match HostResponse.asSaveTarget name reply with
    | .ok (.chosen path) => { s with saveState := .awaitingWrite path }.writeTo path true
    | .ok .canceled => .done ({ s with saveState := .idle }.notice "Save canceled.")
    | .ok (.failed error) => .done ({ s with saveState := .idle }.fail error)
    | .error e => .done ({ s with saveState := .idle }.fail e.message)

def save (s : Shell) : Interaction Shell :=
  match s.editor.path? with
  | some path => { s with saveState := .awaitingWrite path }.writeTo path false
  | none => saveAs { s with saveState := .awaitingTarget }

def settle (change : Shell × List Signal) : Interaction Shell :=
  .signals change.2 (.done change.1)

def perform (s : Shell) (action : ShellAction) : Interaction Shell :=
  .signal (logged .debug "shell action"
      [("action", .plain action.name), ("save_state", .plain s.saveState.label)])
    (match action with
      | .run => settle s.beginRun
      | .newFile => .done s.newFile
      | .openFile => s.openFile
      | .save => s.save
      | .saveAs => saveAs { s with saveState := .awaitingTarget }
      | .toggleTheme => settle s.toggleTheme
      | .insertFunction => .done s.insertFunction
      | .quit => settle s.quit)

end Shell

end Workbench
