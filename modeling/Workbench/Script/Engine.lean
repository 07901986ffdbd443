import Workbench.Config.Call
import Workbench.Files.Store
import Workbench.Log.Event

/-!
Scripts that configure the program, in whatever language. A script that runs reaches the settings by the functions
for them and by nothing else: it asks for a call, gets the answer, and goes on with it. What it has changed before
it fails stays changed.
-/

namespace Workbench

namespace Script

/-- What a run asks for, one thing after another, up to its end. -/
inductive Effects (α : Type) where
  | done (a : α)
  | call (c : SettingsCall) (next : Except SettingsError Value → Effects α)
  | report (e : LogEvent) (next : Effects α)

namespace Effects

def bind {α β : Type} : Effects α → (α → Effects β) → Effects β
  | done a, f => f a
  | call c next, f => call c fun answer => (next answer).bind f
  | report e next, f => report e (next.bind f)

instance : Monad Effects where
  pure := done
  bind := bind

structure Outcome (α : Type) where
  value : α
  settings : Settings
  log : List LogEvent := []

def run {α : Type} : Effects α → Settings → Outcome α
  | done a, settings => { value := a, settings }
  | call c next, settings =>
    let (answer, settings) := c.run settings
    (next answer).run settings
  | report e next, settings =>
    let outcome := next.run settings
    { outcome with log := e :: outcome.log }

end Effects

/--
A language for scripts. What a run does may depend on more than the text, such as a clock: two runs of one text
are then runs of two engines.
-/
structure Engine where
  /-- The effects of a text, with a message if it fails; `none` if the text is no program. -/
  effects? : String → Option (Effects (Except String Unit))

end Script

inductive ScriptError where
  | read (path : Path) (e : FileError)
  | parse
  | eval (message : String)
deriving Repr

def ScriptError.message? : ScriptError → Option String
  | read path e => some s!"failed to read {path}: {e.message}"
  | parse => none
  | eval message => some s!"config error: {message}"

structure ScriptReport where
  result : Except ScriptError Unit := .ok ()
  settings : Settings
  log : List LogEvent := []

namespace Settings

def scriptPath (home : Path) : Path :=
  Path.join home ".config/ocide/init.rhai"

end Settings

inductive ScriptSource where
  | text (script : String)
  | file (store : FileStore) (path : Path)
  | user (store : FileStore) (home : Path)

namespace Script.Engine

def runScript (engine : Engine) (s : Settings) (script : String) : ScriptReport :=
  match engine.effects? script with
  | none => { result := .error .parse, settings := s }
  | some effects =>
    let outcome := effects.run s
    { result := outcome.value.mapError .eval, settings := outcome.settings, log := outcome.log }

def loadScript (engine : Engine) (s : Settings) (store : FileStore) (path : Path) : ScriptReport :=
  match store.readText path with
  | .error e => { result := .error (.read path e), settings := s }
  | .ok script => engine.runScript s script

def loadUserScript (engine : Engine) (s : Settings) (store : FileStore) (home : Path) : ScriptReport :=
  let path := Settings.scriptPath home
  if !home.isEmpty && store.pathExists path then
    let event : LogEvent :=
      { level := .info, target := "ocide::scripting::engine", message := "loading config"
        fields := [("path", .plain path)] }
    let report := engine.loadScript s store path
    { report with log := event :: report.log }
  else { settings := s }

def load (engine : Engine) (s : Settings) : ScriptSource → ScriptReport
  | .text script => engine.runScript s script
  | .file store path => engine.loadScript s store path
  | .user store home => engine.loadUserScript s store home

end Script.Engine

end Workbench
