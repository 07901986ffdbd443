import Workbench.Script.Eval

/-!
The loading of scripts in the language of this library.
-/

namespace Workbench.Settings

def runScript (s : Settings) (script : String) : ScriptReport :=
  Script.interpreter.runScript s script

def loadScript (s : Settings) (store : FileStore) (path : Path) : ScriptReport :=
  Script.interpreter.loadScript s store path

def loadUserScript (s : Settings) (store : FileStore) (home : Path) : ScriptReport :=
  Script.interpreter.loadUserScript s store home

end Workbench.Settings
