import Workbench.Log.Level
import Workbench.Screen.View
import Workbench.Screen.Theme
import Workbench.Text.Trim

/-!
What the user may set.
-/

namespace Workbench

structure Settings where
  theme : String := Theme.dark.name
  showLineNumbers : Bool := true
  showFunctions : Bool := true
  tabWidth : Nat := 4
  serviceUrl : String := "http://127.0.0.1:5000"
  /-- How many seconds a run may take; it may take any time if there is no number. -/
  runTimeout? : Option Nat := none
  logLevel : LogLevel := .info
deriving DecidableEq, Repr

namespace Settings

def runTimeoutMillis? (s : Settings) : Option Nat :=
  s.runTimeout?.map (1000 * ·)

def overrideServiceUrl (s : Settings) (url? : Option String) : Settings :=
  match url?.map Text.trimString with
  | none | some "" => s
  | some url => { s with serviceUrl := url }

def viewOptions (s : Settings) : ViewOptions where
  showLineNumbers := s.showLineNumbers
  showFunctions := s.showFunctions
  tabWidth := s.tabWidth

end Settings

end Workbench
