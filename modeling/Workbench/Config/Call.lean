import Workbench.Config.Settings
import Workbench.Script.Value

/-!
The functions that scripts read and change the settings with. A function that fails changes nothing.
-/

namespace Workbench

inductive SettingsError where
  | unknownTheme (name : String)
  | blankServiceUrl
  | unknownLogLevel (name : String)
deriving DecidableEq, Repr

def SettingsError.message : SettingsError → String
  | unknownTheme name => s!"unknown theme '{name}'"
  | blankServiceUrl => "service url must not be empty"
  | unknownLogLevel name => s!"unknown log level '{name}'"

inductive SettingsCall where
  | setTheme (name : String)
  | getTheme
  | listThemes
  | setServiceUrl (url : String)
  | getServiceUrl
  | setRunTimeout (seconds : Int64)
  | setTabWidth (width : Int64)
  | setShowLineNumbers (enabled : Bool)
  | setShowFunctions (enabled : Bool)
  | setLogLevel (name : String)
deriving DecidableEq, Repr

namespace SettingsCall

def ofArgs? (function : String) (args : List Script.Value) : Option SettingsCall :=
  match function, args with
  | "set_theme", [.text name] => some (setTheme name)
  | "get_theme", [] => some getTheme
  | "list_themes", [] => some listThemes
  | "set_service_url", [.text url] => some (setServiceUrl url)
  | "get_service_url", [] => some getServiceUrl
  | "set_run_timeout", [.int seconds] => some (setRunTimeout seconds)
  | "set_tab_width", [.int width] => some (setTabWidth width)
  | "set_show_line_numbers", [.bool enabled] => some (setShowLineNumbers enabled)
  | "set_show_functions", [.bool enabled] => some (setShowFunctions enabled)
  | "set_log_level", [.text name] => some (setLogLevel name)
  | _, _ => none

def run (c : SettingsCall) (s : Settings) : Except SettingsError Script.Value × Settings :=
  match c with
  | setTheme name =>
    if (Theme.find? name).isNone then (.error (.unknownTheme name), s)
    else (.ok .unit, { s with theme := name })
  | getTheme => (.ok (.text s.theme), s)
  | listThemes => (.ok (.list (Theme.names.map .text)), s)
  | setServiceUrl url =>
    let url := Text.dropTrailingSlashes (Text.trimString url)
    if url.isEmpty then (.error .blankServiceUrl, s) else (.ok .unit, { s with serviceUrl := url })
  | getServiceUrl => (.ok (.text s.serviceUrl), s)
  | setRunTimeout seconds =>
    (.ok .unit, { s with runTimeout? := if 0 < seconds then some seconds.toInt.toNat else none })
  | setTabWidth width => (.ok .unit, { s with tabWidth := (max 1 (min 16 width.toInt)).toNat })
  | setShowLineNumbers enabled => (.ok .unit, { s with showLineNumbers := enabled })
  | setShowFunctions enabled => (.ok .unit, { s with showFunctions := enabled })
  | setLogLevel name =>
    match LogLevel.parse? name with
    | none => (.error (.unknownLogLevel name), s)
    | some level => (.ok .unit, { s with logLevel := level })

end SettingsCall

end Workbench
