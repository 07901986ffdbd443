import Workbench.Files.Store
import Workbench.Picker.Choice

/-!
Showing a picker: another program that reads the files to offer and prints what the user picks. It is tried
out first, so that a picker that is not installed can be told from one that cannot work in the directory.
-/

namespace Workbench

structure PickerCommand where
  program : String := "fzf"
  args : List String := []
deriving DecidableEq, Repr

def PickerCommand.ofEnvironment (name? : Option String) : PickerCommand :=
  match name?.map Text.trimString with
  | none | some "" => {}
  | some program => { program }

structure PickerSetting where
  root : Path
  rootError? : Option FileError := none
  preferred? : Option ProgramOutcome := none
  fallback? : Option ProgramOutcome := none
  picker? : Option ProgramOutcome := none

structure PickReport where
  result : PickResult
  preferredArgs? : Option (List String)
  fallbackArgs? : Option (List String)
  pickerArgs? : Option (List String) := none
  offered? : Option (List Char) := none

namespace PickPurpose

def options : PickPurpose → List String
  | .openFile => ["--prompt=Open file: "]
  | .saveFile defaultName => ["--prompt=Save as: ", "--print-query", s!"--query={defaultName}"]

def arguments (purpose : PickPurpose) (command : PickerCommand) (filters : List FileFilter) :
    List String :=
  command.args ++ ["--height=40%", "--layout=reverse", "--border"] ++ purpose.options ++
    ["--header=" ++ String.intercalate " | " (filters.map (·.label))]

def rowsOf (entries : List Path) : List Char :=
  entries.flatMap fun e => e.toList ++ ['\n']

def hasNul (s : String) : Bool :=
  s.toList.contains '\x00'

def obstacle? (s : PickerSetting) (arguments : List String) : Option String :=
  if (s.root :: arguments).any hasNul then some "nul byte found in provided data"
  else s.rootError?.map (·.message)

def present (purpose : PickPurpose) (command : PickerCommand) (filters : List FileFilter)
    (s : PickerSetting) : PickReport :=
  let preferred? := if s.rootError?.isNone then s.preferred? else none
  let listed? := Listing.preferred.files? preferred?
  let fallback? := if s.rootError?.isNone ∧ listed?.isNone then s.fallback? else none
  let files := (listed?.or (Listing.fallback.files? fallback?)).getD []
  let report (result : PickResult) : PickReport :=
    { result
      preferredArgs? := preferred?.map fun _ => Listing.preferred.args
      fallbackArgs? := fallback?.map fun _ => Listing.fallback.args }
  match s.picker?.filter fun _ => !command.args.any hasNul with
  | none => report (.error (.unavailable s!"{command.program} not found. Install with: brew install fzf"))
  | some outcome =>
    let arguments := purpose.arguments command filters
    match obstacle? s arguments with
    | some reason => report (.error (.failed s!"failed to spawn {command.program}: {reason}"))
    | none =>
      { report (.ok (purpose.chosen? s.root outcome)) with
        pickerArgs? := some arguments
        offered? := some (rowsOf (Listing.inOrder filters files)) }

end PickPurpose

end Workbench
