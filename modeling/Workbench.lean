import Workbench.Bridge.Codec
import Workbench.Log.File
import Workbench.Picker.Run
import Workbench.Proofs.Bridge.Codec
import Workbench.Proofs.Bridge.Host
import Workbench.Proofs.Bridge.RoundTrip
import Workbench.Proofs.Editor.Caret
import Workbench.Proofs.Editor.Completion
import Workbench.Proofs.Editor.Edits
import Workbench.Proofs.Editor.Joining
import Workbench.Proofs.Editor.Places
import Workbench.Proofs.Files.Laws
import Workbench.Proofs.Json.Variant
import Workbench.Proofs.Language.Comments
import Workbench.Proofs.Language.Hover
import Workbench.Proofs.Language.Neighbours
import Workbench.Proofs.Language.Numbers
import Workbench.Proofs.Language.Strings
import Workbench.Proofs.Screen.Gutter
import Workbench.Proofs.Screen.Styles
import Workbench.Proofs.Screen.Visible
import Workbench.Proofs.Script.Settings
import Workbench.Proofs.Script.Validity
import Workbench.Proofs.Service.Responses
import Workbench.Proofs.Shell.Bench
import Workbench.Proofs.Shell.Breaks
import Workbench.Proofs.Shell.Completion
import Workbench.Proofs.Shell.Course
import Workbench.Proofs.Shell.FileActions
import Workbench.Proofs.Shell.HoverCard
import Workbench.Proofs.Shell.Runs
import Workbench.Proofs.Shell.Saving
import Workbench.Proofs.Shell.Steady
import Workbench.Proofs.Shell.Steps
import Workbench.Script.Load
import Workbench.Service.Client
import Workbench.Session
import Workbench.Proofs.Editor.Filtering
import Workbench.Proofs.Editor.Modes
import Workbench.Proofs.Shell.Modes
import Workbench.Proofs.Editor.Model
import Workbench.Proofs.Screen.HoverColumn
import Workbench.Proofs.Screen.CaretCell
import Workbench.Proofs.Screen.Layout
import Workbench.Picker.Dialogs
import Workbench.Proofs.Text.Utf8
import Workbench.Proofs.Picker.Choice
import Workbench.Proofs.Files.Extension
import Workbench.Proofs.Language.Files
import Workbench.Proofs.Picker.Listing
import Workbench.Proofs.Picker.Opening
import Workbench.Proofs.Text.WordRuns
import Workbench.Proofs.Screen.LineLength
