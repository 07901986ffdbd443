import Workbench.Bridge.Host
import Workbench.Picker.Run

/-!
The pickers of a host that are other programs.
-/

namespace Workbench

/-- Both pickers are the same command; `look` tells how the programs behave when one is asked. -/
def PickerCommand.dialogs {σ : Type} (command : PickerCommand) (look : StateM σ PickerSetting) :
    Dialogs σ where
  pickOpen filters := return (PickPurpose.openFile.present command filters (← look)).result
  pickSave name filters := return ((PickPurpose.saveFile name).present command filters (← look)).result

end Workbench
