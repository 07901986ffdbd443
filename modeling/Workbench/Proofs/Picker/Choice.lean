import Mathlib.Data.List.GetD
import Workbench.Picker.Dialogs
import Workbench.Proofs.Bridge.Host
import Workbench.Proofs.Text.Utf8

/-!
Where a file is saved. The name that was typed is the first row that the picker prints, and an entry that was
highlighted besides comes to nothing: whatever stands in the further rows, the file goes by its name.
-/

namespace Workbench
namespace ProgramOutcome

def Accepted (o : ProgramOutcome) : Prop :=
  o.exitCode? = some 0 ∨ o.exitCode? = some 1

/-- The text of a row of the output, without the white space around it; a row that is missing is empty. -/
def rowText (o : ProgramOutcome) (n : Nat) : List Char :=
  Text.trim (Text.Utf8.decodeLossy ((Text.splitAt 0x0a o.output).getD n []))

theorem getD_rows (o : ProgramOutcome) (n : Nat)
    : ((Text.rows (Text.Utf8.decodeLossy o.output)).map Text.trim).getD n [] = o.rowText n := by
  have hrow : ((Text.rows (Text.Utf8.decodeLossy o.output)).map Text.trim).getD n (Text.trim [])
      = Text.trim ((Text.rows (Text.Utf8.decodeLossy o.output)).getD n []) := by
    apply List.getD_map
  have hpart : ((Text.splitAt 0x0a o.output).map Text.Utf8.decodeLossy).getD n (Text.Utf8.decodeLossy [])
      = Text.Utf8.decodeLossy ((Text.splitAt 0x0a o.output).getD n []) := by
    apply List.getD_map
  unfold rowText
  rw [← hpart]
  rw [← Text.Utf8.splitAt_decodeLossy]
  rw [Text.Utf8.decodeLossy_nil]
  rw [← Text.trim_row]
  exact hrow

theorem rowText_zero {u : List UInt8} (hu : 0x0a ∉ u) (rest : List UInt8) (exitCode? : Option Nat)
    : rowText ⟨u ++ 0x0a :: rest, exitCode?⟩ 0 = Text.trim (Text.Utf8.decodeLossy u) := by
  unfold rowText
  rw [Text.splitAt_append_sep hu]
  rfl

end ProgramOutcome

theorem PickedRows.choice?_ofOutput (output : List Char)
    : (ofOutput true output).choice?
        = let rows := (Text.rows output).map Text.trim
          if rows.getD 0 [] ≠ [] then some (rows.getD 0 [])
          else if rows.getD 1 [] ≠ [] then some (rows.getD 1 [])
          else none := by
  unfold ofOutput choice?
  match (Text.rows output).map Text.trim with
  | [] => rfl
  | [query] => cases query <;> simp
  | query :: selection :: rest => cases query <;> cases selection <;> simp

namespace PickPurpose

variable {command : PickerCommand} {filters : List FileFilter} {name : String} {root : Path}
  {s s' : PickerSetting} {o : ProgramOutcome}

theorem chosen?_saveFile (ho : o.Accepted)
    : (saveFile name).chosen? root o
        = if o.rowText 0 ≠ [] then some (Path.join root (String.ofList (o.rowText 0)))
          else if o.rowText 1 ≠ [] then some (Path.join root (String.ofList (o.rowText 1)))
          else none := by
  unfold ProgramOutcome.Accepted at ho
  unfold chosen?
  rw [if_pos ho]
  simp only [takesName]
  rw [PickedRows.choice?_ofOutput]
  simp only [ProgramOutcome.getD_rows]
  split
  · rfl
  · split
    · rfl
    · rfl

theorem printQuery_mem_arguments
    : "--print-query" ∈ (saveFile name).arguments command filters := by
  simp [arguments, options]

theorem pickerArgs?_of_picker? {purpose : PickPurpose} (hs : s.picker? = some o)
    (hcommand : command.args.any hasNul = false)
    (h : obstacle? s (purpose.arguments command filters) = none)
    : (purpose.present command filters s).pickerArgs? = some (purpose.arguments command filters) := by
  unfold present
  dsimp only
  rw [hs, hcommand]
  rw [h]
  rfl

theorem present_of_pickerArgs? {purpose : PickPurpose} {args : List String}
    (h : (purpose.present command filters s).pickerArgs? = some args)
    : args = purpose.arguments command filters
      ∧ ∃ o, s.picker? = some o
        ∧ (purpose.present command filters s).result = .ok (purpose.chosen? s.root o) := by
  unfold present at h ⊢
  dsimp only at h ⊢
  cases hpicker : s.picker?.filter fun _ => !command.args.any hasNul with
  | none =>
    rw [hpicker] at h
    contradiction
  | some o =>
    rw [hpicker] at h
    dsimp only at h ⊢
    cases hobstacle : obstacle? s (purpose.arguments command filters) with
    | some reason =>
      rw [hobstacle] at h
      contradiction
    | none =>
      rw [hobstacle] at h
      exact ⟨(Option.some.inj h).symm, o, (Option.filter_eq_some_iff.1 hpicker).1, rfl⟩

theorem result_congr {purpose : PickPurpose} {o' : ProgramOutcome} (hroot : s.root = s'.root)
    (herror : s.rootError? = s'.rootError?) (hs : s.picker? = some o) (hs' : s'.picker? = some o')
    (ho : purpose.chosen? s.root o = purpose.chosen? s.root o')
    : (purpose.present command filters s).result = (purpose.present command filters s').result := by
  have hobstacle : obstacle? s (purpose.arguments command filters)
      = obstacle? s' (purpose.arguments command filters) := by
    unfold obstacle?
    rw [hroot, herror]
  unfold present
  dsimp only
  rw [hs, hs']
  rw [hobstacle]
  rw [← hroot]
  rw [Option.filter_some, Option.filter_some]
  cases command.args.any hasNul with
  | true => rfl
  | false =>
    cases obstacle? s' (purpose.arguments command filters) with
    | some reason => rfl
    | none => exact congrArg Except.ok ho

end PickPurpose

def SaveTarget.ofChoice? : Option Path → SaveTarget
  | none => .canceled
  | some path => .chosen (withDefaultExtension path)

def Host.askedName (name : String) : String :=
  if name.isEmpty then Language.Builtin.untitledName else name

theorem Host.run_saveFileAs {σ φ : Type} (command : PickerCommand) (look : StateM σ PickerSetting)
    (name : String) (d : Desk σ φ)
    : ((saveFileAs (command.dialogs look) name).run d).1
        = match ((PickPurpose.saveFile (askedName name)).present command FileFilter.forSave
            (look.run d.pickers).1).result with
          | .error e => .failed e.message
          | .ok choice? => .ofChoice? choice? := by
  unfold saveFileAs
  dsimp only
  rw [run_bind, run_pick]
  dsimp only
  rw [← askedName]
  have hpick : ((command.dialogs look).pickSave (askedName name) FileFilter.forSave |>.run d.pickers).1
      = ((PickPurpose.saveFile (askedName name)).present command FileFilter.forSave
          (look.run d.pickers).1).result := by
    rfl
  rw [hpick]
  cases ((PickPurpose.saveFile (askedName name)).present command FileFilter.forSave
      (look.run d.pickers).1).result with
  | error e => rfl
  | ok choice? =>
    cases choice? with
    | none => rfl
    | some path => rfl

/--
The same name was typed in pickers of the same directory. What is offered there and what was highlighted may differ.
-/
structure PickerSetting.SameName (s s' : PickerSetting) : Prop where
  root : s.root = s'.root
  rootError? : s.rootError? = s'.rootError?
  typed : ∃ o o', s.picker? = some o ∧ s'.picker? = some o' ∧ o.Accepted ∧ o'.Accepted
    ∧ o.rowText 0 ≠ [] ∧ o.rowText 0 = o'.rowText 0

namespace PickerCommand

variable {σ : Type} (φ : Type) (command : PickerCommand) (look : StateM σ PickerSetting) (name : String)

/-- A file is saved under the name that was typed. The highlighted entry counts where the name was cleared. -/
structure NameWins : Prop where
  left : ∀ root o, ¬o.Accepted → (PickPurpose.saveFile name).chosen? root o = none
  typed : ∀ root o, o.Accepted → o.rowText 0 ≠ [] →
    (PickPurpose.saveFile name).chosen? root o = some (Path.join root (String.ofList (o.rowText 0)))
  highlighted : ∀ root o, o.Accepted → o.rowText 0 = [] → o.rowText 1 ≠ [] →
    (PickPurpose.saveFile name).chosen? root o = some (Path.join root (String.ofList (o.rowText 1)))
  nothing : ∀ root o, o.Accepted → o.rowText 0 = [] → o.rowText 1 = [] →
    (PickPurpose.saveFile name).chosen? root o = none
  asks : ∀ filters s args,
    ((PickPurpose.saveFile name).present command filters s).pickerArgs? = some args →
      "--print-query" ∈ args ∧ ∃ o, s.picker? = some o
        ∧ ((PickPurpose.saveFile name).present command filters s).result
            = .ok ((PickPurpose.saveFile name).chosen? s.root o)
  saved : ∀ (d : Desk σ φ) s args, (look.run d.pickers).1 = s →
    ((PickPurpose.saveFile (Host.askedName name)).present command FileFilter.forSave s).pickerArgs?
      = some args → ∃ o, s.picker? = some o
        ∧ ((Host.saveFileAs (command.dialogs look) name).run d).1
            = .ofChoice? ((PickPurpose.saveFile name).chosen? s.root o)
  spared : ∀ d d' : Desk σ φ, (look.run d.pickers).1.SameName (look.run d'.pickers).1 →
    ((Host.saveFileAs (command.dialogs look) name).run d).1
      = ((Host.saveFileAs (command.dialogs look) name).run d').1

theorem nameWins
    : NameWins φ command look name where
  left root o ho := by
    unfold PickPurpose.chosen?
    exact if_neg ho
  typed root o ho hrow := by
    rw [PickPurpose.chosen?_saveFile ho]
    exact if_pos hrow
  highlighted root o ho hrow hnext := by
    rw [PickPurpose.chosen?_saveFile ho]
    simp [hrow, hnext]
  nothing root o ho hrow hnext := by
    rw [PickPurpose.chosen?_saveFile ho]
    simp [hrow, hnext]
  asks filters s args hargs := by
    obtain ⟨rfl, hresult⟩ := PickPurpose.present_of_pickerArgs? hargs
    exact ⟨PickPurpose.printQuery_mem_arguments, hresult⟩
  saved d s args hs hargs := by
    obtain ⟨-, o, ho, hresult⟩ := PickPurpose.present_of_pickerArgs? hargs
    refine ⟨o, ho, ?_⟩
    rw [Host.run_saveFileAs]
    rw [hs]
    rw [hresult]
    rfl
  spared d d' h := by
    obtain ⟨o, o', ho, ho', haccepted, haccepted', hrow, hsame⟩ := h.typed
    rw [Host.run_saveFileAs, Host.run_saveFileAs]
    rw [PickPurpose.result_congr h.root h.rootError? ho ho']
    rw [PickPurpose.chosen?_saveFile haccepted, PickPurpose.chosen?_saveFile haccepted']
    rw [← hsame]
    rw [if_pos hrow, if_pos hrow]

theorem nameWins_fuzzy
    : let d (typed rest : List UInt8) (exitCode : Nat) : Desk PickerSetting Unit :=
        ⟨{ root := "/work", picker? := some ⟨typed ++ 0x0a :: rest, some exitCode⟩ }, (), []⟩
      let highlighted := d [0x61] [0x61, 0x62, 0x2e, 0x6f, 0x63, 0x0a] 0
      let alone := d [0x61, 0x0d] [] 1
      highlighted.pickers.SameName alone.pickers
        ∧ ((Host.saveFileAs (PickerCommand.dialogs {} get) "").run highlighted).1 = .chosen "/work/a.oc"
        ∧ ((Host.saveFileAs (PickerCommand.dialogs {} get) "").run alone).1 = .chosen "/work/a.oc" := by
  intro d highlighted alone
  have hrow (typed rest : List UInt8) (exitCode : Nat) (h : typed = [0x61] ∨ typed = [0x61, 0x0d])
      : ProgramOutcome.rowText ⟨typed ++ 0x0a :: rest, some exitCode⟩ 0 = ['a'] := by
    rcases h with rfl | rfl
    all_goals
      rw [ProgramOutcome.rowText_zero (by decide)]
      rw [Text.Utf8.decodeLossy_ascii (by simp)]
      decide
  have hsame : highlighted.pickers.SameName alone.pickers := by
    refine ⟨rfl, rfl, _, _, rfl, rfl, .inl rfl, .inr rfl, ?_, ?_⟩
    · rw [hrow _ _ _ (.inl rfl)]
      decide
    · rw [hrow _ _ _ (.inl rfl), hrow _ _ _ (.inr rfl)]
  have hwins := nameWins Unit {} get ""
  have hsaved : ((Host.saveFileAs (PickerCommand.dialogs {} get) "").run highlighted).1
      = .chosen "/work/a.oc" := by
    have hobstacle : PickPurpose.obstacle? highlighted.pickers
        ((PickPurpose.saveFile (Host.askedName "")).arguments {} FileFilter.forSave) = none := by
      decide
    have hargs := PickPurpose.pickerArgs?_of_picker? rfl rfl hobstacle
    obtain ⟨o, ho, hrun⟩ := hwins.saved highlighted _ _ rfl hargs
    cases ho
    rw [hrun]
    rw [hwins.typed _ _ (.inl rfl)]
    · rw [hrow _ _ _ (.inl rfl)]
      decide
    · rw [hrow _ _ _ (.inl rfl)]
      decide
  refine ⟨hsame, hsaved, ?_⟩
  rw [← hwins.spared highlighted alone hsame]
  exact hsaved

end PickerCommand

end Workbench
