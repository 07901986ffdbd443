import Workbench.Proofs.Files.Path
import Workbench.Proofs.Picker.Choice
import Workbench.Proofs.Picker.Listing
import Workbench.Proofs.Text.Trim

/-!
Which file is opened. The picker prints an entry as it was offered, but the rows of its output are read without the
white space around them: an entry with white space at an end stands for another path.
-/

namespace Workbench

def ProgramOutcome.printed (e : String) : ProgramOutcome :=
  ⟨Text.Utf8.encode e.toList ++ [0x0a], some 0⟩

section Entry

variable {e : String}

theorem ProgramOutcome.rowText_printed (h : '\n' ∉ e.toList) : (printed e).rowText 0 = Text.trim e.toList := by
  unfold printed
  rw [rowText_zero (fun hfeed => h (Text.Utf8.feed_mem_encode_iff.1 hfeed))]
  rw [Text.Utf8.decodeLossy_encode]

theorem PickedRows.choice?_ofOutput_false (output : List Char)
    : (ofOutput false output).choice?
        = let rows := (Text.rows output).map Text.trim
          if rows.getD 0 [] ≠ [] then some (rows.getD 0 []) else none := by
  unfold ofOutput choice?
  match (Text.rows output).map Text.trim with
  | [] => rfl
  | selection :: rest => cases selection <;> simp

theorem PickPurpose.chosen?_openFile {root : Path} {o : ProgramOutcome} (ho : o.Accepted)
    : openFile.chosen? root o
        = if o.rowText 0 ≠ [] then some (Path.join root (String.ofList (o.rowText 0))) else none := by
  unfold ProgramOutcome.Accepted at ho
  unfold chosen?
  rw [if_pos ho]
  simp only [takesName]
  rw [PickedRows.choice?_ofOutput_false]
  simp only [ProgramOutcome.getD_rows]
  split
  · rfl
  · rfl

theorem PickPurpose.chosen?_printed (root : Path) (h : '\n' ∉ e.toList)
    : openFile.chosen? root (.printed e)
        = if Text.trimString e = "" then none else some (Path.join root (Text.trimString e)) := by
  rw [chosen?_openFile (.inl rfl)]
  rw [ProgramOutcome.rowText_printed h]
  rw [ite_not]
  simp only [Text.trimString_eq_empty_iff]
  rfl

theorem Path.join_trimString_iff {root : Path} : join root (Text.trimString e) = join root e ↔ Text.Bare e.toList := by
  have hlength : (Text.trimString e).toList.length ≤ e.toList.length := by
    rw [Text.toList_trimString]
    exact Text.length_trim_le e.toList
  have habsolute (h : Path.isAbsolute e = true) : Path.isAbsolute (Text.trimString e) = true := by
    unfold Path.isAbsolute at h ⊢
    rw [beq_iff_eq] at h ⊢
    rw [Text.toList_trimString]
    exact Text.head?_trim_of_head? h (by decide)
  rw [join_eq_join_iff hlength habsolute]
  exact Text.trimString_eq_self_iff

end Entry

namespace PickerSetting

variable {s : PickerSetting} {l : Listing.Lister} {o : ProgramOutcome} {filters : List FileFilter}

theorem feed_not_mem_entry {e : Path} (he : e ∈ s.entries filters) : '\n' ∉ e.toList := by
  have hfiles : e ∈ s.files := (Listing.arranged_inOrder filters s.files).perm.mem_iff.1 he
  obtain ⟨l, o, h⟩ := exists_lists (List.ne_nil_of_mem hfiles)
  obtain ⟨before, rest, hrows, hrest⟩ := Listing.exists_rows_eq o.output
  rw [files_of_lists h] at hfiles
  rw [Listing.readableRows_eq hrows hrest] at hfiles
  obtain ⟨row, hrow, rfl⟩ := List.mem_map.1 hfiles
  have hmem : Text.Utf8.encode row ∈ Listing.rows o.output := by
    rw [hrows]
    exact List.mem_append_left _ (List.mem_map_of_mem hrow)
  have hfeed := Text.not_mem_of_mem_rowsBy hmem
  rw [Text.Utf8.feed_mem_encode_iff] at hfeed
  unfold Listing.Lister.file
  rw [String.toList_ofList]
  exact fun hentry => hfeed (h.entry_subset row hentry)

end PickerSetting

namespace PickerCommand

variable {σ : Type} (command : PickerCommand) (look : StateM σ PickerSetting) (filters : List FileFilter) {t : σ}
  {s : PickerSetting} {args : List String} {e : String}

structure Opens (command : PickerCommand) (look : StateM σ PickerSetting) (filters : List FileFilter) (t : σ)
    (s : PickerSetting) (e : String) : Prop where
  result : (((command.dialogs look).pickOpen filters).run t).1
    = .ok (if Text.trimString e = "" then none else some (Path.join s.root (Text.trimString e)))
  exact_iff : (((command.dialogs look).pickOpen filters).run t).1 = .ok (some (Path.join s.root e))
    ↔ Text.Bare e.toList
  offered : ∀ entry ∈ s.entries filters, '\n' ∉ entry.toList

theorem opens (hs : (look.run t).1 = s)
    (hargs : (PickPurpose.openFile.present command filters s).pickerArgs? = some args)
    (hpicker : s.picker? = some (.printed e)) (hfeed : '\n' ∉ e.toList) (hne : e ≠ "")
    : Opens command look filters t s e := by
  have hresult : (((command.dialogs look).pickOpen filters).run t).1
      = .ok (if Text.trimString e = "" then none else some (Path.join s.root (Text.trimString e))) := by
    obtain ⟨-, o, ho, hrun⟩ := PickPurpose.present_of_pickerArgs? hargs
    rw [hpicker] at ho
    obtain rfl := Option.some.inj ho
    have hrun' : (((command.dialogs look).pickOpen filters).run t).1
        = (PickPurpose.openFile.present command filters (look.run t).1).result := by
      rfl
    rw [hrun', hs, hrun]
    rw [PickPurpose.chosen?_printed s.root hfeed]
  refine ⟨hresult, ?_, fun _ => PickerSetting.feed_not_mem_entry⟩
  rw [hresult]
  split
  next hempty =>
    have hbare : ¬ Text.Bare e.toList := by
      rw [← Text.trimString_eq_self_iff, hempty]
      exact Ne.symm hne
    simp [hbare]
  next =>
    rw [Except.ok.injEq, Option.some.injEq]
    exact Path.join_trimString_iff

theorem opens_inner_blank
    : let s : PickerSetting :=
        { root := "/work"
          preferred? := some ⟨Text.Utf8.encode "my file.oc\n".toList, some 0⟩
          picker? := some (.printed "my file.oc") }
      "my file.oc" ∈ s.entries FileFilter.forOpen
        ∧ (((PickerCommand.dialogs {} get).pickOpen FileFilter.forOpen).run s).1
            = .ok (some "/work/my file.oc") := by
  intro s
  have hlists : s.Lists Listing.preferred _ := .preferred rfl rfl rfl
  have hobstacle : PickPurpose.obstacle? s (PickPurpose.openFile.arguments {} FileFilter.forOpen) = none := by
    decide
  have hopens := opens {} get FileFilter.forOpen rfl (PickPurpose.pickerArgs?_of_picker? rfl rfl hobstacle) rfl
    (by decide) (by decide)
  have hrows : Listing.rows (Text.Utf8.encode "my file.oc\n".toList) = ["my file.oc".toList].map Text.Utf8.encode := by
    decide
  refine ⟨?_, hopens.exact_iff.2 (by decide)⟩
  exact PickerSetting.mem_entries hlists hrows (List.mem_singleton.2 rfl)

theorem entry_after_blank_not_opened
    : let s : PickerSetting :=
        { root := "/"
          preferred? := some ⟨Text.Utf8.encode " a.oc\na.oc\n".toList, some 0⟩
          picker? := some (.printed " a.oc") }
      " a.oc" ∈ s.entries FileFilter.forOpen ∧ "a.oc" ∈ s.entries FileFilter.forOpen
        ∧ (((PickerCommand.dialogs {} get).pickOpen FileFilter.forOpen).run s).1 = .ok (some "/a.oc")
        ∧ Path.join s.root " a.oc" = "/ a.oc" := by
  intro s
  have hlists : s.Lists Listing.preferred _ := .preferred rfl rfl rfl
  have hrows : Listing.rows (Text.Utf8.encode " a.oc\na.oc\n".toList)
      = [" a.oc".toList, "a.oc".toList].map Text.Utf8.encode := by
    decide
  have hobstacle : PickPurpose.obstacle? s (PickPurpose.openFile.arguments {} FileFilter.forOpen) = none := by
    decide
  have hargs : (PickPurpose.openFile.present {} FileFilter.forOpen s).pickerArgs? = some _ :=
    PickPurpose.pickerArgs?_of_picker? rfl rfl hobstacle
  obtain ⟨-, o, ho, hresult⟩ := PickPurpose.present_of_pickerArgs? hargs
  obtain rfl := Option.some.inj ho
  have hpath : (if Text.trimString " a.oc" = "" then none else some (Path.join s.root (Text.trimString " a.oc")))
      = some "/a.oc" := by
    decide
  rw [PickPurpose.chosen?_printed s.root (by decide)] at hresult
  rw [hpath] at hresult
  refine ⟨?_, ?_, hresult, by decide⟩
  · exact PickerSetting.mem_entries hlists hrows (by decide : " a.oc".toList ∈ _)
  · exact PickerSetting.mem_entries hlists hrows (by decide : "a.oc".toList ∈ _)

end PickerCommand

end Workbench
