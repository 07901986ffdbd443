import Workbench.Proofs.Picker.Choice
import Workbench.Proofs.Text.Encoding

/-!
Which files a picker offers, and in which order. The rows of a lister are read one after the other, and the first row
that is not text ends the list: the files after it are not offered, whatever their names are.
-/

namespace Workbench

open Text.Utf8 (decode? encode IsText)

namespace Listing

variable {filters : List FileFilter} {files entries : List Path} {bytes : List UInt8}

def rows (bytes : List UInt8) : List (List UInt8) :=
  Text.rowsBy 0x0a 0x0d bytes

def texts (bytes : List UInt8) : List (List Char) :=
  (rows bytes).filterMap decode?

/-- The files of the first filter stand in front of the others, and the order within both groups is kept. -/
structure Arranged (filters : List FileFilter) (files entries : List Path) : Prop where
  perm : entries.Perm files
  first : ∀ primary ∈ filters.head?, entries.Pairwise fun p q => primary.matches? q = true → primary.matches? p = true
  kept : ∀ primary ∈ filters.head?, ∀ b,
    entries.filter (primary.matches? · = b) = files.filter (primary.matches? · = b)
  unfiltered : filters = [] → entries = files

theorem arranged_inOrder (filters : List FileFilter) (files : List Path)
    : Arranged filters files (inOrder filters files) := by
  cases filters with
  | nil => exact ⟨.refl files, by simp, by simp, fun _ => rfl⟩
  | cons primary filters =>
    refine ⟨?_, ?_, ?_, by simp⟩
    · exact List.filter_append_perm primary.matches? files
    · rintro _ ⟨⟩
      rw [inOrder]
      rw [List.pairwise_append]
      refine ⟨?_, ?_, ?_⟩
      · exact List.pairwise_of_forall_mem_list fun p hp q _ _ => (List.mem_filter.1 hp).2
      · refine List.pairwise_of_forall_mem_list fun p hp q hq hmatch => ?_
        simp [hmatch] at hq
      · intro p hp q _ _
        exact (List.mem_filter.1 hp).2
    · rintro _ ⟨⟩ b
      rw [inOrder]
      rw [List.filter_append]
      rw [List.filter_filter, List.filter_filter]
      cases b with
      | true => simp
      | false => simp

theorem map_encode_texts (bytes : List UInt8) : (texts bytes).map encode = (rows bytes).filter IsText := by
  unfold texts
  induction rows bytes with
  | nil => rfl
  | cons row rest ih =>
    cases hrow : decode? row with
    | none =>
      have hnot : ¬ IsText row := by
        rw [← Text.Utf8.isSome_decode?_iff, hrow]
        exact Bool.false_ne_true
      rw [List.filterMap_cons_none hrow]
      rw [List.filter_cons_of_neg (by simpa using hnot)]
      exact ih
    | some text =>
      have htext := Text.Utf8.decode?_eq_some_iff.1 hrow
      rw [List.filterMap_cons_some hrow]
      rw [List.filter_cons_of_pos (by simpa using ⟨text, htext.symm⟩)]
      rw [List.map_cons]
      rw [ih, htext]

theorem exists_rows_eq (bytes : List UInt8)
    : ∃ (before : List (List Char)) (rest : List (List UInt8)),
        rows bytes = before.map encode ++ rest ∧ ∀ row ∈ rest.head?, ¬ IsText row := by
  induction rows bytes with
  | nil => exact ⟨[], [], rfl, by simp⟩
  | cons row rows ih =>
    by_cases hrow : IsText row
    · obtain ⟨text, rfl⟩ := hrow
      obtain ⟨before, rest, rfl, hrest⟩ := ih
      exact ⟨text :: before, rest, rfl, hrest⟩
    · exact ⟨[], row :: rows, rfl, by simpa using hrow⟩

section Rows

variable {before : List (List Char)} {rest : List (List UInt8)}

theorem readableRows_eq (h : rows bytes = before.map encode ++ rest) (hrest : ∀ row ∈ rest.head?, ¬ IsText row)
    : readableRows bytes = before := by
  have hstop : (rest.map decode?).takeWhile Option.isSome = [] := by
    cases rest with
    | nil => rfl
    | cons row rest =>
      rw [List.map_cons]
      rw [Text.Utf8.decode?_of_not_isText (hrest row rfl)]
      rfl
  change (((rows bytes).map decode?).takeWhile Option.isSome).filterMap id = before
  rw [h]
  rw [List.map_append, List.map_map]
  rw [Text.Utf8.decode?_comp_encode]
  rw [List.takeWhile_append_of_pos (by simp)]
  rw [hstop]
  rw [List.append_nil]
  rw [List.filterMap_map]
  exact List.filterMap_some

theorem texts_eq (h : rows bytes = before.map encode ++ rest)
    : texts bytes = before ++ rest.filterMap decode? := by
  unfold texts
  rw [h]
  rw [List.filterMap_append, List.filterMap_map]
  rw [Text.Utf8.decode?_comp_encode]
  rw [List.filterMap_some]

def TextFirst (bytes : List UInt8) : Prop :=
  (rows bytes).Pairwise fun row later => IsText later → IsText row

theorem textFirst_iff (h : rows bytes = before.map encode ++ rest) (hrest : ∀ row ∈ rest.head?, ¬ IsText row)
    : TextFirst bytes ↔ rest.filterMap decode? = [] := by
  have hnone : rest.filterMap decode? = [] ↔ ∀ row ∈ rest, ¬ IsText row := by
    rw [List.filterMap_eq_nil_iff]
    refine forall₂_congr fun row _ => ?_
    rw [← Text.Utf8.isSome_decode?_iff, Option.not_isSome_iff_eq_none]
  unfold TextFirst
  rw [h, hnone]
  rw [List.pairwise_append]
  constructor
  · rintro ⟨-, hpairwise, -⟩
    cases rest with
    | nil => simp
    | cons row rest =>
      have hrow := hrest row rfl
      rw [List.pairwise_cons] at hpairwise
      rw [List.forall_mem_cons]
      exact ⟨hrow, fun later hlater htext => hrow (hpairwise.1 later hlater htext)⟩
  · intro hall
    have htext : ∀ row ∈ before.map encode, IsText row := by
      intro row hrow
      obtain ⟨text, -, rfl⟩ := List.mem_map.1 hrow
      exact ⟨text, rfl⟩
    refine ⟨?_, ?_, ?_⟩
    · exact List.pairwise_of_forall_mem_list fun row hrow later _ _ => htext row hrow
    · exact List.pairwise_of_forall_mem_list fun row _ later hlater hlatertext => absurd hlatertext (hall later hlater)
    · exact fun row hrow later _ _ => htext row hrow

end Rows

theorem dropHere_spec (row : List Char)
    : ∃ n, row = (List.replicate n ['.', '/']).flatten ++ dropHere row ∧ ¬ ['.', '/'] <+: dropHere row := by
  fun_induction dropHere row with
  | case1 row ih =>
    obtain ⟨n, hrow, hprefix⟩ := ih
    refine ⟨n + 1, ?_, hprefix⟩
    rw [List.replicate_succ, List.flatten_cons]
    rw [List.append_assoc]
    rw [← hrow]
    rfl
  | case2 row hrow =>
    refine ⟨0, rfl, ?_⟩
    rintro ⟨rest, rfl⟩
    exact hrow rest rfl

def Lister.file (l : Lister) (row : List Char) : Path :=
  String.ofList (l.entry row)

variable {l : Lister} {o : ProgramOutcome} {outcome? : Option ProgramOutcome}

theorem Lister.files?_of_succeeded (ho : o.succeeded = true)
    : l.files? (some o) = some ((readableRows o.output).map l.file) := by
  unfold files?
  rw [Option.filter_some, ho]
  rfl

theorem Lister.files?_of_failed (h : ∀ o, outcome? = some o → o.succeeded = false) : l.files? outcome? = none := by
  unfold files?
  cases outcome? with
  | none => rfl
  | some o =>
    rw [Option.filter_some, h o rfl]
    rfl

end Listing

def PickerSetting.files (s : PickerSetting) : List Path :=
  let preferred? := if s.rootError?.isNone then s.preferred? else none
  let listed? := Listing.preferred.files? preferred?
  let fallback? := if s.rootError?.isNone ∧ listed?.isNone then s.fallback? else none
  (listed?.or (Listing.fallback.files? fallback?)).getD []

def PickerSetting.entries (s : PickerSetting) (filters : List FileFilter) : List Path :=
  Listing.inOrder filters s.files

theorem PickPurpose.offered?_of_pickerArgs? {purpose : PickPurpose} {command : PickerCommand}
    {filters : List FileFilter} {s : PickerSetting} {args : List String}
    (h : (purpose.present command filters s).pickerArgs? = some args)
    : (purpose.present command filters s).offered? = some (rowsOf (s.entries filters)) := by
  unfold present at h ⊢
  dsimp only at h ⊢
  cases hpicker : s.picker?.filter fun _ => !command.args.any hasNul with
  | none =>
    rw [hpicker] at h
    contradiction
  | some o =>
    rw [hpicker] at h
    dsimp only at h ⊢
    cases hobstacle : obstacle? s (purpose.arguments command filters) with
    | some reason =>
      rw [hobstacle] at h
      contradiction
    | none => rfl

namespace PickerSetting

open Listing (Lister Arranged TextFirst rows texts)

variable {s : PickerSetting} {l : Lister} {o : ProgramOutcome} {filters : List FileFilter}

/-- The output of a lister counts: of the one that knows about ignored files, or of the other one where this one fails. -/
inductive Lists (s : PickerSetting) : Lister → ProgramOutcome → Prop where
  | preferred {o : ProgramOutcome} : s.rootError? = none → s.preferred? = some o → o.succeeded = true →
    Lists s Listing.preferred o
  | fallback {o : ProgramOutcome} : s.rootError? = none → (∀ o', s.preferred? = some o' → o'.succeeded = false) →
    s.fallback? = some o → o.succeeded = true → Lists s Listing.fallback o

theorem files_eq (hroot : s.rootError? = none)
    : s.files = (Listing.preferred.files? s.preferred?).getD ((Listing.fallback.files? s.fallback?).getD []) := by
  unfold files
  rw [hroot]
  dsimp only
  rw [if_pos Option.isNone_none]
  cases Listing.preferred.files? s.preferred? with
  | none => simp
  | some files => simp

theorem files_of_lists (h : s.Lists l o) : s.files = (Listing.readableRows o.output).map l.file := by
  cases h with
  | preferred hroot hpreferred ho =>
    rw [files_eq hroot, hpreferred]
    rw [Lister.files?_of_succeeded ho]
    rfl
  | fallback hroot hpreferred hfallback ho =>
    rw [files_eq hroot, hfallback]
    rw [Lister.files?_of_failed hpreferred, Lister.files?_of_succeeded ho]
    rfl

theorem exists_lists (h : s.files ≠ []) : ∃ l o, s.Lists l o := by
  by_cases hroot : s.rootError? = none
  · by_cases hpreferred : ∃ o, s.preferred? = some o ∧ o.succeeded = true
    · obtain ⟨o, hsome, ho⟩ := hpreferred
      exact ⟨_, o, .preferred hroot hsome ho⟩
    have hfailed : ∀ o, s.preferred? = some o → o.succeeded = false :=
      fun o hsome => Bool.eq_false_iff.2 fun ho => hpreferred ⟨o, hsome, ho⟩
    by_cases hfallback : ∃ o, s.fallback? = some o ∧ o.succeeded = true
    · obtain ⟨o, hsome, ho⟩ := hfallback
      exact ⟨_, o, .fallback hroot hfailed hsome ho⟩
    have hfailed' : ∀ o, s.fallback? = some o → o.succeeded = false :=
      fun o hsome => Bool.eq_false_iff.2 fun ho => hfallback ⟨o, hsome, ho⟩
    rw [files_eq hroot] at h
    rw [Lister.files?_of_failed hfailed, Lister.files?_of_failed hfailed'] at h
    exact absurd rfl h
  · obtain ⟨e, he⟩ := Option.ne_none_iff_exists'.1 hroot
    unfold files at h
    rw [he] at h
    exact absurd rfl h

theorem Lists.entry_subset (h : s.Lists l o) (row : List Char) : l.entry row ⊆ row := by
  cases h with
  | preferred => exact List.Subset.refl row
  | fallback =>
    obtain ⟨n, hrow, -⟩ := Listing.dropHere_spec row
    intro c hc
    rw [hrow]
    exact List.mem_append_right _ hc

section Rows

variable {before : List (List Char)} {rest : List (List UInt8)}

theorem arranged_before (h : s.Lists l o) (hrows : rows o.output = before.map encode ++ rest)
    (hrest : ∀ row ∈ rest.head?, ¬ IsText row)
    : Arranged filters (before.map l.file) (s.entries filters) := by
  unfold entries
  rw [files_of_lists h]
  rw [Listing.readableRows_eq hrows hrest]
  apply Listing.arranged_inOrder

theorem mem_entries {texts : List (List Char)} (h : s.Lists l o)
    (hrows : rows o.output = texts.map encode) {text : List Char} (htext : text ∈ texts)
    : l.file text ∈ s.entries filters := by
  rw [← List.append_nil (texts.map encode)] at hrows
  have harranged : Arranged filters (texts.map l.file) (s.entries filters) :=
    arranged_before h hrows (by simp)
  exact harranged.perm.mem_iff.2 (List.mem_map_of_mem htext)

theorem arranged_texts_iff (h : s.Lists l o)
    : Arranged filters ((texts o.output).map l.file) (s.entries filters) ↔ TextFirst o.output := by
  obtain ⟨before, rest, hrows, hrest⟩ := Listing.exists_rows_eq o.output
  have hbefore : Arranged filters (before.map l.file) (s.entries filters) := arranged_before h hrows hrest
  rw [Listing.textFirst_iff hrows hrest]
  rw [Listing.texts_eq hrows]
  constructor
  · intro hall
    have hlength := (hbefore.perm.symm.trans hall.perm).length_eq
    rw [List.length_map, List.length_map, List.length_append] at hlength
    exact List.eq_nil_of_length_eq_zero (by omega)
  · intro hnone
    rw [hnone]
    rw [List.append_nil]
    exact hbefore

end Rows

structure Offers (s : PickerSetting) (command : PickerCommand) (filters : List FileFilter) (l : Lister)
    (o : ProgramOutcome) : Prop where
  offered : ∀ purpose args, (PickPurpose.present purpose command filters s).pickerArgs? = some args →
    (PickPurpose.present purpose command filters s).offered? = some (PickPurpose.rowsOf (s.entries filters))
  texts : (texts o.output).map encode = (rows o.output).filter IsText
  /-- All the rows that are text are offered if and only if none of them stands behind one that is not. -/
  complete_iff : Arranged filters ((Listing.texts o.output).map l.file) (s.entries filters) ↔ TextFirst o.output
  cut : ∀ (before : List (List Char)) (rest : List (List UInt8)), rows o.output = before.map encode ++ rest →
    (∀ row ∈ rest.head?, ¬ IsText row) → Arranged filters (before.map l.file) (s.entries filters)
  stripped : ∀ row, ∃ n, row = (List.replicate n ['.', '/']).flatten ++ Listing.fallback.entry row
    ∧ ¬ ['.', '/'] <+: Listing.fallback.entry row

theorem offers (command : PickerCommand) (filters : List FileFilter) (h : s.Lists l o)
    : s.Offers command filters l o where
  offered _ _ := PickPurpose.offered?_of_pickerArgs?
  texts := Listing.map_encode_texts o.output
  complete_iff := arranged_texts_iff h
  cut _ _ := arranged_before h
  stripped := Listing.dropHere_spec

theorem not_isText_ff : ¬ IsText [0xff] := by
  rw [← Text.Utf8.isSome_decode?_iff]
  simp [decode?, Text.Utf8.pieces, Text.Utf8.Lead.ofByte?]

theorem offers_text_first
    : let o : ProgramOutcome :=
        ⟨[0x62, 0x2e, 0x74, 0x78, 0x74, 0x0a, 0x61, 0x2e, 0x6f, 0x63, 0x0d, 0x0a, 0xff, 0x0a], some 0⟩
      let s : PickerSetting := { root := "/", preferred? := some o }
      s.Lists Listing.preferred o ∧ TextFirst o.output
        ∧ Arranged FileFilter.forOpen ["b.txt", "a.oc"] (s.entries FileFilter.forOpen) := by
  intro o s
  have hlists : s.Lists Listing.preferred o := .preferred rfl rfl rfl
  have hrows : rows o.output = ["b.txt".toList, "a.oc".toList].map encode ++ [[0xff]] := by decide
  have hrest : ∀ row ∈ [[(0xff : UInt8)]].head?, ¬ IsText row := by
    rintro _ ⟨⟩
    exact not_isText_ff
  have harranged := (offers {} FileFilter.forOpen hlists).cut _ _ hrows hrest
  refine ⟨hlists, ?_, harranged⟩
  rw [Listing.textFirst_iff hrows hrest]
  rw [List.filterMap_cons_none (Text.Utf8.decode?_of_not_isText not_isText_ff)]
  rfl

theorem file_behind_bad_row_lost
    : let o : ProgramOutcome :=
        ⟨[0x2e, 0x2f, 0x6f, 0x6b, 0x2e, 0x6f, 0x63, 0x0a, 0xff, 0x0a,
          0x2e, 0x2f, 0x6c, 0x6f, 0x73, 0x74, 0x2e, 0x6f, 0x63, 0x0a], some 0⟩
      let s : PickerSetting := { root := "/", fallback? := some o, picker? := some ⟨[0x78], some 0⟩ }
      s.Lists Listing.fallback o
        ∧ (texts o.output).map Listing.fallback.file = ["ok.oc", "lost.oc"]
        ∧ (PickPurpose.openFile.present {} FileFilter.forOpen s).offered? = some "ok.oc\n".toList
        ∧ ¬ Arranged FileFilter.forOpen ["ok.oc", "lost.oc"] (s.entries FileFilter.forOpen) := by
  intro o s
  have hlists : s.Lists Listing.fallback o := .fallback rfl (by rintro _ ⟨⟩) rfl rfl
  have hrows : rows o.output = ["./ok.oc".toList].map encode ++ [[0xff], encode "./lost.oc".toList] := by decide
  have hrest : ∀ row ∈ [[0xff], encode "./lost.oc".toList].head?, ¬ IsText row := by
    rintro _ ⟨⟩
    exact not_isText_ff
  have hlost : [[0xff], encode "./lost.oc".toList].filterMap decode? = ["./lost.oc".toList] := by
    rw [List.filterMap_cons_none (Text.Utf8.decode?_of_not_isText not_isText_ff)]
    rw [List.filterMap_cons_some (Text.Utf8.decode?_eq_some_iff.2 rfl)]
    rfl
  have hfiles : (texts o.output).map Listing.fallback.file = ["ok.oc", "lost.oc"] := by
    rw [Listing.texts_eq hrows]
    rw [hlost]
    decide
  have hentries : s.entries FileFilter.forOpen = ["ok.oc"] := by
    have hfile : ["./ok.oc".toList].map Listing.fallback.file = ["ok.oc"] := by decide
    have harranged : Arranged FileFilter.forOpen _ (s.entries FileFilter.forOpen) :=
      arranged_before hlists hrows hrest
    rw [hfile] at harranged
    exact List.perm_singleton.1 harranged.perm
  refine ⟨hlists, hfiles, ?_, ?_⟩
  · have hargs : (PickPurpose.openFile.present {} FileFilter.forOpen s).pickerArgs?
        = some (PickPurpose.openFile.arguments {} FileFilter.forOpen) :=
      PickPurpose.pickerArgs?_of_picker? rfl rfl (by decide)
    rw [PickPurpose.offered?_of_pickerArgs? hargs]
    rw [hentries]
    rfl
  · rw [← hfiles]
    rw [arranged_texts_iff hlists]
    rw [Listing.textFirst_iff hrows hrest]
    rw [hlost]
    exact List.cons_ne_nil _ _

end PickerSetting

end Workbench
