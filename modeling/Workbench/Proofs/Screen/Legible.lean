import Workbench.Proofs.Screen.Encoding
import Workbench.Proofs.Screen.Parts

/-!
What a frame prints has no control characters, if the texts of the shell have none. Tabs in the document and
in the output do not count, as they are drawn as blanks.
-/

namespace Workbench

namespace Text

theorem printed_append {cs ds : List Char} : Printed (cs ++ ds) ↔ Printed cs ∧ Printed ds :=
  List.forall_mem_append

theorem printed_cons {c : Char} {cs : List Char}
    : Printed (c :: cs) ↔ Terminal.isControl c = false ∧ Printed cs :=
  List.forall_mem_cons

theorem printed_replicate {c : Char} (h : Terminal.isControl c = false) (n : Nat)
    : Printed (List.replicate n c) := by
  intro d hd
  rw [List.eq_of_mem_replicate hd]
  exact h

theorem printed_blanks (n : Nat) : Printed (blanks n) :=
  printed_replicate (by decide) n

theorem printed_fit {cs : List Char} (h : Printed cs) (n : Nat) : Printed (fit cs n) := by
  unfold fit
  rw [printed_append]
  exact ⟨fun c hc => h c (List.mem_of_mem_take hc), printed_replicate (by decide) _⟩

theorem printed_toDigits (n : Nat) : Printed (Nat.toDigits 10 n) := by
  intro c hc
  have hdigit := Nat.isDigit_of_mem_toDigits (by decide) (by decide) hc
  unfold Char.isDigit at hdigit
  rw [Bool.and_eq_true, decide_eq_true_iff, decide_eq_true_iff] at hdigit
  unfold Terminal.isControl
  rw [Bool.or_eq_false_iff, Bool.and_eq_false_iff, decide_eq_false_iff_not, decide_eq_false_iff_not]
  have hlow : ' '.val ≤ c.val := Nat.le_trans (by decide) hdigit.1
  have hhigh : c.val < '\x7f'.val := Nat.lt_of_le_of_lt hdigit.2 (by decide)
  exact ⟨Nat.not_lt_of_le hlow, .inl (Nat.not_le_of_lt hhigh)⟩

theorem printed_toString (n : Nat) : Printed (toString n).toList := by
  rw [Nat.toString_eq_ofList_toDigits, String.toList_ofList]
  exact printed_toDigits n

def Tabbed (text : List Char) : Prop :=
  ∀ c ∈ text, c = '\t' ∨ Terminal.isControl c = false

instance (text : List Char) : Decidable (Tabbed text) :=
  List.decidableBAll _ text

end Text

open Text

structure Shell.Legible (s : Shell) : Prop where
  lines : ∀ line ∈ s.editor.document.lines, Tabbed (content line)
  output : ∀ row ∈ Text.rows s.output.text.toList, Tabbed row
  functions : ∀ name ∈ s.functions.names, Printed name.toList
  documentName : Printed s.documentName.toList
  theme : Printed s.theme.toList
  commandLine : Printed s.editor.commandLine
  completion : ∀ popup, s.editor.completion? = some popup →
    ∀ item ∈ popup.items, Printed item.label.toList ∧ Printed item.documentation.toList
  hover : ∀ hover, s.editor.hover? = some hover →
    ∀ row ∈ Text.rows (plainMarkdown hover.markdown.toList), Printed row

namespace TerminalCommand

def AllLegible (cs : List TerminalCommand) : Prop :=
  ∀ c ∈ cs, c.Legible

variable {c : TerminalCommand} {cs ds : List TerminalCommand}

@[simp] theorem allLegible_nil : AllLegible [] :=
  List.forall_mem_nil _

@[simp] theorem allLegible_cons : AllLegible (c :: cs) ↔ c.Legible ∧ AllLegible cs :=
  List.forall_mem_cons

@[simp] theorem allLegible_append : AllLegible (cs ++ ds) ↔ AllLegible cs ∧ AllLegible ds :=
  List.forall_mem_append

theorem allLegible_ite {p : Prop} [Decidable p] (hcs : p → AllLegible cs) (hds : ¬ p → AllLegible ds)
    : AllLegible (if p then cs else ds) := by
  split
  next h => exact hcs h
  next h => exact hds h

theorem allLegible_flatMap {α : Type} {f : α → List TerminalCommand} {as : List α}
    (h : ∀ a ∈ as, AllLegible (f a))
    : AllLegible (as.flatMap f) := by
  intro c hc
  obtain ⟨a, ha, hc⟩ := List.mem_flatMap.1 hc
  exact h a ha c hc

end TerminalCommand

open TerminalCommand

namespace View

theorem allLegible_style (s : Style) (ground : Color) : AllLegible (s.commands ground) := by
  have hattribute (chosen : Bool) {c : TerminalCommand} (hc : c.Legible)
      : AllLegible (if chosen then [c] else []) :=
    allLegible_ite (fun _ => allLegible_cons.2 ⟨hc, allLegible_nil⟩) fun _ => allLegible_nil
  unfold Style.commands
  simp only [allLegible_append, allLegible_cons]
  exact ⟨⟨⟨⟨trivial, trivial, trivial, allLegible_nil⟩, hattribute _ trivial⟩, hattribute _ trivial⟩,
    hattribute _ trivial⟩

theorem allLegible_drawChars (v : View) (theme : Theme) (classes : HighlightedLine) (room : Nat)
    {line : List Char} (h : Tabbed line) (byte x : Nat) (current : Option Style)
    : AllLegible (v.drawChars theme classes room byte x current line).1 := by
  unfold Tabbed at h
  induction line generalizing byte x current with
  | nil => exact allLegible_nil
  | cons c line ih =>
    rw [List.forall_mem_cons] at h
    unfold drawChars
    split
    next => exact allLegible_nil
    next =>
      dsimp only
      rw [allLegible_append, allLegible_cons]
      refine ⟨allLegible_ite (fun _ => allLegible_nil) fun _ => allLegible_style _ _, ?_, ih h.2 _ _ _⟩
      split
      next => exact printed_blanks _
      next hc => exact printed_cons.2 ⟨h.1.resolve_left hc, List.forall_mem_nil _⟩

theorem allLegible_drawLine (v : View) (theme : Theme) (classes : HighlightedLine) (room : Nat)
    {line : List Char} (h : Tabbed line)
    : AllLegible (v.drawLine theme classes room line) := by
  unfold drawLine
  dsimp only
  simp only [allLegible_append, allLegible_cons]
  refine ⟨⟨v.allLegible_drawChars theme classes room h 0 0 none, trivial, trivial, allLegible_nil⟩, ?_⟩
  exact allLegible_ite (fun _ => allLegible_cons.2 ⟨printed_blanks _, allLegible_nil⟩) fun _ => allLegible_nil

theorem allLegible_drawEditor (v : View) (theme : Theme) {e : Editor} (r : Registry) (rect : Rect)
    (h : ∀ line ∈ e.document.lines, Tabbed (content line))
    : AllLegible (v.drawEditor theme e r rect) := by
  unfold drawEditor
  rw [allLegible_cons]
  refine ⟨trivial, allLegible_flatMap fun row _ => ?_⟩
  unfold drawRow
  dsimp only
  rw [allLegible_cons]
  refine ⟨trivial, ?_⟩
  split
  next =>
    rw [allLegible_append, allLegible_cons, allLegible_cons]
    refine ⟨⟨trivial, allLegible_ite (fun _ => ?_) fun _ => allLegible_nil⟩, printed_blanks _, allLegible_nil⟩
    exact allLegible_cons.2 ⟨printed_fit (by decide) _, allLegible_nil⟩
  next line hline =>
    rw [allLegible_append]
    refine ⟨allLegible_ite (fun _ => ?_) fun _ => allLegible_nil, ?_⟩
    · rw [allLegible_cons, allLegible_cons]
      refine ⟨trivial, ?_, allLegible_nil⟩
      unfold padLeft
      exact printed_append.2 ⟨printed_append.2 ⟨printed_blanks _, printed_toDigits _⟩, by decide⟩
    · exact v.allLegible_drawLine theme _ _ (h line (List.mem_of_getElem? hline))

theorem allLegible_drawSidebar (theme : Theme) {panel : FunctionPanel} (focused : Bool) (rect : Rect)
    (h : ∀ name ∈ panel.names, Printed name.toList)
    : AllLegible (drawSidebar theme panel focused rect) := by
  unfold drawSidebar
  dsimp only
  simp only [allLegible_append, allLegible_cons]
  refine ⟨⟨⟨trivial, trivial, trivial, trivial, printed_fit (by decide) _, trivial, allLegible_nil⟩, ?_⟩,
    trivial, allLegible_nil⟩
  refine allLegible_flatMap fun n _ => ?_
  have hrow (extra : List TerminalCommand) (text : String) (hextra : AllLegible extra)
      (htext : Printed text.toList)
      : AllLegible ([.moveTo rect.x (rect.y + (n + 1)), .background theme.sidebarBackground,
          .foreground theme.sidebarForeground] ++ extra ++ [.print (Text.fit text.toList rect.width)]) := by
    simp only [allLegible_append, allLegible_cons]
    exact ⟨⟨⟨trivial, trivial, trivial, allLegible_nil⟩, hextra⟩, printed_fit htext _, allLegible_nil⟩
  cases panel with
  | loading =>
    refine hrow [] (if n = 0 then " Loading..." else "") allLegible_nil ?_
    split
    next => decide
    next => decide
  | failed =>
    dsimp only
    split
    next =>
      have hextra : AllLegible [.foreground theme.error] := allLegible_cons.2 ⟨trivial, allLegible_nil⟩
      exact hrow _ (" " ++ FunctionPanel.failureNotice) hextra (by decide)
    next => exact hrow [] "" allLegible_nil (by decide)
  | loaded names selected =>
    dsimp only
    cases hname : names[n]? with
    | none => exact hrow [] "" allLegible_nil (by decide)
    | some name =>
      have hchosen : AllLegible [.background theme.sidebarSelected] := allLegible_cons.2 ⟨trivial, allLegible_nil⟩
      refine hrow _ ("  " ++ name) (allLegible_ite (fun _ => hchosen) fun _ => allLegible_nil) ?_
      rw [String.toList_append, printed_append]
      exact ⟨by decide, h name (List.mem_of_getElem? hname)⟩

theorem allLegible_drawSeparator (theme : Theme) (x height : Nat)
    : AllLegible (drawSeparator theme x height) := by
  unfold drawSeparator
  simp only [allLegible_append, allLegible_cons]
  refine ⟨⟨trivial, trivial, allLegible_nil⟩, allLegible_flatMap fun y _ => ?_⟩
  simp only [allLegible_cons]
  exact ⟨trivial, printed_cons.2 ⟨by decide, List.forall_mem_nil _⟩, allLegible_nil⟩

theorem allLegible_drawOutput (theme : Theme) {panel : OutputPanel} (rect : Rect)
    (h : ∀ row ∈ Text.rows panel.text.toList, Tabbed row)
    : AllLegible (drawOutput theme panel rect) := by
  unfold drawOutput
  refine allLegible_ite (fun _ => allLegible_nil) fun _ => ?_
  dsimp only
  simp only [allLegible_append, allLegible_cons]
  have htitle : Printed ("─ Output ".toList ++ List.replicate rect.width '─') :=
    printed_append.2 ⟨by decide, printed_replicate (by decide) _⟩
  refine ⟨⟨⟨trivial, trivial, trivial, printed_fit htitle _, trivial, allLegible_nil⟩, ?_⟩, trivial, allLegible_nil⟩
  refine allLegible_flatMap fun n _ => ?_
  simp only [allLegible_cons]
  refine ⟨trivial, printed_fit (printed_cons.2 ⟨by decide, ?_⟩) _, allLegible_nil⟩
  intro c hc
  obtain ⟨d, hd, rfl⟩ := List.mem_map.1 hc
  split
  next => decide
  next hne =>
    cases hrow : (Text.rows panel.text.toList)[n]? with
    | none =>
      rw [hrow] at hd
      cases hd
    | some row =>
      rw [hrow] at hd
      exact (h row (List.mem_of_getElem? hrow) d hd).resolve_left hne

theorem allLegible_drawStatus (v : View) (theme : Theme) {s : Shell} (row : Nat) (h : s.Legible)
    : AllLegible (v.drawStatus theme s row) := by
  unfold drawStatus
  rw [allLegible_cons]
  refine ⟨trivial, allLegible_ite (fun _ => ?_) fun _ => ?_⟩
  · simp only [allLegible_cons]
    exact ⟨trivial, trivial, trivial, printed_cons.2 ⟨by decide, h.commandLine⟩, allLegible_nil⟩
  · dsimp only
    simp only [allLegible_cons]
    refine ⟨trivial, trivial, printed_fit ?_ _, trivial, allLegible_nil⟩
    have hmode : Printed s.editor.mode.display.toList := by
      cases s.editor.mode with
      | normal | insert | command | functions => decide
    have hmark : Printed (if s.editor.document.dirty then " [+]" else "").toList := by
      split
      next => decide
      next => decide
    have hcaret : Printed s.editor.caretStatus.toList := by
      unfold Editor.caretStatus
      simp only [String.toList_append, printed_append]
      exact ⟨⟨⟨by decide, printed_toString _⟩, by decide⟩, printed_toString _⟩
    simp only [String.toList_append, printed_append]
    exact ⟨⟨⟨⟨⟨⟨⟨by decide, hmode⟩, by decide⟩, h.documentName⟩, hmark⟩, by decide⟩, printed_blanks _⟩,
      ⟨⟨⟨by decide, hcaret⟩, by decide⟩, h.theme⟩, by decide⟩

theorem allLegible_drawBox (theme : Theme) {rows : List (List Char)} (selected : Option Nat) (x y : Nat)
    (area : Rect) (h : ∀ row ∈ rows, Printed row)
    : AllLegible (drawBox theme rows selected x y area) := by
  unfold drawBox
  dsimp only
  refine allLegible_ite (fun _ => allLegible_nil) fun _ => ?_
  rw [List.cons_append, allLegible_cons, allLegible_append]
  refine ⟨trivial, allLegible_flatMap fun row hrow => ?_, allLegible_cons.2 ⟨trivial, allLegible_nil⟩⟩
  have hmem : row.1 ∈ rows :=
    List.mem_of_mem_take (List.fst_mem_of_mem_zipIdx (List.takeWhile_subset _ hrow))
  simp only [allLegible_cons]
  exact ⟨trivial, trivial, printed_fit (h row.1 hmem) _, allLegible_nil⟩

theorem printed_completionRow {item : CompletionItem} (hlabel : Printed item.label.toList)
    (hdocumentation : Printed item.documentation.toList)
    : Printed (completionRow item) := by
  unfold completionRow
  dsimp only
  simp only [printed_append, printed_cons]
  exact ⟨⟨⟨⟨by decide, hlabel⟩, printed_blanks _⟩, by decide, hdocumentation⟩, by decide, List.forall_mem_nil _⟩

theorem allLegible_drawCompletion? {v : View} {theme : Theme} {e : Editor} {rect : Rect}
    {cs : List TerminalCommand}
    (hitems : ∀ popup, e.completion? = some popup →
      ∀ item ∈ popup.items, Printed item.label.toList ∧ Printed item.documentation.toList)
    (h : v.drawCompletion? theme e rect = some cs)
    : AllLegible cs := by
  rcases drawCompletion?_cases h with ⟨rfl, -⟩ | ⟨popup, x, y, hpopup, -, rfl⟩
  · exact allLegible_nil
  · refine allLegible_drawBox theme _ _ _ _ fun row hrow => ?_
    obtain ⟨item, hitem, rfl⟩ := List.mem_map.1 hrow
    have hprinted := hitems popup hpopup item (List.mem_of_mem_drop hitem)
    exact printed_completionRow hprinted.1 hprinted.2

theorem allLegible_drawHover? {v : View} {theme : Theme} {e : Editor} {rect : Rect} {cs : List TerminalCommand}
    (hrows : ∀ hover, e.hover? = some hover →
      ∀ row ∈ Text.rows (plainMarkdown hover.markdown.toList), Printed row)
    (h : v.drawHover? theme e rect = some cs)
    : AllLegible cs := by
  rcases drawHover?_cases h with ⟨rfl, -⟩ | ⟨hover, x, y, hhover, -, rfl⟩
  · exact allLegible_nil
  · refine allLegible_drawBox theme _ _ _ _ fun row hrow => ?_
    obtain ⟨text, htext, rfl⟩ := List.mem_map.1 hrow
    simp only [printed_append, printed_cons]
    exact ⟨⟨by decide, hrows hover hhover text htext⟩, by decide, List.forall_mem_nil _⟩

theorem allLegible_drawCursor? {v : View} {e : Editor} {layout : ScreenLayout} {cs : List TerminalCommand}
    (h : v.drawCursor? e layout = some cs)
    : AllLegible cs := by
  rcases drawCursor?_cases h with rfl | rfl | ⟨x, y, shape, rfl⟩
  · exact allLegible_nil
  · exact allLegible_cons.2 ⟨trivial, allLegible_nil⟩
  · simp only [allLegible_cons]
    exact ⟨trivial, trivial, trivial, allLegible_nil⟩

theorem allLegible_render? {v : View} {s : Shell} {frame : List TerminalCommand} (hs : s.Legible)
    (h : v.render? s = some frame)
    : AllLegible frame := by
  obtain ⟨completion, hover, cursor, hlayers, rfl⟩ := render?_cases h
  unfold panels
  simp only [allLegible_append, allLegible_cons]
  refine ⟨⟨⟨⟨⟨⟨⟨⟨trivial, trivial, allLegible_nil⟩, ?_⟩, ?_⟩, ?_⟩, ?_⟩, ?_⟩, ?_⟩, ?_⟩
  · split
    next => exact allLegible_nil
    next rect hrect =>
      rw [allLegible_append]
      exact ⟨allLegible_drawSidebar _ _ rect hs.functions, allLegible_drawSeparator _ _ _⟩
  · exact v.allLegible_drawEditor _ _ _ hs.lines
  · exact allLegible_drawOutput _ _ hs.output
  · exact v.allLegible_drawStatus _ _ hs
  · exact allLegible_drawCompletion? hs.completion hlayers.list
  · exact allLegible_drawHover? hs.hover hlayers.card
  · exact allLegible_drawCursor? hlayers.place

end View

end Workbench
