import Workbench.Input.Handle
import Workbench.Proofs.Editor.Caret
import Workbench.Proofs.Text.FlatText

/-!
The editor and the flat text. In texts whose lines end in line feeds alone, the caret's line and
column always tell one number of characters before it, and each key moves that number and changes
the text as the flat text has it.
-/

namespace Workbench

open Text

namespace Document

variable {d : Document} {f : FlatText} {n : Nat}

theorem map_contentLength_lines (hf : FeedsOnly f.text) (hd : d.text = f.text)
    : d.lines.map contentLength = f.lines.map List.length := by
  obtain ⟨ls, u, hsplit⟩ := exists_splitAt_eq '\n' f.text
  have hunbroken : ∀ l ∈ ls ++ [u], Unbroken l := by
    intro l hl
    rw [← hsplit] at hl
    exact unbroken_of_mem_splitAt hf hl
  rw [List.forall_mem_append, List.forall_mem_singleton] at hunbroken
  unfold lines FlatText.lines
  rw [hd]
  rw [lines_of_splitAt hf hsplit]
  rw [hsplit]
  rw [List.map_append, List.map_append]
  rw [List.map_map]
  congr 1
  · apply List.map_congr_left
    intro l hl
    exact contentLength_feed (hunbroken.1 l hl)
  · rw [List.map_singleton, List.map_singleton]
    rw [contentLength_unbroken hunbroken.2]

theorem lineCount_eq (hf : FeedsOnly f.text) (hd : d.text = f.text)
    : d.lineCount = f.lines.length := by
  have hmap := congrArg List.length (map_contentLength_lines hf hd)
  rwa [List.length_map, List.length_map] at hmap

theorem lineLength?_flat (hf : FeedsOnly f.text) (hd : d.text = f.text) (hn : n < f.lines.length)
    : d.lineLength? n = some (f.lineLength n) := by
  unfold lineLength? line? FlatText.lineLength
  rw [← List.getElem?_map]
  rw [map_contentLength_lines hf hd]
  simp [hn]

theorem lineStart?_flat (hf : FeedsOnly f.text) (hd : d.text = f.text) (hn : n < f.lines.length)
    : d.lineStart? n = some (f.lineStart n) := by
  obtain ⟨ls, u, hsplit⟩ := exists_splitAt_eq '\n' f.text
  have hle : n ≤ ls.length := by
    unfold FlatText.lines at hn
    rw [hsplit, List.length_append] at hn
    exact Nat.le_of_lt_succ hn
  unfold lineStart? FlatText.lineStart
  rw [lineCount_eq hf hd]
  rw [if_pos (Nat.le_of_lt hn)]
  unfold lines FlatText.lines
  rw [hd]
  rw [lines_of_splitAt hf hsplit]
  rw [hsplit]
  -- the last line, which has no line feed, lies behind
  rw [List.take_append_of_le_length (by rwa [List.length_map])]
  rw [List.take_append_of_le_length hle]
  simp [List.length_flatten, Function.comp_def]

theorem Splits.place_eq {p : Position} {before after : List Char} (hb : FeedsOnly before)
    (h : d.Splits p before after)
    : FlatText.place ⟨before ++ after, before.length⟩ = p := by
  obtain ⟨-, ls, u, hlines, hline, hcolumn⟩ := h
  obtain ⟨ls', u', hsplit⟩ := exists_splitAt_eq '\n' before
  rw [lines_of_splitAt hb hsplit] at hlines
  obtain ⟨rfl, hlast⟩ := List.append_inj' hlines rfl
  cases hlast
  have hbefore : FlatText.before ⟨before ++ after, before.length⟩ = before := List.take_left
  rw [← hbefore] at hsplit
  rw [FlatText.place_of_splitAt hsplit]
  rw [List.length_map] at hline
  rw [← hline, ← hcolumn]

end Document

namespace Editor

/-- The editor shows the flat text: the same text, and its caret at the same character. -/
structure Denotes (e : Editor) (f : FlatText) : Prop where
  feeds : FeedsOnly f.text
  valid : f.Valid
  text : e.text = f.text
  line : e.caret.line = f.line
  column : e.caret.column = f.column

variable {e e' : Editor} {f : FlatText} {c : Char} {n k : Nat}

theorem Denotes.congr (h : e.Denotes f) (htext : e'.text = e.text) (hcaret : e'.caret = e.caret)
    : e'.Denotes f where
  feeds := h.feeds
  valid := h.valid
  text := htext.trans h.text
  line := by rw [hcaret, h.line]
  column := by rw [hcaret, h.column]

theorem denotes_of_place (hf : FeedsOnly f.text) (hv : f.Valid) (htext : e.text = f.text)
    (hcaret : e.caret = f.place)
    : e.Denotes f where
  feeds := hf
  valid := hv
  text := htext
  line := congrArg Position.line hcaret
  column := congrArg Position.column hcaret

theorem denotes_of_splits {before after : List Char} (hb : FeedsOnly before) (ha : FeedsOnly after)
    (h : e.document.Splits e.caret before after)
    : e.Denotes ⟨before ++ after, before.length⟩ := by
  apply denotes_of_place (feedsOnly_append.2 ⟨hb, ha⟩)
  · simp [FlatText.Valid]
  · exact h.1
  · exact (h.place_eq hb).symm

theorem exists_denotes (h : e.Placed) : ∃ f, e.Denotes f := by
  obtain ⟨n, hn, hle⟩ := h.caret
  have hlt := Document.holds_line_lt h.caret
  let f : FlatText := ⟨e.text, 0⟩
  rw [Document.lineCount_eq (f := f) h.feeds rfl] at hlt
  rw [Document.lineLength?_flat (f := f) h.feeds rfl hlt] at hn
  cases hn
  obtain ⟨hvalid, hplace⟩ := FlatText.place_at hlt hle
  exact ⟨_, denotes_of_place h.feeds hvalid rfl hplace.symm⟩

namespace Denotes

variable (h : e.Denotes f)

include h

theorem caret_eq : e.caret = f.place := by
  unfold FlatText.place
  rw [← h.line, ← h.column]

theorem line_lt : e.caret.line < f.lines.length := by
  rw [h.line]
  exact f.line_lt

theorem lineLength?_of_lt (hn : n < f.lines.length)
    : e.document.lineLength? n = some (f.lineLength n) := by
  exact Document.lineLength?_flat h.feeds h.text hn

theorem lineCount : e.document.lineCount = f.lines.length :=
  Document.lineCount_eq h.feeds h.text

theorem index? : e.document.index? e.caret.line e.caret.column = some f.index := by
  unfold Document.index?
  rw [Document.lineStart?_flat h.feeds h.text h.line_lt]
  rw [f.index_eq h.valid]
  rw [h.line, h.column]
  rfl

theorem caretLineLength? : e.caretLineLength? = some (f.column + f.rest) := by
  unfold Editor.caretLineLength?
  rw [h.lineLength?_of_lt h.line_lt]
  rw [h.line]
  rw [f.lineLength_line]

theorem move (hn : n < f.lines.length) (hk : k ≤ f.lineLength n) (htext : e'.text = e.text)
    (hcaret : e'.caret = ⟨n, k⟩)
    : e'.Denotes { f with index := f.lineStart n + k } := by
  obtain ⟨hvalid, hplace⟩ := FlatText.place_at hn hk
  apply denotes_of_place _ hvalid
  · rw [htext]
    exact h.text
  · rw [hcaret, hplace]
  · exact h.feeds

theorem moveColumn (hk : k ≤ f.column + f.rest) (htext : e'.text = e.text)
    (hcaret : e'.caret = ⟨e.caret.line, k⟩)
    : e'.Denotes { f with index := f.index - f.column + k } := by
  rw [h.line] at hcaret
  rw [← f.lineLength_line] at hk
  have hmove := h.move f.line_lt hk htext hcaret
  rw [f.index_eq h.valid]
  rw [Nat.add_sub_cancel]
  exact hmove

theorem moveLeft : e.moveLeft.Denotes f.left := by
  rw [f.left_eq h.valid]
  apply h.moveColumn
  · omega
  · rfl
  · rw [← h.column]
    rfl

theorem moveRight? : ∃ e', e.moveRight? = some e' ∧ e'.Denotes f.right := by
  unfold Editor.moveRight?
  rw [h.caretLineLength?]
  refine ⟨_, rfl, ?_⟩
  rw [f.right_eq h.valid]
  apply h.moveColumn
  · omega
  · rfl
  · rw [← h.column]
    rfl

theorem moveToLineStart : e.moveToLineStart.Denotes f.toLineStart := by
  unfold FlatText.toLineStart
  rw [← Nat.add_zero (f.index - f.column)]
  apply h.moveColumn
  · omega
  · rfl
  · rfl

theorem moveToLineEnd? : ∃ e', e.moveToLineEnd? = some e' ∧ e'.Denotes f.toLineEnd := by
  unfold Editor.moveToLineEnd?
  rw [h.caretLineLength?]
  refine ⟨_, rfl, ?_⟩
  rw [f.toLineEnd_eq h.valid]
  apply h.moveColumn
  · omega
  · rfl
  · rfl

theorem toLine {p : Position} (hn : n < f.lines.length) (hline : p.line = n)
    (hcolumn : p.column = e.caret.column)
    : ∃ e', { e with caret := p }.clampColumn? = some e' ∧ e'.Denotes (f.toLine n) := by
  unfold clampColumn? Editor.caretLineLength?
  dsimp only
  rw [hline]
  rw [h.lineLength?_of_lt hn]
  refine ⟨_, rfl, ?_⟩
  apply h.move hn
  · apply Nat.min_le_right
  · rfl
  · unfold Position.clamp
    rw [hcolumn, h.column, hline]

theorem moveUp? : ∃ e', e.moveUp? = some e' ∧ e'.Denotes f.up := by
  have hlt : f.line - 1 < f.lines.length := Nat.lt_of_le_of_lt (Nat.sub_le _ _) f.line_lt
  have hline : e.caret.up.line = f.line - 1 := congrArg (· - 1) h.line
  obtain ⟨e', heq, hdenotes⟩ := h.toLine hlt hline rfl
  unfold Editor.moveUp?
  rw [heq]
  exact ⟨_, rfl, hdenotes.congr rfl rfl⟩

theorem moveDown? : ∃ e', e.moveDown? = some e' ∧ e'.Denotes f.down := by
  have hlt : min (f.line + 1) (f.lines.length - 1) < f.lines.length := by
    have := f.line_lt
    omega
  have hline : (e.caret.down e.document.lineCount).line = min (f.line + 1) (f.lines.length - 1) := by
    unfold Position.down
    rw [h.line, h.lineCount]
  obtain ⟨e', heq, hdenotes⟩ := h.toLine hlt hline rfl
  unfold Editor.moveDown?
  rw [heq]
  exact ⟨_, rfl, hdenotes.congr rfl rfl⟩

theorem moveToFirstLine? : ∃ e', e.moveToFirstLine? = some e' ∧ e'.Denotes (f.toLine 0) := by
  apply h.toLine
  · exact Nat.zero_lt_of_lt f.line_lt
  · rfl
  · rfl

theorem moveToLastLine? : ∃ e', e.moveToLastLine? = some e' ∧ e'.Denotes f.toLastLine := by
  apply h.toLine
  · have := f.line_lt
    omega
  · unfold Document.lastLine
    rw [h.lineCount]
  · rfl

theorem insert? (c : Char)
    : e.document.insert? e.caret.line e.caret.column [c]
        = some { e.document with text := (f.insert c).text, dirty := true } := by
  have hvalid := h.valid
  unfold FlatText.Valid at hvalid
  have htext : e.document.text = f.text := h.text
  unfold Document.insert?
  rw [h.index?]
  rw [Option.bind_some]
  rw [htext]
  rw [if_pos hvalid]
  simp [FlatText.insert, FlatText.before, FlatText.after]

theorem of_insert (hc : isLineBreak c = true → c = '\n') (htext : e'.text = (f.insert c).text)
    (hcaret : e'.caret
      = if c = '\n' then ⟨e.caret.line + 1, 0⟩ else ⟨e.caret.line, e.caret.column + 1⟩)
    : e'.Denotes (f.insert c) := by
  have hfeeds := h.feeds
  rw [← f.before_append_after, feedsOnly_append] at hfeeds
  apply denotes_of_place _ (f.valid_insert h.valid) htext
  · rw [f.place_concat (f.before_insert h.valid)]
    rw [hcaret, h.line, h.column]
  · unfold FlatText.insert
    dsimp only
    rw [feedsOnly_append, feedsOnly_cons]
    exact ⟨hfeeds.1, hc, hfeeds.2⟩

theorem insertChar? (hc : isLineBreak c = false)
    : ∃ e', e.insertChar? c = some e' ∧ e'.Denotes (f.insert c) := by
  have hne : c ≠ '\n' := by
    rintro rfl
    contradiction
  unfold Editor.insertChar?
  rw [h.insert? c]
  refine ⟨_, rfl, ?_⟩
  apply h.of_insert
  · rw [hc]
    exact fun hbreak => absurd hbreak Bool.false_ne_true
  · rfl
  · rw [if_neg hne]

theorem insertNewline? : ∃ e', e.insertNewline? = some e' ∧ e'.Denotes (f.insert '\n') := by
  unfold Editor.insertNewline?
  rw [h.insert? '\n']
  refine ⟨_, rfl, ?_⟩
  apply h.of_insert
  · exact fun _ => rfl
  · rfl
  · rfl

theorem deleteBefore? (hindex : f.index ≠ 0)
    : e.document.deleteBefore? e.caret.line e.caret.column
        = some { e.document with text := f.erase.text, dirty := true } := by
  have hvalid := h.valid
  unfold FlatText.Valid at hvalid
  have htext : e.document.text = f.text := h.text
  unfold Document.deleteBefore?
  rw [h.index?]
  rw [Option.bind_some]
  rw [htext]
  rw [if_neg hindex, if_pos hvalid]
  unfold FlatText.erase
  rw [if_neg hindex]
  rfl

theorem of_erase (htext : e'.text = f.erase.text) (hcaret : e'.caret = f.erase.place)
    : e'.Denotes f.erase := by
  apply denotes_of_place _ (f.valid_erase h.valid) htext hcaret
  intro c hc
  apply h.feeds
  exact f.mem_of_mem_erase hc

theorem deleteBackward?_feed (hindex : f.index ≠ 0) (hbefore : f.before = f.erase.before ++ ['\n'])
    : ∃ e', e.deleteBackward? = some e' ∧ e'.Denotes f.erase := by
  have hcaret : e.caret = ⟨f.erase.line + 1, 0⟩ := by
    rw [h.caret_eq]
    rw [FlatText.place_concat hbefore]
    rfl
  have hlt := h.line_lt
  have hdelete := h.deleteBefore? hindex
  unfold Editor.deleteBackward?
  rw [hcaret] at hdelete hlt ⊢
  dsimp only at hdelete ⊢
  rw [if_neg (Nat.lt_irrefl 0), if_pos (Nat.succ_pos _)]
  rw [Nat.add_sub_cancel]
  rw [h.lineLength?_of_lt (Nat.lt_of_succ_lt hlt)]
  rw [Option.bind_some]
  rw [hdelete]
  refine ⟨_, rfl, ?_⟩
  apply h.of_erase
  · rfl
  · rw [FlatText.lineLength_erase hbefore]
    rfl

theorem deleteBackward?_other (hindex : f.index ≠ 0) (hbefore : f.before = f.erase.before ++ [c])
    (hc : c ≠ '\n')
    : ∃ e', e.deleteBackward? = some e' ∧ e'.Denotes f.erase := by
  have hcaret : e.caret = ⟨f.erase.line, f.erase.column + 1⟩ := by
    rw [h.caret_eq]
    rw [FlatText.place_concat hbefore]
    rw [if_neg hc]
  have hdelete := h.deleteBefore? hindex
  unfold Editor.deleteBackward?
  rw [hcaret] at hdelete ⊢
  dsimp only at hdelete ⊢
  rw [if_pos (Nat.succ_pos _)]
  rw [hdelete]
  refine ⟨_, rfl, ?_⟩
  apply h.of_erase
  · rfl
  · rfl

theorem deleteBackward?_start (hindex : f.index = 0) : e.deleteBackward? = some e := by
  have hcaret := f.index_eq h.valid
  have hline : f.line = 0 := by
    unfold FlatText.line FlatText.before
    rw [hindex]
    rfl
  unfold Editor.deleteBackward?
  rw [h.line, h.column]
  rw [if_neg (by omega), if_neg (by omega)]

theorem deleteBackward? : ∃ e', e.deleteBackward? = some e' ∧ e'.Denotes f.erase := by
  by_cases hindex : f.index = 0
  · refine ⟨e, h.deleteBackward?_start hindex, ?_⟩
    unfold FlatText.erase
    rw [if_pos hindex]
    exact h
  · obtain ⟨c, hbefore⟩ := f.before_erase h.valid hindex
    by_cases hc : c = '\n'
    · rw [hc] at hbefore
      exact h.deleteBackward?_feed hindex hbefore
    · exact h.deleteBackward?_other hindex hbefore hc

theorem appendText {cs : List Char} (hcs : FeedsOnly cs)
    : (e.appendText cs).Denotes (f.append cs) := by
  have hfeeds : FeedsOnly (f.append cs).text := feedsOnly_append.2 ⟨h.feeds, hcs⟩
  have htext : (e.document.append cs).text = (f.append cs).text := congrArg (· ++ cs) h.text
  have hvalid : (f.append cs).Valid := Nat.le_refl _
  have hafter : (f.append cs).after = [] := List.drop_length
  obtain ⟨hline, hcolumn⟩ := FlatText.place_of_end hafter
  have hlast : (e.document.append cs).lastLine = (f.append cs).line := by
    unfold Document.lastLine
    rw [Document.lineCount_eq hfeeds htext]
    rw [hline]
  have hlength := (e.document.append cs).lineLength?_lastLine
  rw [hlast] at hlength
  rw [Document.lineLength?_flat hfeeds htext (FlatText.line_lt _)] at hlength
  rw [← hcolumn] at hlength
  apply denotes_of_place hfeeds hvalid
  · exact htext
  · unfold Editor.appendText closePopups FlatText.place
    dsimp only
    rw [hlast]
    rw [Option.some.inj hlength]

end Denotes

end Editor

namespace Text.FlatText

def onNormal (f : FlatText) : KeyCode → FlatText
  | .char 'h' | .left => f.left
  | .char 'l' | .right => f.right
  | .char 'k' | .up => f.up
  | .char 'j' | .down => f.down
  | .char '0' | .home => f.toLineStart
  | .char '$' | .endKey | .char 'A' => f.toLineEnd
  | .char 'g' => f.toLine 0
  | .char 'G' => f.toLastLine
  | .char 'o' => f.toLineEnd.insert '\n'
  | _ => f

def onInsert (f : FlatText) (key : Key) : FlatText :=
  match key.code with
  | .char c => if c = ' ' ∧ key.control then f else f.insert c
  | .enter => f.insert '\n'
  | .backspace => f.erase
  | .left => f.left
  | .right => f.right
  | .up => f.up
  | .down => f.down
  | _ => f

def onKey (f : FlatText) (mode : Mode) (key : Key) : FlatText :=
  if key.globalAction?.isSome ∨ key.control ∧ key.code = .char 'g' then f
  else match mode with
    | .normal => f.onNormal key.code
    | .insert => f.onInsert key
    | .command | .functions => f

end Text.FlatText

namespace Editor

namespace Denotes

variable {e : Editor} {f : FlatText} (h : e.Denotes f) (r : Registry) (key : Key)

include h

theorem appendAtLineEnd? : ∃ e', e.appendAtLineEnd? = some e' ∧ e'.Denotes f.toLineEnd := by
  obtain ⟨e', heq, hdenotes⟩ := h.moveToLineEnd?
  unfold Editor.appendAtLineEnd?
  rw [heq]
  exact ⟨_, rfl, hdenotes.congr rfl rfl⟩

theorem openLineBelow? : ∃ e', e.openLineBelow? = some e' ∧ e'.Denotes (f.toLineEnd.insert '\n') := by
  obtain ⟨e₁, heq₁, h₁⟩ := h.moveToLineEnd?
  obtain ⟨e₂, heq₂, h₂⟩ := h₁.insertNewline?
  unfold Editor.openLineBelow?
  rw [heq₁, Option.bind_some]
  rw [heq₂]
  exact ⟨_, rfl, h₂.congr rfl rfl⟩

theorem normalKey? : ∃ e', e.normalKey? r key = some e' ∧ e'.Denotes (f.onNormal key.code) := by
  unfold Editor.normalKey?
  generalize key.code = code
  split
  · exact ⟨_, rfl, h.congr rfl rfl⟩
  · exact ⟨_, rfl, h.moveLeft⟩
  · exact ⟨_, rfl, h.moveLeft⟩
  · exact h.moveDown?
  · exact h.moveDown?
  · exact h.moveUp?
  · exact h.moveUp?
  · exact h.moveRight?
  · exact h.moveRight?
  · exact ⟨_, rfl, h.moveToLineStart⟩
  · exact ⟨_, rfl, h.moveToLineStart⟩
  · exact h.moveToLineEnd?
  · exact h.moveToLineEnd?
  · exact h.moveToFirstLine?
  · exact h.moveToLastLine?
  · exact ⟨_, rfl, h.congr rfl rfl⟩
  · exact h.appendAtLineEnd?
  · exact h.openLineBelow?
  · exact ⟨_, rfl, h.congr rfl rfl⟩
  · exact ⟨_, rfl, h.congr rfl rfl⟩
  · refine ⟨e, rfl, ?_⟩
    unfold FlatText.onNormal
    split
    all_goals first | contradiction | exact h

theorem refreshCompletion : (e.refreshCompletion r).Denotes f := by
  unfold Editor.refreshCompletion
  split
  · exact h.congr rfl rfl
  · exact h

theorem enterNormalMode? : ∃ e', e.enterNormalMode? = some e' ∧ e'.Denotes f := by
  have hlength := h.caretLineLength?
  unfold Editor.caretLineLength? at hlength
  unfold Editor.enterNormalMode? clampColumn? Editor.caretLineLength?
  dsimp only
  rw [hlength]
  refine ⟨_, rfl, ?_⟩
  apply h.congr
  · rfl
  · -- the caret stands in its line already
    unfold closePopups Position.clamp
    dsimp only
    rw [Nat.min_eq_left]
    rw [h.column]
    apply Nat.le_add_right

theorem typingKey? (hkey : ∀ c, key.code = .char c → isLineBreak c = false)
    : ∃ e', e.typingKey? r key = some e' ∧ e'.Denotes (f.onInsert key) := by
  unfold Editor.typingKey? FlatText.onInsert
  generalize key.code = code at hkey
  cases code with
  | esc => exact h.enterNormalMode?
  | tab => exact ⟨_, rfl, h.congr rfl rfl⟩
  | char c =>
    dsimp only
    split
    · exact ⟨_, rfl, h.congr rfl rfl⟩
    · obtain ⟨e', heq, hdenotes⟩ := h.insertChar? (hkey c rfl)
      rw [heq]
      exact ⟨_, rfl, hdenotes.refreshCompletion r⟩
  | backspace =>
    obtain ⟨e', heq, hdenotes⟩ := h.deleteBackward?
    dsimp only
    rw [heq]
    exact ⟨_, rfl, hdenotes.refreshCompletion r⟩
  | enter => exact h.insertNewline?
  | left => exact ⟨_, rfl, h.moveLeft⟩
  | right => exact h.moveRight?
  | up => exact h.moveUp?
  | down => exact h.moveDown?
  | backTab | home | endKey | delete | insert | pageUp | pageDown | function n => exact ⟨e, rfl, h⟩

theorem insertKey? (hnone : e.completion? = none)
    (hkey : ∀ c, key.code = .char c → isLineBreak c = false)
    : ∃ e', e.insertKey? r key = some e' ∧ e'.Denotes (f.onInsert key) := by
  unfold Editor.insertKey?
  rw [hnone]
  exact h.typingKey? r key hkey

end Denotes

end Editor

namespace Shell

variable {s : Shell} {f : FlatText} {key : Key}

theorem denotes_handleKey? (h : s.editor.Denotes f) (hnone : s.editor.completion? = none)
    (hmode : s.editor.mode = .normal ∨ s.editor.mode = .insert)
    (hkey : ∀ c, key.code = .char c → isLineBreak c = false)
    : ∃ s' action?, s.handleKey? key = some (s', action?)
      ∧ s'.editor.Denotes (f.onKey s.editor.mode key) := by
  unfold handleKey? FlatText.onKey
  cases key.globalAction? with
  | some action => exact ⟨s, _, rfl, h⟩
  | none =>
    dsimp only
    split
    · next hfocus =>
      refine ⟨_, _, rfl, ?_⟩
      rw [if_pos (.inr hfocus)]
      unfold toggleFocus
      dsimp only
      split
      · exact h.congr rfl rfl
      · exact h.congr rfl rfl
    · next hfocus =>
      rw [if_neg (by simpa using hfocus)]
      cases hmode with
      | inl hnormal =>
        obtain ⟨e', heq, hdenotes⟩ := h.normalKey? s.registry key
        rw [hnormal]
        dsimp only
        rw [heq]
        exact ⟨_, _, rfl, hdenotes⟩
      | inr hinsert =>
        obtain ⟨e', heq, hdenotes⟩ := h.insertKey? s.registry key hnone hkey
        rw [hinsert]
        dsimp only
        rw [heq]
        exact ⟨_, _, rfl, hdenotes⟩

/-- Keys are pressed in normal and insert mode while nothing is listed, and the flat text takes them
as well. -/
inductive Types : Shell → FlatText → List Key → Shell → FlatText → Prop where
  | nil (s : Shell) (f : FlatText) : Types s f [] s f
  | snoc {s t t' : Shell} {f g : FlatText} {keys : List Key} {key : Key}
    {action? : Option ShellAction} :
    Types s f keys t g → t.editor.completion? = none →
    t.editor.mode = .normal ∨ t.editor.mode = .insert →
    (∀ c, key.code = .char c → isLineBreak c = false) → t.handleKey? key = some (t', action?) →
    Types s f (keys ++ [key]) t' (g.onKey t.editor.mode key)

theorem denotes_of_types {keys : List Key} {t : Shell} {g : FlatText} (h : s.editor.Denotes f)
    (ht : Types s f keys t g)
    : t.editor.Denotes g := by
  induction ht with
  | nil => exact h
  | snoc _ hnone hmode hkey heq ih =>
    obtain ⟨t', action?, heq', hdenotes⟩ := denotes_handleKey? (ih h) hnone hmode hkey
    rw [heq] at heq'
    cases heq'
    exact hdenotes

theorem simulates_flatText (h : s.editor.Denotes f) (hnone : s.editor.completion? = none)
    : (∀ key phase, s.editor.mode = .normal ∨ s.editor.mode = .insert →
        (∀ c, key.code = .char c → isLineBreak c = false) →
        ∃ s' action?, s.handleTerminal? (.key key phase) = some (s', action?)
          ∧ s'.editor.Denotes (if phase = .release then f else f.onKey s.editor.mode key))
      ∧ (∀ cs, FeedsOnly cs → (s.editor.appendText cs).Denotes (f.append cs)) := by
  constructor
  · intro key phase hmode hkey
    unfold handleTerminal?
    dsimp only
    split
    · exact ⟨s, none, rfl, h⟩
    · exact denotes_handleKey? h hnone hmode hkey
  · intro cs hcs
    exact h.appendText hcs

theorem simulates_flatText_start
    : ∃ s' action?,
      (start {} "").handleTerminal? (.key { code := .char 'o' } .press) = some (s', action?)
      ∧ s'.editor.Denotes ⟨"# Welcome to OpenCode IDE\n\nprint hi".toList, 26⟩ := by
  have h : (start {} "").editor.Denotes ⟨welcomeText.toList, 0⟩ := by
    constructor <;> decide
  exact (simulates_flatText h rfl).1 { code := .char 'o' } .press (.inl rfl) (by simp; decide)

end Shell

end Workbench
