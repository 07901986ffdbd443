import Workbench.Proofs.Screen.Panes

/-!
The columns of a line. Its characters are drawn where `displayCol` says that they are: the commands for a line
print the line with its tabs filled up to the next stop, cut or filled to the width. On the screen the number of the
line comes first, and the caret is in the column of its character as long as the number fits into the gutter.
-/

namespace Workbench

namespace TerminalCommand

def text : TerminalCommand → List Char
  | print text => text
  | _ => []

/-- The characters that the commands print one after another, without the sequences between them. -/
def printedText (cs : List TerminalCommand) : List Char :=
  cs.flatMap text

theorem printedText_cons (c : TerminalCommand) (cs : List TerminalCommand)
    : printedText (c :: cs) = c.text ++ printedText cs :=
  List.flatMap_cons

theorem printedText_append (cs ds : List TerminalCommand)
    : printedText (cs ++ ds) = printedText cs ++ printedText ds :=
  List.flatMap_append

end TerminalCommand

namespace Text

variable {tabWidth x k : Nat} {c : Char} {line : List Char}

def glyph (c : Char) : Char :=
  if c = '\t' then ' ' else c

/-- A line from the cell `x` on, with blanks up to the next stop for each of its tabs. -/
def expandTabs (tabWidth : Nat) : (x : Nat) → List Char → List Char
  | _, [] => []
  | x, c :: cs =>
    List.replicate (nextCell tabWidth x c - x) (glyph c) ++ expandTabs tabWidth (nextCell tabWidth x c) cs

theorem expandTabs_cons (tabWidth x : Nat) (c : Char) (cs : List Char)
    : expandTabs tabWidth x (c :: cs)
        = List.replicate (nextCell tabWidth x c - x) (glyph c) ++ expandTabs tabWidth (nextCell tabWidth x c) cs :=
  rfl

theorem length_expandTabs (tabWidth x : Nat) (line : List Char)
    : x + (expandTabs tabWidth x line).length = line.foldl (nextCell tabWidth) x := by
  induction line generalizing x with
  | nil => rfl
  | cons c cs ih =>
    have hlt := lt_nextCell tabWidth x c
    rw [List.foldl_cons]
    rw [← ih]
    rw [expandTabs_cons]
    rw [List.length_append, List.length_replicate]
    omega

theorem expandTabs_append (tabWidth x : Nat) (a b : List Char)
    : expandTabs tabWidth x (a ++ b)
        = expandTabs tabWidth x a ++ expandTabs tabWidth (a.foldl (nextCell tabWidth) x) b := by
  induction a generalizing x with
  | nil => rfl
  | cons c a ih =>
    rw [List.cons_append, List.foldl_cons]
    rw [expandTabs_cons, expandTabs_cons]
    rw [ih, List.append_assoc]

theorem displayCol_eq_length (line : List Char) (k tabWidth : Nat)
    : displayCol line k tabWidth = (expandTabs tabWidth 0 (line.take k)).length := by
  unfold displayCol
  rw [← length_expandTabs]
  exact Nat.zero_add _

theorem take_replicate_append {α : Type} {width stop next : Nat} (h : x < width) (hstop : x < stop)
    (hnext : next = min stop width) (a : α) (rest : Nat → List α)
    : (List.replicate (stop - x) a ++ rest stop).take (width - x)
        = List.replicate (next - x) a ++ (rest next).take (width - next) := by
  -- The first cells of a line end in the pane, or they are cut there and nothing after them is left.
  have hcount : min (width - x) (stop - x) = next - x := by omega
  rw [List.take_append, List.take_replicate, List.length_replicate]
  rw [hcount]
  congr 1
  rcases Nat.le_total stop width with hle | hge
  · rw [Nat.min_eq_left hle] at hnext
    rw [hnext]
    congr 1
    omega
  · rw [Nat.min_eq_right hge] at hnext
    have hnone : width - x - (stop - x) = 0 := by omega
    rw [hnext, hnone, Nat.sub_self]
    rw [List.take_zero, List.take_zero]

theorem take_expandTabs_cons {width next : Nat} (h : x < width) (hnext : next = min (nextCell tabWidth x c) width)
    (cs : List Char)
    : (expandTabs tabWidth x (c :: cs)).take (width - x)
        = List.replicate (next - x) (glyph c) ++ (expandTabs tabWidth next cs).take (width - next) :=
  take_replicate_append h (lt_nextCell tabWidth x c) hnext (glyph c) (expandTabs tabWidth · cs)

theorem exists_expandTabs_eq {cs : List Char} (tabWidth : Nat) (h : cs[k]? = some c)
    : ∃ rest, expandTabs tabWidth 0 cs = expandTabs tabWidth 0 (cs.take k) ++ glyph c :: rest := by
  obtain ⟨hk, hget⟩ := List.getElem?_eq_some_iff.1 h
  have hcs : cs = cs.take k ++ c :: cs.drop (k + 1) := by
    rw [← hget, List.getElem_cons_drop, List.take_append_drop]
  -- A character takes at least one cell.
  have hfirst (x : Nat) : ∃ rest, expandTabs tabWidth x (c :: cs.drop (k + 1)) = glyph c :: rest := by
    obtain ⟨n, hn⟩ := Nat.exists_eq_succ_of_ne_zero (Nat.sub_ne_zero_of_lt (lt_nextCell tabWidth x c))
    rw [expandTabs_cons, hn, List.replicate_succ]
    exact ⟨_, rfl⟩
  obtain ⟨rest, hrest⟩ := hfirst ((cs.take k).foldl (nextCell tabWidth) 0)
  refine ⟨rest, ?_⟩
  conv => lhs; rw [hcs]
  rw [expandTabs_append, hrest]

theorem exists_fit_eq {before rest : List Char} {width : Nat} (h : before.length < width)
    : ∃ after, fit (before ++ c :: rest) width = before ++ c :: after := by
  obtain ⟨n, hn⟩ := Nat.exists_eq_succ_of_ne_zero (Nat.sub_ne_zero_of_lt h)
  unfold fit
  rw [List.take_append, List.take_of_length_le (Nat.le_of_lt h), hn, List.take_succ_cons]
  exact ⟨_, List.append_assoc _ _ _⟩

theorem exists_fit_expandTabs {cs : List Char} {width : Nat} (h : cs[k]? = some c)
    (hlt : displayCol cs k tabWidth < width)
    : ∃ after, fit (expandTabs tabWidth 0 cs) width = expandTabs tabWidth 0 (cs.take k) ++ glyph c :: after := by
  obtain ⟨rest, hrest⟩ := exists_expandTabs_eq tabWidth h
  rw [hrest]
  rw [displayCol_eq_length] at hlt
  exact exists_fit_eq hlt

theorem getElem?_lines_feeds (n : Nat) (cs : List Char)
    : (lines (List.replicate n '\n' ++ cs))[n]? = (lines cs)[0]? := by
  induction n with
  | zero => rfl
  | succ n ih =>
    rw [List.replicate_succ]
    exact ih

theorem displayCol_content (tabWidth : Nat) (hk : k ≤ (content line).length)
    : displayCol (content line) k tabWidth = displayCol line k tabWidth := by
  obtain ⟨rest, hrest⟩ := dropTrailing_isPrefix isFeedOrReturn line
  have htake : line.take k = (content line).take k := by
    conv => lhs; rw [← hrest]
    exact List.take_append_of_le_length hk
  unfold displayCol
  rw [htake]

end Text

namespace View

open TerminalCommand Text

theorem printedText_style (s : Style) (ground : Color) : printedText (s.commands ground) = [] := by
  unfold Style.commands
  simp only [printedText_append]
  cases s.bold <;> cases s.italic <;> cases s.underline <;> rfl

theorem text_of_char {tabWidth width x next : Nat} {c : Char} (h : x < width)
    (hnext : (if c = '\t' then min (nextCell tabWidth x c) width else x + 1) = next)
    : next = min (nextCell tabWidth x c) width
      ∧ (if c = '\t' then blanks (next - x) else [c]) = List.replicate (next - x) (glyph c) := by
  by_cases htab : c = '\t'
  · rw [if_pos htab] at hnext
    unfold glyph
    rw [if_pos htab, if_pos htab]
    exact ⟨hnext.symm, rfl⟩
  · rw [if_neg htab] at hnext
    unfold glyph nextCell
    rw [if_neg htab, if_neg htab, if_neg htab]
    refine ⟨by omega, ?_⟩
    rw [← hnext, Nat.add_sub_cancel_left]
    rfl

theorem printedText_drawChars (v : View) (theme : Theme) (classes : HighlightedLine) (width : Nat)
    (line : List Char) (byte x : Nat) (current : Option Style) (hx : x ≤ width)
    : printedText (v.drawChars theme classes width byte x current line).1
          = (expandTabs v.options.tabWidth x line).take (width - x)
        ∧ (v.drawChars theme classes width byte x current line).2
          = x + ((expandTabs v.options.tabWidth x line).take (width - x)).length := by
  induction line generalizing byte x current with
  | nil =>
    unfold drawChars expandTabs
    rw [List.take_nil]
    exact ⟨rfl, rfl⟩
  | cons c cs ih =>
    unfold drawChars
    split
    next hfull =>
      have hroom : width - x = 0 := Nat.sub_eq_zero_of_le hfull
      rw [hroom, List.take_zero]
      exact ⟨rfl, rfl⟩
    next hroom =>
      dsimp only
      generalize hnext : (if c = '\t' then min (nextCell v.options.tabWidth x c) width else x + 1) = next
      obtain ⟨hmin, htext⟩ := text_of_char (Nat.lt_of_not_le hroom) hnext
      have hlt := lt_nextCell v.options.tabWidth x c
      obtain ⟨ihtext, ihend⟩ := ih (byte + c.utf8Size) next (some (styleAt theme classes byte)) (by omega)
      have hchange : printedText (if current = some (styleAt theme classes byte) then []
          else (styleAt theme classes byte).commands theme.background) = [] := by
        split
        next => rfl
        next => exact printedText_style _ _
      rw [take_expandTabs_cons (Nat.lt_of_not_le hroom) hmin, htext]
      constructor
      · rw [printedText_append, hchange, printedText_cons, ihtext]
        rfl
      · rw [ihend, List.length_append, List.length_replicate]
        omega

theorem printedText_drawLine (v : View) (theme : Theme) (classes : HighlightedLine) (width : Nat)
    (line : List Char)
    : printedText (v.drawLine theme classes width line) = fit (expandTabs v.options.tabWidth 0 line) width := by
  obtain ⟨htext, hend⟩ := v.printedText_drawChars theme classes width line 0 0 none (Nat.zero_le width)
  have hclose : printedText [.resetStyle, .background theme.background] = [] := rfl
  have hfill : printedText (if (v.drawChars theme classes width 0 0 none line).2 < width then
        [.print (blanks (width - (v.drawChars theme classes width 0 0 none line).2))] else [])
      = List.replicate (width - (expandTabs v.options.tabWidth 0 line).length) ' ' := by
    rw [hend, List.length_take, Nat.zero_add, Nat.sub_zero]
    split
    next hlt =>
      have hcount : width - min width (expandTabs v.options.tabWidth 0 line).length
          = width - (expandTabs v.options.tabWidth 0 line).length := by omega
      rw [hcount]
      exact List.append_nil _
    next hge =>
      have hcount : width - (expandTabs v.options.tabWidth 0 line).length = 0 := by omega
      rw [hcount]
      rfl
  unfold drawLine
  dsimp only
  rw [printedText_append, printedText_append, htext, hclose, hfill]
  rw [List.append_nil, Nat.sub_zero]
  rfl

def gutterText (v : View) (n : Nat) : List Char :=
  if 0 < v.gutterWidth then padLeft (Nat.toDigits 10 (n + 1)) 4 ++ [' '] else []

theorem printedText_drawRow (v : View) (theme : Theme) {e : Editor} (r : Registry) (rect : Rect) {row : Nat}
    {line : List Char} (h : e.document.lines[row + e.scroll]? = some line)
    : printedText (v.drawRow theme e r rect e.document.lines row)
        = v.gutterText (row + e.scroll)
          ++ fit (expandTabs v.options.tabWidth 0 (content line)) (rect.width - v.gutterWidth) := by
  unfold drawRow
  rw [h]
  dsimp only
  rw [printedText_cons, printedText_append, printedText_drawLine]
  change printedText _ ++ _ = _
  congr 1
  unfold gutterText
  split
  next => exact List.append_nil _
  next => rfl

theorem gutterWidth_eq {v : View} (h : v.options.showLineNumbers = true) : v.gutterWidth = numbersWidth :=
  if_pos h

theorem length_gutterText {v : View} (h : v.options.showLineNumbers = true) (n : Nat)
    : (v.gutterText n).length = max 4 (Nat.toDigits 10 (n + 1)).length + 1 := by
  unfold gutterText padLeft blanks
  rw [gutterWidth_eq h, if_pos (by decide)]
  simp only [List.length_append, List.length_replicate, List.length_singleton]
  omega

theorem length_gutterText_iff {v : View} (h : v.options.showLineNumbers = true) (n : Nat)
    : (v.gutterText n).length = v.gutterWidth ↔ n + 1 ≤ 9999 := by
  have hdigits : (Nat.toDigits 10 (n + 1)).length ≤ 4 ↔ n + 1 < 10 ^ 4 :=
    Nat.length_toDigits_le_iff (by decide) (by decide)
  rw [length_gutterText h, gutterWidth_eq h]
  unfold numbersWidth
  omega

def NumberFits (v : View) (n : Nat) : Prop :=
  v.options.showLineNumbers = true → n + 1 ≤ 9999

theorem length_gutterText_eq_iff (v : View) (n : Nat)
    : (v.gutterText n).length = v.gutterWidth ↔ v.NumberFits n := by
  unfold NumberFits
  cases hnumbers : v.options.showLineNumbers with
  | true =>
    rw [length_gutterText_iff hnumbers]
    exact ⟨fun h _ => h, fun h => h rfl⟩
  | false =>
    refine iff_of_true ?_ nofun
    unfold gutterText gutterWidth
    rw [hnumbers]
    rfl

theorem gutterWidth_le_length (v : View) (n : Nat) : v.gutterWidth ≤ (v.gutterText n).length := by
  cases hnumbers : v.options.showLineNumbers with
  | true =>
    rw [length_gutterText hnumbers, gutterWidth_eq hnumbers]
    exact Nat.succ_le_succ (Nat.le_max_left _ _)
  | false =>
    unfold gutterWidth
    rw [hnumbers]
    exact Nat.zero_le _

theorem caretCell?_of_lt (v : View) (rect : Rect) {e : Editor} {line : List Char}
    (hline : e.document.line? e.caret.line = some line) (hscroll : e.scroll ≤ e.caret.line)
    (hheight : e.caret.line - e.scroll < rect.height)
    (hlt : rect.x + v.gutterWidth + displayCol line e.caret.column v.options.tabWidth < rect.right)
    : v.caretCell? e rect = some (some (rect.x + v.gutterWidth + displayCol line e.caret.column v.options.tabWidth,
        rect.y + (e.caret.line - e.scroll))) := by
  unfold caretCell?
  rw [if_neg (by omega), hline]
  simp only [Option.map_some]
  rw [Nat.min_eq_left (by omega)]

/-- What is printed in the row of a line before one of its characters. -/
def textBefore (v : View) (n : Nat) (cs : List Char) (k : Nat) : List Char :=
  v.gutterText n ++ expandTabs v.options.tabWidth 0 (cs.take k)

theorem length_textBefore (v : View) (n : Nat) (cs : List Char) (k : Nat)
    : (v.textBefore n cs k).length = (v.gutterText n).length + displayCol cs k v.options.tabWidth := by
  unfold textBefore
  rw [List.length_append, displayCol_eq_length]

theorem printedText_drawRow_char (v : View) (theme : Theme) {e : Editor} (r : Registry) (rect : Rect) {row n k : Nat}
    {line : List Char} {c : Char} (hn : row + e.scroll = n) (hline : e.document.line? n = some line)
    (hc : (content line)[k]? = some c)
    (hroom : displayCol (content line) k v.options.tabWidth < rect.width - v.gutterWidth)
    : ∃ after, printedText (v.drawRow theme e r rect e.document.lines row)
        = v.textBefore n (content line) k ++ glyph c :: after := by
  obtain ⟨after, hafter⟩ := exists_fit_expandTabs hc hroom
  refine ⟨after, ?_⟩
  rw [v.printedText_drawRow theme r rect (hn ▸ hline), hn, hafter]
  exact (List.append_assoc _ _ _).symm

structure CaretDrawn (v : View) (theme : Theme) (e : Editor) (r : Registry) (rect : Rect) (line : List Char)
    (c : Char) : Prop where
  start : (v.drawRow theme e r rect e.document.lines (e.caret.line - e.scroll)).head?
    = some (.moveTo rect.x (rect.y + (e.caret.line - e.scroll)))
  printed : ∃ after, printedText (v.drawRow theme e r rect e.document.lines (e.caret.line - e.scroll))
    = v.textBefore e.caret.line (content line) e.caret.column ++ glyph c :: after
  cell : v.caretCell? e rect = some (some (rect.x + v.gutterWidth + displayCol line e.caret.column v.options.tabWidth,
    rect.y + (e.caret.line - e.scroll)))
  /-- The caret is in the column in which its character is drawn exactly if the line number fits into the gutter. -/
  cell_iff : v.caretCell? e rect
      = some (some (rect.x + (v.textBefore e.caret.line (content line) e.caret.column).length,
          rect.y + (e.caret.line - e.scroll)))
    ↔ v.NumberFits e.caret.line

structure ColumnsAgree (v : View) : Prop where
  width : ∀ theme classes width line,
    (printedText (v.drawLine theme classes width line)).length = width
  cell : ∀ theme classes width (cs : List Char) k c, cs[k]? = some c →
    displayCol cs k v.options.tabWidth < width →
    (printedText (v.drawLine theme classes width cs))[displayCol cs k v.options.tabWidth]? = some (glyph c)
  caret : ∀ theme (e : Editor) r (rect : Rect) line c,
    e.document.line? e.caret.line = some line → (content line)[e.caret.column]? = some c →
    e.scroll ≤ e.caret.line → e.caret.line - e.scroll < rect.height →
    rect.x + v.gutterWidth + displayCol line e.caret.column v.options.tabWidth < rect.right →
    v.CaretDrawn theme e r rect line c

theorem columnsAgree (v : View) : v.ColumnsAgree where
  width theme classes width line := by
    rw [printedText_drawLine]
    exact length_fit _ width
  cell theme classes width cs k c hc hlt := by
    obtain ⟨after, hafter⟩ := exists_fit_expandTabs hc hlt
    rw [printedText_drawLine, hafter, displayCol_eq_length]
    rw [List.getElem?_append_right (Nat.le_refl _), Nat.sub_self]
    rfl
  caret theme e r rect line c hline hc hscroll hheight hlt := by
    have hright : rect.right ≤ rect.x + rect.width := Nat.min_le_left _ _
    have hcol := displayCol_content v.options.tabWidth
      (Nat.le_of_lt (List.getElem?_eq_some_iff.1 hc).1)
    have hcell := v.caretCell?_of_lt rect hline hscroll hheight hlt
    refine ⟨rfl, ?_, hcell, ?_⟩
    · refine v.printedText_drawRow_char theme r rect (Nat.sub_add_cancel hscroll) hline hc ?_
      rw [hcol]
      omega
    · rw [← length_gutterText_eq_iff, hcell, length_textBefore, hcol]
      simp only [Option.some.injEq, Prod.mk.injEq, and_true]
      omega

theorem columnsAgree_tab
    : ∃ (v : View) (e : Editor) (after : List Char),
        v.options.tabWidth = 4 ∧ e.document.text = "a\tb".toList ∧ e.caret = ⟨0, 2⟩
        ∧ v.caretCell? e v.layout.editor = some (some (34, 0))
        ∧ (v.drawRow .dark e {} v.layout.editor e.document.lines 0).head? = some (.moveTo 25 0)
        ∧ printedText (v.drawRow .dark e {} v.layout.editor e.document.lines 0) = "   1 a   ".toList ++ 'b' :: after := by
  let v : View := ⟨80, 24, {}⟩
  let e : Editor := { document := { text := "a\tb".toList }, caret := ⟨0, 2⟩ }
  have hdrawn : v.CaretDrawn .dark e {} v.layout.editor "a\tb".toList 'b' :=
    (columnsAgree v).caret .dark e {} v.layout.editor "a\tb".toList 'b' (by decide) (by decide) (by decide)
      (by decide) (by decide)
  have hbefore : v.textBefore e.caret.line (content "a\tb".toList) e.caret.column = "   1 a   ".toList := by decide
  obtain ⟨after, hprinted⟩ := hdrawn.printed
  rw [hbefore] at hprinted
  exact ⟨v, e, after, rfl, rfl, rfl, hdrawn.cell, hdrawn.start, hprinted⟩

theorem caret_tenThousand
    : ∃ (v : View) (e : Editor), v.layout.editor = ⟨25, 0, 55, 16⟩
        ∧ e.document.text = List.replicate 9999 '\n' ++ ['x'] ∧ e.caret = ⟨9999, 0⟩ ∧ e.scroll = 9984
        ∧ v.caretCell? e v.layout.editor = some (some (30, 15))
        ∧ (v.drawRow .dark e {} v.layout.editor e.document.lines 15).head? = some (.moveTo 25 15)
        ∧ (printedText (v.drawRow .dark e {} v.layout.editor e.document.lines 15)).take 7 = "10000 x".toList := by
  let v : View := ⟨80, 24, {}⟩
  obtain ⟨e, htext, hcaret, hscroll⟩ : ∃ e : Editor, e.document.text = List.replicate 9999 '\n' ++ ['x']
      ∧ e.caret = ⟨9999, 0⟩ ∧ e.scroll = 9984 :=
    ⟨{ document := { text := _ }, caret := _, scroll := _ }, rfl, rfl, rfl⟩
  have hline : e.document.lines[9999]? = some ['x'] := by
    unfold Document.lines
    rw [htext]
    exact getElem?_lines_feeds 9999 ['x']
  refine ⟨v, e, by decide, htext, hcaret, hscroll, ?_, rfl, ?_⟩
  · have hcaretLine : e.document.line? e.caret.line = some ['x'] := by
      rw [hcaret]
      exact hline
    have hcell := v.caretCell?_of_lt v.layout.editor hcaretLine
    rw [hcaret, hscroll] at hcell
    exact hcell (by decide) (by decide) (by decide)
  · have hrow : e.document.lines[15 + e.scroll]? = some ['x'] := by
      rw [hscroll]
      exact hline
    rw [v.printedText_drawRow .dark {} v.layout.editor hrow, hscroll]
    decide

example
    : printedText ((View.mk 80 24 {}).drawLine .dark {} 6 "a\tb".toList) = "a   b ".toList
      ∧ printedText ((View.mk 80 24 {}).drawLine .dark {} 3 "a\tb".toList) = "a  ".toList := by
  decide

end View

end Workbench
