import Workbench.Proofs.Language.Comments
import Workbench.Proofs.Screen.Columns
import Workbench.Proofs.Screen.Legible
import Workbench.Proofs.Screen.Strokes

/-!
The colours of a line. Styles are set where they change, and the terminal draws the same as if each character
came with its style: every cell has the style of the token that covers its character, the cells after the line
have none, and none is left behind.
-/

namespace Workbench

open Text TerminalCommand

def Style.pen (s : Style) (ground : Color) : Pen :=
  ⟨some s.foreground, some ground, s.bold, s.italic, s.underline⟩

namespace Terminal

variable {t : Terminal}

theorem execAll_style (t : Terminal) (s : Style) (ground : Color)
    : t.execAll (s.commands ground) = { t with pen := s.pen ground } := by
  unfold Style.commands Style.pen
  cases s.bold <;> cases s.italic <;> cases s.underline <;> rfl

theorem strokes_style (t : Terminal) (s : Style) (ground : Color) : t.strokes (s.commands ground) = [] := by
  unfold Style.commands
  cases s.bold <;> cases s.italic <;> cases s.underline <;> rfl

theorem execAll_style_of_pen {s : Style} {ground : Color} (h : t.pen = s.pen ground)
    : t.execAll (s.commands ground) = t := by
  rw [execAll_style, ← h]

end Terminal

namespace Text

variable {tabWidth k i : Nat} {pen : Nat → Pen} {c : Char} {cs : List Char}

/-- The cells of a line from the cell `x` on, each with the pen for the byte at which its character begins. -/
def paint (tabWidth : Nat) (pen : Nat → Pen) : (byte x : Nat) → List Char → List Cell
  | _, _, [] => []
  | byte, x, c :: cs =>
    List.replicate (nextCell tabWidth x c - x) ⟨glyph c, pen byte⟩
      ++ paint tabWidth pen (byte + c.utf8Size) (nextCell tabWidth x c) cs

theorem paint_cons (tabWidth : Nat) (pen : Nat → Pen) (byte x : Nat) (c : Char) (cs : List Char)
    : paint tabWidth pen byte x (c :: cs)
        = List.replicate (nextCell tabWidth x c - x) ⟨glyph c, pen byte⟩
          ++ paint tabWidth pen (byte + c.utf8Size) (nextCell tabWidth x c) cs :=
  rfl

theorem length_paint (tabWidth : Nat) (pen : Nat → Pen) (byte x : Nat) (line : List Char)
    : (paint tabWidth pen byte x line).length = (expandTabs tabWidth x line).length := by
  induction line generalizing byte x with
  | nil => rfl
  | cons c line ih =>
    rw [paint_cons, expandTabs_cons]
    simp only [List.length_append, List.length_replicate, ih]

theorem paint_append (tabWidth : Nat) (pen : Nat → Pen) (byte x : Nat) (a b : List Char)
    : paint tabWidth pen byte x (a ++ b)
        = paint tabWidth pen byte x a
          ++ paint tabWidth pen (byte + Utf8.size a) (a.foldl (nextCell tabWidth) x) b := by
  induction a generalizing byte x with
  | nil => rfl
  | cons c a ih =>
    rw [List.cons_append, paint_cons, paint_cons, ih]
    rw [List.append_assoc, Utf8.size_cons, Nat.add_assoc]
    rfl

theorem displayCol_succ (h : cs[k]? = some c)
    : displayCol cs (k + 1) tabWidth = nextCell tabWidth (displayCol cs k tabWidth) c := by
  unfold displayCol
  rw [List.take_add_one, h, List.foldl_append]
  rfl

theorem getElem?_paint (pen : Nat → Pen) (h : cs[k]? = some c) (hle : displayCol cs k tabWidth ≤ i)
    (hlt : i < displayCol cs (k + 1) tabWidth)
    : (paint tabWidth pen 0 0 cs)[i]? = some ⟨glyph c, pen (Utf8.size (cs.take k))⟩ := by
  obtain ⟨hk, hget⟩ := List.getElem?_eq_some_iff.1 h
  have hcs : cs = cs.take k ++ c :: cs.drop (k + 1) := by
    rw [← hget, List.getElem_cons_drop, List.take_append_drop]
  have hstart : (paint tabWidth pen 0 0 (cs.take k)).length = displayCol cs k tabWidth := by
    rw [length_paint, displayCol_eq_length]
  rw [displayCol_succ h] at hlt
  conv => lhs; rw [hcs]
  rw [paint_append, paint_cons]
  rw [List.getElem?_append_right (by omega), hstart, Nat.zero_add]
  change (List.replicate (nextCell tabWidth (displayCol cs k tabWidth) c - displayCol cs k tabWidth) _
    ++ _)[_]? = _
  rw [List.getElem?_append_left (by rw [List.length_replicate]; omega)]
  rw [List.getElem?_replicate, if_pos (by omega)]

end Text

namespace View

variable {t : Terminal} {v : View} {theme : Theme} {classes : HighlightedLine} {width : Nat}

/--
The characters of a line as `drawChars` has them, but with the style set before each of them.
-/
def styledChars (v : View) (theme : Theme) (classes : HighlightedLine) (width : Nat) :
    (byte x : Nat) → List Char → List TerminalCommand × Nat
  | _, x, [] => ([], x)
  | byte, x, c :: cs =>
    if width ≤ x then ([], x)
    else
      let next := if c = '\t' then min (nextCell v.options.tabWidth x c) width else x + 1
      let rest := v.styledChars theme classes width (byte + c.utf8Size) next cs
      ((styleAt theme classes byte).commands theme.background
        ++ .print (if c = '\t' then blanks (next - x) else [c]) :: rest.1, rest.2)

def styledLine (v : View) (theme : Theme) (classes : HighlightedLine) (width : Nat) (line : List Char) :
    List TerminalCommand :=
  let drawn := v.styledChars theme classes width 0 0 line
  drawn.1 ++ [.resetStyle, .background theme.background]
    ++ (if drawn.2 < width then [.print (blanks (width - drawn.2))] else [])

def Remembers (theme : Theme) (current : Option Style) (t : Terminal) : Prop :=
  ∀ s, current = some s → t.pen = s.pen theme.background

theorem drawChars_eq_styledChars (v : View) (classes : HighlightedLine) (width : Nat) (t : Terminal)
    (line : List Char) (byte x : Nat) {current : Option Style} (h : Remembers theme current t)
    : (v.drawChars theme classes width byte x current line).2 = (v.styledChars theme classes width byte x line).2
      ∧ t.strokes (v.drawChars theme classes width byte x current line).1
        = t.strokes (v.styledChars theme classes width byte x line).1
      ∧ t.execAll (v.drawChars theme classes width byte x current line).1
        = t.execAll (v.styledChars theme classes width byte x line).1 := by
  induction line generalizing t byte x current with
  | nil => exact ⟨rfl, rfl, rfl⟩
  | cons c line ih =>
    unfold drawChars styledChars
    split
    next => exact ⟨rfl, rfl, rfl⟩
    next =>
      dsimp only
      generalize styleAt theme classes byte = style
      generalize (if c = '\t' then min (nextCell v.options.tabWidth x c) width else x + 1) = next
      generalize (if c = '\t' then blanks (next - x) else [c]) = text
      -- Whether it is set or not, the style is the same after this.
      have hpen : t.execAll (if current = some style then [] else style.commands theme.background)
          = t.execAll (style.commands theme.background) := by
        split
        next hsame => rw [Terminal.execAll_style_of_pen (h style hsame), Terminal.execAll_nil]
        next => rfl
      have hquiet : t.strokes (if current = some style then [] else style.commands theme.background)
          = t.strokes (style.commands theme.background) := by
        rw [Terminal.strokes_style]
        split
        next => rfl
        next => exact Terminal.strokes_style t style theme.background
      have hnext : Remembers theme (some style)
          ((t.execAll (style.commands theme.background)).exec (.print text)) := by
        rintro _ ⟨⟩
        rw [Terminal.pen_print, Terminal.execAll_style]
      obtain ⟨hend, hstrokes, hexec⟩ := ih _ (byte + c.utf8Size) next hnext
      refine ⟨hend, ?_, ?_⟩
      · simp only [Terminal.strokes_append, Terminal.strokes_cons, hpen, hquiet, hstrokes]
      · simp only [Terminal.execAll_append, Terminal.execAll_cons, hpen, hexec]

theorem drawLine_eq_styledLine (v : View) (theme : Theme) (classes : HighlightedLine) (width : Nat)
    (line : List Char) (t : Terminal)
    : t.strokes (v.drawLine theme classes width line) = t.strokes (v.styledLine theme classes width line)
      ∧ t.execAll (v.drawLine theme classes width line)
        = t.execAll (v.styledLine theme classes width line) := by
  have hstart : Remembers theme none t := fun _ hnone => nomatch hnone
  obtain ⟨hend, hstrokes, hexec⟩ :=
    v.drawChars_eq_styledChars classes width t line 0 0 hstart
  unfold drawLine styledLine
  dsimp only
  rw [hend]
  constructor
  · simp only [Terminal.strokes_append, Terminal.execAll_append, hstrokes, hexec]
  · simp only [Terminal.execAll_append, hexec]

theorem cells_styledChars (v : View) (theme : Theme) (classes : HighlightedLine) (t : Terminal) (line : List Char)
    (byte x : Nat) (hx : x ≤ width)
    : (t.strokes (v.styledChars theme classes width byte x line).1).map (·.cell)
        = (paint v.options.tabWidth (fun b => (styleAt theme classes b).pen theme.background) byte x line).take
          (width - x) := by
  induction line generalizing t byte x with
  | nil => rw [paint, List.take_nil]; rfl
  | cons c line ih =>
    unfold styledChars
    split
    next hfull =>
      rw [Nat.sub_eq_zero_of_le hfull, List.take_zero]
      rfl
    next hroom =>
      dsimp only
      generalize hnext : (if c = '\t' then min (nextCell v.options.tabWidth x c) width else x + 1) = next
      obtain ⟨hmin, htext⟩ := text_of_char (Nat.lt_of_not_le hroom) hnext
      rw [htext, paint_cons]
      rw [take_replicate_append (Nat.lt_of_not_le hroom) (lt_nextCell v.options.tabWidth x c) hmin _
        (paint v.options.tabWidth _ (byte + c.utf8Size) · line)]
      rw [Terminal.strokes_append, Terminal.strokes_style, List.nil_append, Terminal.strokes_cons]
      rw [List.map_append, ih _ _ _ (by omega)]
      congr 1
      rw [Terminal.execAll_style]
      unfold Terminal.commandStrokes
      rw [Terminal.map_cell_textStrokes, List.map_replicate]

theorem cells_drawLine (v : View) (theme : Theme) (classes : HighlightedLine) (width : Nat) (line : List Char)
    (t : Terminal)
    : (t.strokes (v.drawLine theme classes width line)).map (·.cell)
        = (paint v.options.tabWidth (fun b => (styleAt theme classes b).pen theme.background) 0 0 line).take width
          ++ List.replicate (width - (expandTabs v.options.tabWidth 0 line).length)
            ⟨' ', { background? := some theme.background }⟩ := by
  have hchars := v.cells_styledChars theme classes t line 0 0 (Nat.zero_le width)
  have hstart : Remembers theme none t := fun _ hnone => nomatch hnone
  obtain ⟨hend, -, -⟩ :=
    v.drawChars_eq_styledChars classes width t line 0 0 hstart
  obtain ⟨-, hcells⟩ := v.printedText_drawChars theme classes width line 0 0 none (Nat.zero_le width)
  rw [hend, Nat.zero_add, Nat.sub_zero, List.length_take] at hcells
  rw [(v.drawLine_eq_styledLine theme classes width line t).1]
  unfold styledLine
  dsimp only
  rw [Terminal.strokes_append, Terminal.strokes_append, List.map_append, List.map_append, hchars, Nat.sub_zero]
  change _ ++ [] ++ _ = _
  rw [List.append_nil, hcells]
  congr 1
  split
  next hlt =>
    rw [Terminal.strokes_cons, Terminal.strokes_nil, List.append_nil]
    unfold Terminal.commandStrokes blanks
    rw [Terminal.map_cell_textStrokes, List.map_replicate]
    rw [Terminal.execAll_append]
    have hcount : width - min width (expandTabs v.options.tabWidth 0 line).length
        = width - (expandTabs v.options.tabWidth 0 line).length := by omega
    rw [hcount]
    rfl
  next hge =>
    have hnone : width - (expandTabs v.options.tabWidth 0 line).length = 0 := by omega
    rw [hnone]
    rfl

/-- The style of a byte: that of the first token that covers it, and the plain one where there is none. -/
def tokenStyle (theme : Theme) (tokens? : Option (List Token)) (byte : Nat) : Style :=
  match (tokens?.getD []).find? fun t => t.start ≤ byte && byte < t.stop with
  | some t => theme.styleFor t.tokenClass
  | none => theme.plain

theorem tokenStyle_eq (theme : Theme) (tokens : List Token) (byte : Nat)
    : tokenStyle theme (some tokens) byte = styleAt theme (.ofTokens tokens) byte := by
  unfold tokenStyle styleAt HighlightedLine.classAt? HighlightedLine.ofTokens
  simp only [Option.getD_some, List.find?_map, Option.map_map, Function.comp_def]
  cases tokens.find? fun t => t.start ≤ byte && byte < t.stop with
  | none => rfl
  | some t => rfl

theorem styleAt_highlight (theme : Theme) (language? : Option String) (r : Registry) (line : List Char)
    (byte : Nat)
    : styleAt theme (highlight language? r line) byte
        = tokenStyle theme (language?.bind (r.tokenize? · line)) byte := by
  unfold highlight
  cases language?.bind (r.tokenize? · line) with
  | none => rfl
  | some tokens => exact (tokenStyle_eq theme tokens byte).symm

structure Shown (v : View) (theme : Theme) (tokens? : Option (List Token)) (width : Nat) (cs : List Char)
    (cells : List Cell) : Prop where
  length : cells.length = width
  char : ∀ k c i, cs[k]? = some c → displayCol cs k v.options.tabWidth ≤ i →
    i < displayCol cs (k + 1) v.options.tabWidth → i < width →
    cells[i]? = some ⟨glyph c, (tokenStyle theme tokens? (Utf8.size (cs.take k))).pen theme.background⟩
  padding : ∀ i, displayCol cs cs.length v.options.tabWidth ≤ i → i < width →
    cells[i]? = some ⟨' ', { background? := some theme.background }⟩

structure Styled (v : View) (theme : Theme) (language? : Option String) (r : Registry) (width : Nat)
    (line : List Char) (t : Terminal) : Prop where
  shown : v.Shown theme (language?.bind (r.tokenize? · line)) width line
    ((t.strokes (v.drawLine theme (highlight language? r line) width line)).map (·.cell))
  pen : (t.execAll (v.drawLine theme (highlight language? r line) width line)).pen
    = { background? := some theme.background }
  anew : t.strokes (v.drawLine theme (highlight language? r line) width line)
      = t.strokes (v.styledLine theme (highlight language? r line) width line)
    ∧ t.execAll (v.drawLine theme (highlight language? r line) width line)
      = t.execAll (v.styledLine theme (highlight language? r line) width line)
  /--
  The escape sequences say what the commands do. Nothing is said of a line with a control character other than a tab,
  which is printed as it is: an escape character in the line would begin a sequence of its own.
  -/
  sequences : Tabbed line →
    t.feed (encodeAll (v.drawLine theme (highlight language? r line) width line))
      = t.execAll (v.drawLine theme (highlight language? r line) width line)
  /-- In a language with a lexer there is one token to take the style from. -/
  lexer : ∀ lx : Lexer, language?.bind (r.tokenize? · line) = some (lx.tokenize line) → ∀ k < line.length,
    ∃ token ∈ lx.tokenize line,
      (∀ u ∈ lx.tokenize line, u.start ≤ Utf8.size (line.take k) ∧ Utf8.size (line.take k) < u.stop ↔ u = token)
      ∧ tokenStyle theme (language?.bind (r.tokenize? · line)) (Utf8.size (line.take k))
        = theme.styleFor token.tokenClass

theorem shown_drawLine (v : View) (theme : Theme) (language? : Option String) (r : Registry) (width : Nat)
    (line : List Char) (t : Terminal)
    : v.Shown theme (language?.bind (r.tokenize? · line)) width line
        ((t.strokes (v.drawLine theme (highlight language? r line) width line)).map (·.cell)) := by
  rw [cells_drawLine]
  simp only [styleAt_highlight]
  generalize hpaint : paint v.options.tabWidth (fun b =>
    (tokenStyle theme (language?.bind (r.tokenize? · line)) b).pen theme.background) 0 0 line = cells
  have hlength : cells.length = (expandTabs v.options.tabWidth 0 line).length := by
    rw [← hpaint, length_paint]
  have hend : displayCol line line.length v.options.tabWidth = cells.length := by
    rw [displayCol_eq_length, List.take_length, hlength]
  rw [← hlength]
  refine ⟨?_, ?_, ?_⟩
  · rw [List.length_append, List.length_take, List.length_replicate]
    omega
  · intro k c i hc hle hlt hwidth
    have hcell := getElem?_paint
      (fun b => (tokenStyle theme (language?.bind (r.tokenize? · line)) b).pen theme.background) hc hle hlt
    rw [hpaint] at hcell
    obtain ⟨hi, -⟩ := List.getElem?_eq_some_iff.1 hcell
    rw [List.getElem?_append_left (by rw [List.length_take]; omega)]
    rw [List.getElem?_take_of_lt hwidth]
    exact hcell
  · intro i hle hwidth
    rw [hend] at hle
    rw [List.getElem?_append_right (by rw [List.length_take]; omega)]
    rw [List.getElem?_replicate, if_pos (by rw [List.length_take]; omega)]

theorem exists_token (lx : Lexer) {cs : List Char} {k : Nat} (hk : k < cs.length)
    : ∃ token ∈ lx.tokenize cs,
        (∀ u ∈ lx.tokenize cs,
          u.start ≤ Utf8.size (cs.take k) ∧ Utf8.size (cs.take k) < u.stop ↔ u = token)
        ∧ ∀ theme : Theme, tokenStyle theme (some (lx.tokenize cs)) (Utf8.size (cs.take k))
          = theme.styleFor token.tokenClass := by
  have hcuts : lx.Cuts none 0 cs (lx.tokenize cs) := Lexer.cuts_tokenize rfl
  have hsize : Utf8.size (cs.take k) < 0 + Utf8.size cs := by
    have hpos := cs[k].utf8Size_pos
    have hcs : Utf8.size cs = Utf8.size (cs.take k ++ cs[k] :: cs.drop (k + 1)) := by
      rw [List.getElem_cons_drop, List.take_append_drop]
    rw [hcs, Utf8.size_append, Utf8.size_cons]
    omega
  obtain ⟨token, htoken, hle, hlt, hunique, hclass⟩ := hcuts.classAt? (Nat.zero_le _) hsize
  refine ⟨token, htoken, ?_, ?_⟩
  · intro u hu
    constructor
    · exact fun hcovers => hunique u hu hcovers.1 hcovers.2
    · rintro rfl
      exact ⟨hle, hlt⟩
  · intro theme
    rw [tokenStyle_eq]
    unfold styleAt
    rw [hclass]
    rfl

theorem drawLine_styled (v : View) (theme : Theme) (language? : Option String) (r : Registry) (width : Nat)
    (line : List Char) (t : Terminal)
    : v.Styled theme language? r width line t where
  shown := v.shown_drawLine theme language? r width line t
  pen := by
    rw [(v.drawLine_eq_styledLine theme _ width line t).2]
    unfold styledLine
    dsimp only
    rw [Terminal.execAll_append, Terminal.execAll_append]
    split
    next => exact Terminal.pen_print _ _
    next => rfl
  anew := v.drawLine_eq_styledLine theme _ width line t
  sequences hline := Terminal.feed_encodeAll (v.allLegible_drawLine theme _ width hline)
  lexer lx htokens k hk := by
    obtain ⟨token, htoken, hcovers, hstyle⟩ := exists_token lx hk
    rw [htokens]
    exact ⟨token, htoken, hcovers, hstyle theme⟩

theorem drawLine_styled_comment
    : ∃ (v : View) (t : Terminal) (cells : List Cell),
        v.options.tabWidth = 4 ∧ t.pen.bold = true
        ∧ (t.strokes (v.drawLine .dark
            (highlight (some Language.Builtin.id) ⟨[Language.Builtin.language]⟩ "#\ta".toList) 6 "#\ta".toList)).map
              (·.cell) = cells
        ∧ cells[2]? = some ⟨' ', Theme.dark.comment.foreground, Theme.dark.background, false, true, false⟩
        ∧ cells[5]? = some ⟨' ', none, Theme.dark.background, false, false, false⟩ := by
  let v : View := ⟨80, 24, {}⟩
  let t : Terminal := { width := 80, height := 24, pen := { bold := true } }
  have hstyled := drawLine_styled v .dark (some Language.Builtin.id) ⟨[Language.Builtin.language]⟩ 6 "#\ta".toList t
  have htokens : Lexer.builtin.tokenize "#\ta".toList = [⟨"#\ta".toList, .comment, 0⟩] :=
    Lexer.tokenize_comment_line Lexer.isName_builtin (by decide)
  have hcell := hstyled.shown.char 1 '\t' 2 rfl (by decide) (by decide) (by decide)
  change _ = some (Cell.mk ' ' ((tokenStyle .dark (some (Lexer.builtin.tokenize "#\ta".toList)) 1).pen _)) at hcell
  rw [htokens] at hcell
  exact ⟨v, t, _, rfl, rfl, rfl, hcell, hstyled.shown.padding 5 (by decide) (by decide)⟩

end View

end Workbench
