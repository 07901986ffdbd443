import Workbench.Proofs.Screen.Alike
import Workbench.Screen.Frame

/-!
What the parts of a frame make known: each of them draws all the cells of its rectangle, whatever the cells
and the colours were before.
-/

namespace Workbench

namespace View

variable {width height x y : Nat} {known : Region} {pens : Pens} {place? : Option (Nat × Nat)}

theorem leading_style (s : Style) (ground : Color)
    : Leading (Alike width height known place? pens) (s.commands ground)
        (Alike width height known place? (· = ·)) := by
  have hattribute (f : Pen → Pen) {c : TerminalCommand}
      (hc : ∀ t : Terminal, t.exec c = { t with pen := f t.pen }) (chosen : Bool)
      : Leading (Alike width height known place? (· = ·)) (if chosen then [c] else [])
          (Alike width height known place? (· = ·)) := by
    split
    next => exact Alike.pen f hc fun p q hpq => congrArg f hpq
    next => exact .nil fun _ _ h => h
  have hcolors : Leading (Alike width height known place? pens)
      [.resetStyle, .background ground, .foreground s.foreground]
      (Alike width height known place? (· = ·)) := by
    refine .cons Alike.resetStyle (.cons (Alike.background_inked ground) ?_)
    apply Alike.pen (fun p => { p with foreground? := some s.foreground }) (fun _ => rfl)
    rintro p q ⟨rfl, -⟩
    rfl
  unfold Style.commands
  exact ((hcolors.append (hattribute (fun p => { p with bold := true }) (fun _ => rfl) _)).append
    (hattribute (fun p => { p with italic := true }) (fun _ => rfl) _)).append
    (hattribute (fun p => { p with underlined := true }) (fun _ => rfl) _)

def drawing (current : Option Style) : Pens :=
  fun p q => current.isSome → p = q

theorem leading_changeStyle (current : Option Style) (style : Style) (ground : Color)
    : Leading (Alike width height known place? (drawing current))
        (if current = some style then [] else style.commands ground)
        (Alike width height known place? (· = ·)) := by
  split
  next heq =>
    rw [heq]
    exact .nil fun t₁ t₂ => Alike.imp (fun _ _ _ _ h => h) fun p q hpq => hpq rfl
  next => exact leading_style style ground

theorem cells_of_char {tabWidth room n next : Nat} {c : Char} (h : n < room)
    (hnext : (if c = '\t' then min (Text.nextCell tabWidth n c) room else n + 1) = next)
    : n < next ∧ next ≤ room ∧ n + (if c = '\t' then blanks (next - n) else [c]).length = next := by
  have hlt := Text.lt_nextCell tabWidth n c
  by_cases htab : c = '\t'
  · rw [if_pos htab] at hnext
    rw [if_pos htab]
    unfold blanks
    rw [List.length_replicate]
    omega
  · rw [if_neg htab] at hnext
    rw [if_neg htab]
    rw [List.length_singleton]
    omega

theorem leading_drawChars (v : View) (theme : Theme) (classes : HighlightedLine) (room : Nat) (line : List Char)
    (byte n : Nat) (current : Option Style) (hn : n ≤ room)
    : n ≤ (v.drawChars theme classes room byte n current line).2 ∧
        (v.drawChars theme classes room byte n current line).2 ≤ room ∧
        Leading (Alike width height (known.plus (Region.strip x y n)) (some (x + n, y)) (drawing current))
          (v.drawChars theme classes room byte n current line).1
          (Alike width height
            (known.plus (Region.strip x y (v.drawChars theme classes room byte n current line).2))
            (some (x + (v.drawChars theme classes room byte n current line).2, y)) (fun _ _ => True)) := by
  induction line generalizing byte n current with
  | nil =>
    unfold drawChars
    exact ⟨Nat.le_refl n, hn, .nil fun t₁ t₂ => Alike.imp (fun _ _ _ _ h => h) fun _ _ _ => trivial⟩
  | cons c line ih =>
    unfold drawChars
    split
    next hfull =>
      exact ⟨Nat.le_refl n, hn, .nil fun t₁ t₂ => Alike.imp (fun _ _ _ _ h => h) fun _ _ _ => trivial⟩
    next hroom =>
      dsimp only
      generalize hnext : (if c = '\t' then min (Text.nextCell v.options.tabWidth n c) room else n + 1) = next
      obtain ⟨hlt, hle, hlength⟩ := cells_of_char (Nat.lt_of_not_le hroom) hnext
      obtain ⟨hle', hroom', hrest⟩ := ih (byte + c.utf8Size) next (some (styleAt theme classes byte)) hle
      refine ⟨Nat.le_trans (Nat.le_of_lt hlt) hle', hroom', ?_⟩
      have hprint : Leading
          (Alike width height (known.plus (Region.strip x y n)) (some (x + n, y)) (· = ·))
          [.print (if c = '\t' then blanks (next - n) else [c])]
          (Alike width height (known.plus (Region.strip x y next)) (some (x + next, y))
            (drawing (some (styleAt theme classes byte)))) :=
        (Alike.further (fun _ _ hpq => hpq) hlength).weaken fun t₁ t₂ =>
          Alike.imp (fun _ _ _ _ h => h) fun p q hpq _ => hpq
      exact (leading_changeStyle current _ _).append (hprint.cons hrest)

theorem leading_drawLine (v : View) (theme : Theme) (classes : HighlightedLine) (room : Nat) (line : List Char)
    : Leading (Alike width height known (some (x, y)) pens) (v.drawLine theme classes room line)
        (Alike width height (known.plus (Region.strip x y room)) (some (x + room, y)) Pens.inked) := by
  unfold drawLine
  dsimp only
  have hstart : Leading (Alike width height known (some (x, y)) pens) []
      (Alike width height (known.plus (Region.strip x y 0)) (some (x, y)) (drawing none)) := by
    rw [Region.plus_strip_zero]
    exact .nil fun t₁ t₂ => Alike.imp (fun _ _ _ _ h => h) fun p q _ hsome => nomatch hsome
  obtain ⟨-, hroom, hchars⟩ :=
    v.leading_drawChars theme classes room line 0 0 none (Nat.zero_le room)
  generalize v.drawChars theme classes room 0 0 none line = drawn at hroom hchars ⊢
  have hclose : Leading
      (Alike width height (known.plus (Region.strip x y drawn.2)) (some (x + drawn.2, y)) fun _ _ => True)
      [.resetStyle, .background theme.background]
      (Alike width height (known.plus (Region.strip x y drawn.2)) (some (x + drawn.2, y)) Pens.inked) :=
    .cons Alike.resetStyle (Alike.background_inked theme.background)
  have hfill : Leading
      (Alike width height (known.plus (Region.strip x y drawn.2)) (some (x + drawn.2, y)) Pens.inked)
      (if drawn.2 < room then [.print (blanks (room - drawn.2))] else [])
      (Alike width height (known.plus (Region.strip x y room)) (some (x + room, y)) Pens.inked) := by
    split
    next hlt =>
      refine Alike.further (fun _ _ => Pens.eq_of_inked) ?_
      unfold blanks
      rw [List.length_replicate]
      exact Nat.add_sub_of_le hroom
    next hge =>
      have hend : drawn.2 = room := Nat.le_antisymm hroom (Nat.le_of_not_lt hge)
      rw [hend]
      exact .nil fun _ _ h => h
  exact ((hstart.append hchars).append hclose).append hfill

theorem gutterWidth_le (v : View) (n : Nat)
    : v.gutterWidth ≤ (padLeft (Nat.toDigits 10 n) 4 ++ [' ']).length := by
  unfold gutterWidth padLeft blanks
  rw [List.length_append, List.length_append, List.length_replicate, List.length_singleton]
  have hwidth : numbersWidth = 5 := rfl
  split
  next => omega
  next => exact Nat.zero_le _

theorem leading_number (v : View) (color : Color) (n : Nat)
    : ∃ m, v.gutterWidth ≤ m ∧
        Leading (Alike width height known (some (x, y)) Pens.grounded)
          (if 0 < v.gutterWidth then
            [.foreground color, .print (padLeft (Nat.toDigits 10 n) 4 ++ [' '])]
          else [])
          (Alike width height (known.plus (Region.strip x y m)) (some (x + m, y)) Pens.grounded) := by
  -- The number of a line may be wider than its gutter.
  split
  next =>
    refine ⟨_, v.gutterWidth_le n, .cons (Alike.foreground (fun _ _ h => h) color) ?_⟩
    exact (Alike.text (fun _ _ => Pens.eq_of_inked) rfl).weaken fun t₁ t₂ =>
      Alike.imp (fun _ _ _ _ h => h) fun _ _ => Pens.grounded_of_inked
  next hzero =>
    refine ⟨0, Nat.le_of_not_lt hzero, ?_⟩
    rw [Region.plus_strip_zero]
    exact .nil fun _ _ h => h

theorem leading_drawRow (v : View) (theme : Theme) (e : Editor) (r : Registry) (rect : Rect)
    (lines : List (List Char)) (row : Nat)
    : Leading (Alike width height known none Pens.grounded) (v.drawRow theme e r rect lines row)
        (Alike width height (known.plus (Region.strip rect.x (rect.y + row) rect.width)) none
          Pens.grounded) := by
  unfold drawRow
  dsimp only
  refine .cons (Alike.moveTo rect.x (rect.y + row)) ?_
  -- The gutter and the text after it are at least as wide as the pane.
  have hjoin (m : Nat) (hm : v.gutterWidth ≤ m) (t₁ t₂ : Terminal)
      : Alike width height
          ((known.plus (Region.strip rect.x (rect.y + row) m)).plus
            (Region.strip (rect.x + m) (rect.y + row) (rect.width - v.gutterWidth)))
          (some (rect.x + m + (rect.width - v.gutterWidth), rect.y + row)) Pens.inked t₁ t₂ →
        Alike width height (known.plus (Region.strip rect.x (rect.y + row) rect.width)) none
          Pens.grounded t₁ t₂ := by
    refine Alike.mono ?_ fun _ _ => Pens.grounded_of_inked
    intro column row _ _ hin
    unfold Region.strip at hin ⊢
    grind
  split
  next hnone =>
    refine .cons (Alike.foreground (fun _ _ h => h) theme.lineNumber) ?_
    have htilde : Leading (Alike width height known (some (rect.x, rect.y + row)) Pens.inked)
        (if 0 < v.gutterWidth then [.print (Text.fit "   ~".toList v.gutterWidth)] else [])
        (Alike width height (known.plus (Region.strip rect.x (rect.y + row) v.gutterWidth))
          (some (rect.x + v.gutterWidth, rect.y + row)) Pens.inked) := by
      split
      next => exact Alike.text (fun _ _ => Pens.eq_of_inked) (Text.length_fit _ _)
      next hzero =>
        have hgutter : v.gutterWidth = 0 := Nat.eq_zero_of_not_pos hzero
        rw [hgutter]
        rw [Region.plus_strip_zero]
        exact .nil fun _ _ h => h
    exact (htilde.append (Alike.text (fun _ _ => Pens.eq_of_inked) List.length_replicate)).weaken
      (hjoin _ (Nat.le_refl _))
  next line hline =>
    obtain ⟨m, hm, hnumber⟩ := v.leading_number
      (if row + e.scroll = e.caret.line then theme.lineNumberActive else theme.lineNumber)
      (row + e.scroll + 1)
    exact (hnumber.append (v.leading_drawLine theme _ _ _)).weaken (hjoin m hm)

theorem leading_drawEditor (v : View) (theme : Theme) (e : Editor) (r : Registry) (rect : Rect)
    : Leading (Alike width height known none Pens.grounded) (v.drawEditor theme e r rect)
        (Alike width height (known.plus (Region.block rect.x rect.y rect.width rect.height)) none
          Pens.grounded) := by
  unfold drawEditor
  refine .cons (Alike.background (fun _ _ => Pens.plain_of_grounded) theme.background) ?_
  exact Alike.rows fun known row _ => v.leading_drawRow theme e r rect _ row

theorem leading_panelRow {n : Nat} {extra : List TerminalCommand} {text : List Char} (ground ink : Color)
    (hextra : Leading (Alike width height known (some (x, y)) Pens.inked) extra
      (Alike width height known (some (x, y)) Pens.inked))
    (htext : text.length = n)
    : Leading (Alike width height known none Pens.grounded)
        ([.moveTo x y, .background ground, .foreground ink] ++ extra ++ [.print text])
        (Alike width height (known.plus (Region.strip x y n)) none Pens.grounded) := by
  have hpen : Leading (Alike width height known none Pens.grounded)
      [.moveTo x y, .background ground, .foreground ink]
      (Alike width height known (some (x, y)) Pens.inked) :=
    .cons (Alike.moveTo x y) (.cons (Alike.background (fun _ _ => Pens.plain_of_grounded) ground)
      (Alike.foreground (fun _ _ h => h) ink))
  exact ((hpen.append hextra).append (Alike.text (fun _ _ => Pens.eq_of_inked) htext)).weaken fun t₁ t₂ =>
    Alike.mono (fun _ _ _ _ h => h) fun _ _ => Pens.grounded_of_inked

theorem leading_drawSidebar (theme : Theme) (panel : FunctionPanel) (focused : Bool) (rect : Rect)
    : Leading (Alike width height known none Pens.grounded) (drawSidebar theme panel focused rect)
        (Alike width height (known.plus (Region.block rect.x rect.y rect.width rect.height)) none
          Pens.grounded) := by
  have htitle : Leading (Alike width height known none Pens.grounded)
      [.background theme.sidebarBackground, .moveTo rect.x rect.y, .foreground theme.sidebarForeground, .bold,
        .print (Text.fit " Functions".toList rect.width), .resetStyle]
      (Alike width height (known.plus (Region.strip rect.x rect.y rect.width)) none Pens.grounded) := by
    refine .cons (Alike.background (fun _ _ => Pens.plain_of_grounded) _) (.cons (Alike.moveTo _ _) ?_)
    refine .cons (Alike.foreground (fun _ _ h => h) _) (.cons Alike.bold ?_)
    refine .cons (Alike.text (fun _ _ h => h) (Text.length_fit _ _)) (Alike.resetStyle.weaken fun t₁ t₂ => ?_)
    exact Alike.mono (fun _ _ _ _ h => h) fun _ _ => Pens.grounded_of_inked
  unfold drawSidebar
  dsimp only
  refine ((htitle.append (Alike.rows (x := rect.x) (y := rect.y + 1) (m := rect.width) ?_)).append
    (Alike.background (fun _ _ => Pens.plain_of_grounded) _)).weaken ?_
  · intro known k _
    have hrow : rect.y + 1 + k = rect.y + (k + 1) := by
      omega
    have hnone : Leading (Alike width height known (some (rect.x, rect.y + (k + 1))) Pens.inked) []
        (Alike width height known (some (rect.x, rect.y + (k + 1))) Pens.inked) := .nil fun _ _ h => h
    rw [hrow]
    cases panel with
    | loading => exact leading_panelRow _ _ hnone (Text.length_fit _ _)
    | failed =>
      dsimp only
      split
      next =>
        exact leading_panelRow _ _ (Alike.foreground (fun _ _ => Pens.grounded_of_inked) _)
          (Text.length_fit _ _)
      next => exact leading_panelRow _ _ hnone (Text.length_fit _ _)
    | loaded names selected =>
      dsimp only
      cases names[k]? with
      | none => exact leading_panelRow _ _ hnone (Text.length_fit _ _)
      | some name =>
        dsimp only
        refine leading_panelRow _ _ ?_ (Text.length_fit _ _)
        split
        next => exact Alike.background_inked _
        next => exact hnone
  · intro t₁ t₂
    refine Alike.mono ?_ fun _ _ h => h
    intro column row _ _ hin
    exact hin.elim (fun hknown => .inl (.inl hknown)) fun hin => (Region.strip_or_block hin).imp_left .inr

theorem leading_drawSeparator (theme : Theme) (x rows : Nat)
    : Leading (Alike width height known none Pens.grounded) (drawSeparator theme x rows)
        (Alike width height (known.plus (Region.block x 0 1 rows)) none Pens.grounded) := by
  unfold drawSeparator
  have hcolors : Leading (Alike width height known none Pens.grounded)
      [.foreground theme.border, .background theme.background] (Alike width height known none Pens.inked) :=
    .cons (Alike.foreground (fun _ _ h => h) _) (Alike.background_inked _)
  refine (hcolors.append (Alike.rows (x := x) (y := 0) (m := 1) ?_)).weaken fun t₁ t₂ =>
    Alike.imp (fun _ _ _ _ h => h) fun _ _ => Pens.grounded_of_inked
  intro known k _
  rw [Nat.zero_add]
  refine (Leading.cons (Alike.moveTo x k) (Alike.text (fun _ _ => Pens.eq_of_inked) rfl)).weaken fun t₁ t₂ => ?_
  exact Alike.mono (fun _ _ _ _ h => h) fun _ _ h => h

theorem leading_drawOutput (theme : Theme) (panel : OutputPanel) (rect : Rect)
    : Leading (Alike width height known none Pens.grounded) (drawOutput theme panel rect)
        (Alike width height (known.plus (Region.block rect.x rect.y rect.width rect.height)) none
          Pens.grounded) := by
  unfold drawOutput
  split
  next hzero =>
    rw [hzero]
    rw [Region.plus_block_zero]
    exact .nil fun _ _ h => h
  next hrows =>
    dsimp only
    have htitle (text : List Char) (ink : Color) : Leading (Alike width height known none Pens.grounded)
        [.moveTo rect.x rect.y, .background theme.outputBackground, .foreground theme.border,
          .print (Text.fit text rect.width), .foreground ink]
        (Alike width height (known.plus (Region.strip rect.x rect.y rect.width)) none Pens.inked) := by
      refine .cons (Alike.moveTo _ _) (.cons (Alike.background (fun _ _ => Pens.plain_of_grounded) _) ?_)
      refine .cons (Alike.foreground (fun _ _ h => h) _) ?_
      refine .cons (Alike.text (fun _ _ => Pens.eq_of_inked) (Text.length_fit _ _)) ?_
      refine (Alike.foreground (fun _ _ => Pens.grounded_of_inked) ink).weaken fun t₁ t₂ => ?_
      exact Alike.mono (fun _ _ _ _ h => h) fun _ _ h => h
    refine (((htitle _ _).append (Alike.rows (x := rect.x) (y := rect.y + 1) (m := rect.width) ?_)).append
      (Alike.background_inked _)).weaken ?_
    · intro known k _
      have hrow : rect.y + 1 + k = rect.y + (k + 1) := by
        omega
      rw [hrow]
      refine (Leading.cons (Alike.moveTo _ _)
        (Alike.text (fun _ _ => Pens.eq_of_inked) (Text.length_fit _ _))).weaken fun t₁ t₂ => ?_
      exact Alike.mono (fun _ _ _ _ h => h) fun _ _ h => h
    · intro t₁ t₂
      refine Alike.mono ?_ fun _ _ => Pens.grounded_of_inked
      intro column row _ _ hin
      exact hin.elim (fun hknown => .inl (.inl hknown)) fun hin => (Region.strip_or_block hin).imp_left .inr

theorem leading_drawStatus (v : View) (theme : Theme) (s : Shell) (row : Nat)
    : Leading (Alike v.width height known none Pens.grounded) (v.drawStatus theme s row)
        (Alike v.width height (known.plus fun _ y => y = row) none Pens.grounded) := by
  unfold drawStatus
  refine .cons (Alike.moveTo 0 row) ?_
  split
  next =>
    refine .cons (Alike.background (fun _ _ => Pens.plain_of_grounded) _) ?_
    refine .cons (Alike.foreground (fun _ _ h => h) _) ?_
    refine .cons (Alike.clearLine fun p q h => congrArg Pen.background? h.1) ?_
    refine (Alike.print (fun _ _ => Pens.eq_of_inked) _).weaken fun t₁ t₂ => ?_
    exact Alike.mono (fun _ _ _ _ h => .inl h) fun _ _ => Pens.grounded_of_inked
  next =>
    dsimp only
    refine .cons (Alike.background (fun _ _ => Pens.plain_of_grounded) _) ?_
    refine .cons (Alike.foreground (fun _ _ h => h) _) ?_
    refine .cons (Alike.text (fun _ _ => Pens.eq_of_inked) (Text.length_fit _ _)) ?_
    refine (Alike.background_inked _).weaken fun t₁ t₂ => Alike.mono ?_ fun _ _ => Pens.grounded_of_inked
    intro column y hcolumn _ hin
    unfold Region.strip
    exact hin.imp_right fun hrow => ⟨hrow, Nat.zero_le column, by omega⟩

end View

end Workbench
