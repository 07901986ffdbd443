import Workbench.Proofs.Screen.Gutter
import Workbench.Proofs.Screen.Overlays
import Workbench.Proofs.Screen.Styles

/-!
The column of the hover card. The card begins as many cells right of the gutter as there are characters before its
word, while the word begins where these characters end on the screen: the two columns are the same exactly if
no tab among the characters takes more than one cell and the number of the line fits into the gutter, or if the card is
put in the last column anyway.
-/

namespace Workbench

open Text TerminalCommand

namespace Text

variable {tabWidth k : Nat} {cs : List Char}

def TabsNarrow (tabWidth : Nat) (cs : List Char) (k : Nat) : Prop :=
  ∀ i < k, cs[i]? = some '\t' → (i + 1) % max tabWidth 1 = 0

instance (tabWidth : Nat) (cs : List Char) (k : Nat) : Decidable (TabsNarrow tabWidth cs k) :=
  inferInstanceAs (Decidable (∀ i < k, cs[i]? = some '\t' → (i + 1) % max tabWidth 1 = 0))

theorem tabsNarrow_succ (c : Char) (h : cs[k]? = some c)
    : TabsNarrow tabWidth cs (k + 1) ↔ TabsNarrow tabWidth cs k ∧ (c = '\t' → (k + 1) % max tabWidth 1 = 0) := by
  constructor
  · intro hnarrow
    refine ⟨fun i hi => hnarrow i (Nat.lt_succ_of_lt hi), fun htab => hnarrow k (Nat.lt_succ_self k) ?_⟩
    rw [h, htab]
  · rintro ⟨hnarrow, hlast⟩ i hi htab
    rcases Nat.lt_succ_iff_lt_or_eq.1 hi with hlt | rfl
    · exact hnarrow i hlt htab
    · rw [h] at htab
      exact hlast (Option.some.inj htab)

theorem nextCell_eq_succ_iff (tabWidth x : Nat) (c : Char)
    : nextCell tabWidth x c = x + 1 ↔ (c = '\t' → (x + 1) % max tabWidth 1 = 0) := by
  obtain ⟨m, hm⟩ : ∃ m, max tabWidth 1 = m + 1 := ⟨max tabWidth 1 - 1, by omega⟩
  have hmod := Nat.mod_lt x m.succ_pos
  unfold nextCell
  rw [hm, Nat.succ_mod_succ_eq_zero_iff]
  split
  next htab =>
    have hiff : x + (m + 1 - x % (m + 1)) = x + 1 ↔ x % (m + 1) = m := by omega
    exact hiff.trans ⟨fun hlast _ => hlast, fun hlast => hlast htab⟩
  next htab => exact iff_of_true rfl fun h => absurd h htab

theorem le_displayCol (tabWidth : Nat) (h : k ≤ cs.length) : k ≤ displayCol cs k tabWidth := by
  induction k with
  | zero => exact Nat.zero_le _
  | succ k ih =>
    have hc := List.getElem?_eq_getElem h
    have hlt := lt_nextCell tabWidth (displayCol cs k tabWidth) (cs.get ⟨k, h⟩)
    specialize ih (Nat.le_of_succ_le h)
    rw [displayCol_succ hc]
    exact Nat.succ_le_of_lt (Nat.lt_of_le_of_lt ih hlt)

theorem displayCol_eq_iff (tabWidth : Nat) (h : k ≤ cs.length)
    : displayCol cs k tabWidth = k ↔ TabsNarrow tabWidth cs k := by
  induction k with
  | zero => exact iff_of_true rfl fun i hi => absurd hi (Nat.not_lt_zero i)
  | succ k ih =>
    have hc := List.getElem?_eq_getElem h
    have hle := le_displayCol tabWidth (Nat.le_of_succ_le h)
    have hlt := lt_nextCell tabWidth (displayCol cs k tabWidth) (cs.get ⟨k, h⟩)
    specialize ih (Nat.le_of_succ_le h)
    rw [tabsNarrow_succ _ hc, ← ih, ← nextCell_eq_succ_iff, displayCol_succ hc]
    constructor
    · intro heq
      have hsame : displayCol cs k tabWidth = k := by
        change nextCell tabWidth (displayCol cs k tabWidth) (cs.get ⟨k, h⟩) = k + 1 at heq
        omega
      rw [hsame] at heq
      exact ⟨hsame, heq⟩
    · rintro ⟨hsame, hnext⟩
      rw [hsame]
      exact hnext

end Text

namespace View

variable {v : View} {theme : Theme} {e : Editor} {card : HoverPopup} {rect : Rect} {line : List Char} {c : Char}
variable {k x y : Nat}

def textColumn (v : View) (rect : Rect) (line : List Char) (k : Nat) : Nat :=
  min (rect.x + v.gutterWidth + displayCol line k v.options.tabWidth) (rect.right - 1)

theorem caretCell?_eq_textColumn (h : v.caretCell? e rect = some (some (x, y)))
    : ∃ line, e.document.line? e.caret.line = some line ∧ x = v.textColumn rect line e.caret.column := by
  unfold caretCell? at h
  split at h
  next => cases h
  next =>
    obtain ⟨line, hline, hplace⟩ := Option.map_eq_some_iff.1 h
    cases hplace
    exact ⟨line, hline, rfl⟩

theorem hoverOrigin_column (rect : Rect) (gutter column caretRow rows : Nat)
    : (hoverOrigin rect gutter column caretRow rows).1 = min (rect.x + gutter + column) (rect.right - 1) := by
  -- The sums stop at the greatest coordinate, which is right of every rectangle.
  have hright : rect.right ≤ maxCoordinate := Nat.min_le_right _ _
  unfold hoverOrigin addCoordinates
  dsimp only
  omega

def drawnColumn (v : View) (rect : Rect) (n : Nat) (cs : List Char) (k : Nat) : Nat :=
  min (rect.x + (v.textBefore n cs k).length) (rect.right - 1)

def cardOrigin (v : View) (card : HoverPopup) (caretRow : Nat) : Nat × Nat :=
  hoverOrigin v.layout.editor v.gutterWidth card.anchor.column caretRow (hoverRows card).length

structure CardPlaced (v : View) (theme : Theme) (e : Editor) (card : HoverPopup) (line : List Char) (c : Char)
    (caretRow : Nat) : Prop where
  box : v.drawHover? theme e v.layout.editor
    = some (drawBox theme (hoverRows card) none (v.cardOrigin card caretRow).1 (v.cardOrigin card caretRow).2
        v.layout.editor)
  inside : v.layout.editor.x ≤ (v.cardOrigin card caretRow).1
    ∧ (v.cardOrigin card caretRow).1 < v.layout.editor.right
  column_eq : (v.cardOrigin card caretRow).1
    = min (v.layout.editor.x + v.gutterWidth + card.anchor.column) (v.layout.editor.right - 1)
  /-- The card is in the column in which the first character of its word is drawn. -/
  aligned_iff : (v.cardOrigin card caretRow).1
      = v.drawnColumn v.layout.editor card.anchor.line (content line) card.anchor.column
    ↔ TabsNarrow v.options.tabWidth (content line) card.anchor.column ∧ v.NumberFits card.anchor.line
      ∨ v.layout.editor.right ≤ v.layout.editor.x + v.gutterWidth + card.anchor.column + 1
  column_le : (v.cardOrigin card caretRow).1
    ≤ v.drawnColumn v.layout.editor card.anchor.line (content line) card.anchor.column
  counted_iff : (v.cardOrigin card caretRow).1 = v.textColumn v.layout.editor line card.anchor.column
    ↔ TabsNarrow v.options.tabWidth (content line) card.anchor.column
      ∨ v.layout.editor.right ≤ v.layout.editor.x + v.gutterWidth + card.anchor.column + 1
  caret : e.caret = card.anchor → v.caretCell? e v.layout.editor
    = some (some (v.textColumn v.layout.editor line card.anchor.column, caretRow))
  word : ∀ (r : Registry) (row : Nat), row + e.scroll = card.anchor.line →
    displayCol line card.anchor.column v.options.tabWidth < v.layout.editor.width - v.gutterWidth →
    (v.drawRow theme e r v.layout.editor e.document.lines row).head?
        = some (.moveTo v.layout.editor.x (v.layout.editor.y + row))
      ∧ ∃ after, printedText (v.drawRow theme e r v.layout.editor e.document.lines row)
          = v.textBefore card.anchor.line (content line) card.anchor.column ++ glyph c :: after

end View

end Workbench
