import Workbench.Input.Handle
import Workbench.Proofs.Editor.Places

/-!
The caret in texts whose lines end in line feeds alone: no key takes it out of the text, and what is
listed for the word before it keeps to its line.
-/

namespace Workbench

open Text

def Registry.SuggestsLines (r : Registry) : Prop :=
  ∀ id m p, ∀ item ∈ r.completions id m p, Unbroken item.insertText.toList

/-- What the list would put in keeps to the caret's line, and so does what it would take out. -/
structure CompletionPopup.Fits (popup : CompletionPopup) (d : Document) (caret : Position) : Prop where
  typed : ∀ w, popup.typed? = some w → w.start ≤ w.stop ∧ d.Holds ⟨caret.line, w.stop⟩
  items : ∀ item ∈ popup.items, Unbroken item.insertText.toList

theorem CompletionPopup.Fits.congr {popup : CompletionPopup} {d d' : Document} {p q : Position}
    (h : popup.Fits d p) (htext : d'.text = d.text) (hline : q.line = p.line)
    : popup.Fits d' q where
  typed := by
    intro w hw
    have hfits := h.typed w hw
    rw [hline]
    exact ⟨hfits.1, Document.holds_congr htext hfits.2⟩
  items := h.items

namespace Editor

structure Placed (e : Editor) : Prop where
  feeds : FeedsOnly e.document.text
  caret : e.document.Holds e.caret

structure Quiet (e : Editor) : Prop extends e.Placed where
  unlisted : e.completion? = none

structure Sound (e : Editor) : Prop extends e.Placed where
  listed : ∀ popup, e.completion? = some popup → e.mode = .insert ∧ popup.Fits e.document e.caret

theorem Quiet.sound {e : Editor} (h : e.Quiet) : e.Sound where
  toPlaced := h.toPlaced
  listed := by
    intro popup hp
    rw [h.unlisted] at hp
    contradiction

theorem Sound.quiet {e : Editor} (h : e.Sound) (hmode : e.mode ≠ .insert) : e.Quiet where
  toPlaced := h.toPlaced
  unlisted := by
    cases hp : e.completion? with
    | none => rfl
    | some popup => exact absurd (h.listed popup hp).1 hmode

theorem clampColumn?_eq {e : Editor} (h : e.caret.line < e.document.lineCount)
    : ∃ n, e.clampColumn? = some { e with caret := e.caret.clamp n }
        ∧ e.document.Holds (e.caret.clamp n) := by
  obtain ⟨n, hn⟩ := Document.exists_lineLength h
  refine ⟨n, ?_, Document.holds_clamp hn⟩
  unfold clampColumn? Editor.caretLineLength?
  rw [hn]
  rfl

section Motions

variable {e : Editor}

theorem holds_left {d : Document} {p : Position} (h : d.Holds p) : d.Holds p.left := by
  obtain ⟨n, hn, hle⟩ := h
  refine ⟨n, hn, ?_⟩
  unfold Position.left
  dsimp only
  omega

theorem holds_zero {d : Document} {n : Nat} (h : n < d.lineCount) : d.Holds ⟨n, 0⟩ := by
  obtain ⟨k, hk⟩ := Document.exists_lineLength h
  exact ⟨k, hk, Nat.zero_le _⟩

theorem quiet_moveLeft (h : e.Quiet) : e.moveLeft.Quiet where
  feeds := h.feeds
  caret := holds_left h.caret
  unlisted := h.unlisted

theorem moveRight?_eq (h : e.Placed)
    : ∃ n, e.moveRight? = some (closeHover { e with caret := e.caret.right n })
        ∧ e.document.Holds (e.caret.right n) := by
  obtain ⟨n, hn, -⟩ := h.caret
  refine ⟨n, ?_, n, hn, Nat.min_le_right _ _⟩
  unfold moveRight? caretLineLength?
  rw [hn]
  rfl

theorem quiet_moveRight? (h : e.Quiet) : ∃ e', e.moveRight? = some e' ∧ e'.Quiet := by
  obtain ⟨n, heq, hholds⟩ := moveRight?_eq h.toPlaced
  exact ⟨_, heq, ⟨h.feeds, hholds⟩, h.unlisted⟩

theorem sound_moveLeft (h : e.Sound) : e.moveLeft.Sound where
  feeds := h.feeds
  caret := holds_left h.caret
  listed := by
    intro popup hp
    have hlisted := h.listed popup hp
    exact ⟨hlisted.1, hlisted.2.congr rfl rfl⟩

theorem sound_moveRight? (h : e.Sound) : ∃ e', e.moveRight? = some e' ∧ e'.Sound := by
  obtain ⟨n, heq, hholds⟩ := moveRight?_eq h.toPlaced
  refine ⟨_, heq, ⟨h.feeds, hholds⟩, ?_⟩
  intro popup hp
  have hlisted := h.listed popup hp
  exact ⟨hlisted.1, hlisted.2.congr rfl rfl⟩

theorem quiet_clampColumn? (h : e.Quiet) (p : Position) (hp : p.line < e.document.lineCount)
    : ∃ e', { e with caret := p }.clampColumn? = some e' ∧ e'.Quiet := by
  obtain ⟨n, heq, hholds⟩ := clampColumn?_eq (e := { e with caret := p }) hp
  exact ⟨_, heq, ⟨h.feeds, hholds⟩, h.unlisted⟩

theorem quiet_closeHover (h : e.Quiet) : e.closeHover.Quiet where
  feeds := h.feeds
  caret := h.caret
  unlisted := h.unlisted

theorem quiet_closePopups (h : e.Placed) : e.closePopups.Quiet where
  feeds := h.feeds
  caret := h.caret
  unlisted := rfl

theorem quiet_moveUp? (h : e.Quiet) : ∃ e', e.moveUp? = some e' ∧ e'.Quiet := by
  have hlt := Document.holds_line_lt h.caret
  obtain ⟨e', heq, hq⟩ := quiet_clampColumn? h e.caret.up (by unfold Position.up; dsimp only; omega)
  refine ⟨e'.closeHover, ?_, quiet_closeHover hq⟩
  unfold moveUp?
  rw [heq]
  rfl

theorem quiet_moveDown? (h : e.Quiet) : ∃ e', e.moveDown? = some e' ∧ e'.Quiet := by
  have hlt := Document.holds_line_lt h.caret
  obtain ⟨e', heq, hq⟩ := quiet_clampColumn? h (e.caret.down e.document.lineCount)
    (by unfold Position.down; dsimp only; omega)
  refine ⟨e'.closeHover, ?_, quiet_closeHover hq⟩
  unfold moveDown?
  rw [heq]
  rfl

theorem quiet_moveToLineStart (h : e.Quiet) : e.moveToLineStart.Quiet where
  feeds := h.feeds
  caret := holds_zero (Document.holds_line_lt h.caret)
  unlisted := h.unlisted

theorem quiet_moveToLineEnd? (h : e.Quiet) : ∃ e', e.moveToLineEnd? = some e' ∧ e'.Quiet := by
  obtain ⟨n, hn, -⟩ := h.caret
  refine ⟨{ e with caret := { e.caret with column := n } }, ?_, ?_⟩
  · unfold moveToLineEnd? caretLineLength?
    rw [hn]
    rfl
  · exact ⟨⟨h.feeds, n, hn, Nat.le_refl n⟩, h.unlisted⟩

theorem quiet_moveToFirstLine? (h : e.Quiet) : ∃ e', e.moveToFirstLine? = some e' ∧ e'.Quiet := by
  exact quiet_clampColumn? h _ e.document.lineCount_pos

theorem quiet_moveToLastLine? (h : e.Quiet) : ∃ e', e.moveToLastLine? = some e' ∧ e'.Quiet := by
  exact quiet_clampColumn? h _ e.document.lastLine_lt

theorem quiet_enterInsertMode (h : e.Quiet) : e.enterInsertMode.Quiet where
  feeds := h.feeds
  caret := h.caret
  unlisted := h.unlisted

theorem quiet_enterCommandMode (h : e.Placed) : e.enterCommandMode.Quiet where
  feeds := h.feeds
  caret := h.caret
  unlisted := rfl

theorem quiet_enterNormalMode? (h : e.Placed) : ∃ e', e.enterNormalMode? = some e' ∧ e'.Quiet := by
  have hlt := Document.holds_line_lt h.caret
  obtain ⟨n, heq, hholds⟩ := clampColumn?_eq (e := { e with mode := .normal, commandLine := [] }) hlt
  refine ⟨closePopups { e with mode := .normal, commandLine := [], caret := e.caret.clamp n }, ?_, ?_⟩
  · unfold enterNormalMode?
    rw [heq]
    rfl
  · exact quiet_closePopups ⟨h.feeds, hholds⟩

theorem quiet_showHover (h : e.Placed) (r : Registry) : (e.showHover r).Quiet where
  feeds := h.feeds
  caret := h.caret
  unlisted := rfl

end Motions

section Edits

variable {e : Editor}

theorem placed_of_splits {before after : List Char} (hb : FeedsOnly before) (ha : FeedsOnly after)
    (h : e.document.Splits e.caret before after)
    : e.Placed := by
  have hfeeds : FeedsOnly e.document.text := by
    rw [h.1]
    exact feedsOnly_append.2 ⟨hb, ha⟩
  exact ⟨hfeeds, h.holds hfeeds⟩

theorem Placed.splits (h : e.Placed)
    : ∃ before after, e.document.Splits e.caret before after ∧ FeedsOnly before
        ∧ FeedsOnly after := by
  obtain ⟨before, after, hs⟩ := h.caret.splits h.feeds
  have hfeeds := h.feeds
  rw [hs.1, feedsOnly_append] at hfeeds
  exact ⟨before, after, hs, hfeeds.1, hfeeds.2⟩

theorem placed_insertChar? {c : Char} (h : e.Placed) (hc : isLineBreak c = false)
    : ∃ e', e.insertChar? c = some e' ∧ e'.Placed ∧ e'.completion? = e.completion?
        ∧ e'.mode = e.mode := by
  obtain ⟨before, after, hs, hb, ha⟩ := h.splits
  have hc' : Unbroken [c] := unbroken_cons.2 ⟨hc, unbroken_nil⟩
  have hinsert := hs.insert? (not_fuses_of_feedsOnly hb) [c]
  refine ⟨{ e with
    document := { e.document with text := before ++ [c] ++ after, dirty := true }
    caret := { e.caret with column := e.caret.column + 1 } }, ?_, ?_, rfl, rfl⟩
  · unfold insertChar?
    rw [hinsert]
    rfl
  · apply placed_of_splits _ ha
    · exact hs.extend hc' rfl
    · exact feedsOnly_append.2 ⟨hb, feedsOnly_of_unbroken hc'⟩

theorem quiet_insertNewline? (h : e.Quiet) : ∃ e', e.insertNewline? = some e' ∧ e'.Quiet := by
  obtain ⟨before, after, hs, hb, ha⟩ := h.splits
  have hinsert := hs.insert? (not_fuses_of_feedsOnly hb) ['\n']
  refine ⟨{ e with
    document := { e.document with text := before ++ ['\n'] ++ after, dirty := true }
    caret := ⟨e.caret.line + 1, 0⟩ }, ?_, ?_, h.unlisted⟩
  · unfold insertNewline?
    rw [hinsert]
    rfl
  · obtain ⟨-, ls, u, hlines, hline, hcol⟩ := hs
    have hafter : lines (before ++ ['\n']) = ls ++ (u ++ ['\n']) :: lines [] := by
      apply lines_append_break hlines (by decide)
      · exact not_fuses_of_feedsOnly hb
      · simp [Fuses]
    apply placed_of_splits _ ha
    · refine ⟨rfl, ls ++ [u ++ ['\n']], [], ?_, ?_, rfl⟩
      · rw [hafter]
        simp [lines]
      · simp [hline]
    · rw [feedsOnly_append]
      exact ⟨hb, by simp [FeedsOnly]⟩

theorem deleteBackward?_inside {before after : List Char} {c : Char}
    (hs : e.document.Splits e.caret (before ++ [c]) after) (hf : ¬ Fuses (before ++ [c]) after)
    (hcol : 0 < e.caret.column)
    : e.deleteBackward? = some { e with
        document := { e.document with text := before ++ after, dirty := true }
        caret := e.caret.left } := by
  unfold deleteBackward?
  rw [if_pos hcol]
  rw [hs.deleteBefore? hf]
  rfl

theorem deleteBackward?_start {before after : List Char} {c : Char} {n : Nat}
    (hs : e.document.Splits e.caret (before ++ [c]) after) (hf : ¬ Fuses (before ++ [c]) after)
    (hcol : e.caret.column = 0) (hline : 0 < e.caret.line)
    (hn : e.document.lineLength? (e.caret.line - 1) = some n)
    : e.deleteBackward? = some { e with
        document := { e.document with text := before ++ after, dirty := true }
        caret := ⟨e.caret.line - 1, n⟩ } := by
  have hdelete := hs.deleteBefore? hf
  rw [hcol] at hdelete
  unfold deleteBackward?
  rw [if_neg (by omega), if_pos hline]
  rw [hn]
  rw [hdelete]
  rfl

theorem placed_deleteBackward?_inside (h : e.Placed) (hcol : 0 < e.caret.column)
    : ∃ e', e.deleteBackward? = some e' ∧ e'.Placed ∧ e'.completion? = e.completion?
        ∧ e'.mode = e.mode := by
  -- inside a line the character before the caret is no break
  obtain ⟨before, after, hs, hb, ha⟩ := h.splits
  obtain ⟨pre, mid, rfl, hmid, hleft⟩ := hs.left (Nat.sub_le e.caret.column 1)
  obtain ⟨c, rfl⟩ := List.length_eq_one_iff.1 (show mid.length = 1 by omega)
  refine ⟨_, deleteBackward?_inside hs (not_fuses_of_feedsOnly hb) hcol, ?_, rfl, rfl⟩
  apply placed_of_splits (feedsOnly_append.1 hb).1 ha
  exact ⟨rfl, hleft.2⟩

theorem placed_deleteBackward?_start (h : e.Placed) (hcol : e.caret.column = 0)
    (hline : 0 < e.caret.line)
    : ∃ e', e.deleteBackward? = some e' ∧ e'.Placed ∧ e'.completion? = e.completion?
        ∧ e'.mode = e.mode := by
  -- at the start of a line a line feed goes, and the caret still stands between the same parts
  obtain ⟨before, after, hs, hb, ha⟩ := h.splits
  obtain ⟨ls, u, w, rest, hbefore, -, -, hlines, hlen, hu⟩ := hs.lines_eq (not_fuses_of_feedsOnly hb)
  have hnil : u = [] := List.eq_nil_of_length_eq_zero (by omega)
  have hne : ls ≠ [] := by
    rintro rfl
    rw [hlen] at hline
    exact absurd hline (Nat.lt_irrefl 0)
  obtain ⟨ls, l, rfl⟩ : ∃ ls' l, ls = ls' ++ [l] :=
    ⟨_, _, (List.dropLast_concat_getLast hne).symm⟩
  rw [hnil] at hbefore hlines
  rw [List.append_assoc, List.singleton_append] at hbefore hlines
  obtain hlast | ⟨-, x, rfl, hx⟩ := line_cases_of_feedsOnly hb hbefore
  · simp at hlast
  have hflat : before = ls.flatten ++ x ++ ['\n'] := by
    rw [← flatten_lines before]
    rw [hbefore]
    simp
  have hpred : e.caret.line - 1 = ls.length := by
    rw [hlen]
    simp
  have hlength : e.document.lineLength? (e.caret.line - 1) = some x.length := by
    rw [hpred]
    rw [Document.lineLength?_of_lines hlines]
    rw [Document.contentLength_feed hx]
  have hdelete := deleteBackward?_start (hflat ▸ hs) (not_fuses_of_feedsOnly (hflat ▸ hb)) hcol hline
    hlength
  refine ⟨_, hdelete, ?_, rfl, rfl⟩
  rw [hflat, feedsOnly_append] at hb
  apply placed_of_splits hb.1 ha
  exact ⟨rfl, ls, x, lines_prefix hbefore hx, hpred, rfl⟩

theorem placed_deleteBackward? (h : e.Placed)
    : ∃ e', e.deleteBackward? = some e' ∧ e'.Placed ∧ e'.completion? = e.completion?
        ∧ e'.mode = e.mode := by
  by_cases hcol : 0 < e.caret.column
  · exact placed_deleteBackward?_inside h hcol
  · by_cases hline : 0 < e.caret.line
    · exact placed_deleteBackward?_start h (by omega) hline
    · refine ⟨e, ?_, h, rfl, rfl⟩
      unfold deleteBackward?
      rw [if_neg hcol, if_neg hline]

theorem quiet_appendText {cs : List Char} (h : e.Placed) (hcs : FeedsOnly cs)
    : (e.appendText cs).Quiet where
  feeds := feedsOnly_append.2 ⟨h.feeds, hcs⟩
  caret := ⟨_, (e.document.append cs).lineLength?_lastLine, Nat.le_refl _⟩
  unlisted := rfl

theorem quiet_setDocument {text : List Char} (htext : FeedsOnly text) (path? : Option Path)
    (language? : Option String)
    : (e.setDocument text path? language?).Quiet where
  feeds := htext
  caret := holds_zero (Document.lineCount_pos _)
  unlisted := rfl

theorem sound_markSaved (h : e.Sound) (path : Path) (language? : Option String)
    : (e.markSaved path language?).Sound where
  feeds := h.feeds
  caret := Document.holds_congr rfl h.caret
  listed := by
    intro popup hp
    have hlisted := h.listed popup hp
    exact ⟨hlisted.1, hlisted.2.congr rfl rfl⟩

end Edits

section Completions

variable {e : Editor}

theorem wordUntil?_bounds {m : Model} {q : Position} {w : Word} (h : m.wordUntil? q = some w)
    : w.start ≤ w.stop ∧ w.stop ≤ q.column := by
  unfold Model.wordUntil? at h
  obtain ⟨line, -, h⟩ := Option.bind_eq_some_iff.1 h
  unfold Text.wordUntil? at h
  obtain ⟨word, -, h⟩ := Option.bind_eq_some_iff.1 h
  dsimp only at h
  split at h
  · next hlt =>
    cases h
    exact ⟨Nat.le_of_lt hlt, Nat.min_le_left _ _⟩
  · contradiction

theorem filtered?_eq_some {items : List CompletionItem} {typed? : Option Word} {anchor : Position}
    {popup : CompletionPopup} (h : CompletionPopup.filtered? items typed? anchor = some popup)
    : popup.typed? = typed? ∧ ∀ item ∈ popup.items, item ∈ items := by
  unfold CompletionPopup.filtered? at h
  split at h
  · dsimp only at h
    split at h
    · contradiction
    · cases h
      exact ⟨rfl, fun item hitem => (List.mem_filter.1 hitem).1⟩
  · dsimp only at h
    split at h
    · contradiction
    · cases h
      exact ⟨rfl, fun item hitem => hitem⟩

theorem sound_triggerCompletion {r : Registry} (hr : r.SuggestsLines) (h : e.Placed)
    (hmode : e.mode = .insert)
    : (e.triggerCompletion r).Sound where
  feeds := h.feeds
  caret := h.caret
  listed := by
    intro popup hp
    obtain ⟨language, -, hp⟩ := Option.bind_eq_some_iff.1 hp
    obtain ⟨htyped, hitems⟩ := filtered?_eq_some hp
    refine ⟨hmode, ?_, fun item hitem => hr _ _ _ item (hitems item hitem)⟩
    intro w hw
    rw [htyped] at hw
    have hbounds := wordUntil?_bounds hw
    refine ⟨hbounds.1, ?_⟩
    obtain ⟨n, hn, hle⟩ := h.caret
    exact ⟨n, hn, Nat.le_trans hbounds.2 hle⟩

theorem sound_refreshCompletion {r : Registry} (hr : r.SuggestsLines) (h : e.Placed)
    (hmode : e.mode = .insert)
    : (e.refreshCompletion r).Sound := by
  unfold refreshCompletion
  split
  · exact sound_triggerCompletion hr h hmode
  · next hnone =>
    apply Quiet.sound
    exact ⟨h, by simpa using hnone⟩

theorem exists_replace {d : Document} {p : Position} {cs : List Char} {start stop : Nat}
    (hd : FeedsOnly d.text) (hle : start ≤ stop) (hp : d.Holds ⟨p.line, stop⟩) (hcs : Unbroken cs)
    : ∃ d' d'', d.deleteRange? p.line start stop = some d' ∧ d'.insert? p.line start cs = some d''
        ∧ FeedsOnly d''.text ∧ d''.Holds ⟨p.line, start + cs.length⟩ := by
  obtain ⟨before, after, hs⟩ := hp.splits hd
  obtain ⟨pre, mid, rfl, hmid, hleft⟩ := hs.left hle
  have hfeeds := hd
  rw [hs.1, feedsOnly_append, feedsOnly_append] at hfeeds
  have hpre := hfeeds.1.1
  obtain ⟨d', hdelete, htext⟩ := hleft.deleteRange? (not_fuses_of_feedsOnly hpre) hmid
  have hd' : FeedsOnly d'.text := by
    rw [htext, feedsOnly_append]
    exact ⟨hpre, hfeeds.2⟩
  have hcut : d'.Splits ⟨p.line, start⟩ pre after := ⟨htext, hleft.2⟩
  have hextend : Document.Splits { d' with text := pre ++ cs ++ after, dirty := true }
      ⟨p.line, start + cs.length⟩ (pre ++ cs) after := hcut.extend hcs rfl
  have hd'' : FeedsOnly (pre ++ cs ++ after) := by
    rw [feedsOnly_append, feedsOnly_append]
    exact ⟨⟨hpre, feedsOnly_of_unbroken hcs⟩, hfeeds.2⟩
  exact ⟨d', _, hdelete, hcut.insert? (not_fuses_of_feedsOnly hpre) cs, hd'', hextend.holds hd''⟩

theorem quiet_acceptCompletion? (h : e.Sound) : ∃ e', e.acceptCompletion? = some e' ∧ e'.Quiet := by
  unfold acceptCompletion?
  split
  · next hnone => exact ⟨e, rfl, h.toPlaced, hnone⟩
  · next popup hp =>
    have hfits := (h.listed popup hp).2
    dsimp only
    split
    · exact ⟨_, rfl, ⟨h.feeds, h.caret⟩, rfl⟩
    · next item hitem =>
      have hcs := hfits.items item (List.mem_of_getElem? hitem)
      split
      · have hcaret : e.document.Holds ⟨e.caret.line, e.caret.column⟩ := h.caret
        obtain ⟨d', d'', hdelete, hinsert, hfeeds, hholds⟩ :=
          exists_replace h.feeds (Nat.le_refl _) hcaret hcs
        have hsame : e.document = d' := by
          unfold Document.deleteRange? at hdelete
          rw [if_pos (Nat.le_refl _)] at hdelete
          exact Option.some.inj hdelete
        rw [hsame, hinsert]
        exact ⟨_, rfl, ⟨hfeeds, hholds⟩, rfl⟩
      · next w hw =>
        have htyped := hfits.typed w hw
        obtain ⟨d', d'', hdelete, hinsert, hfeeds, hholds⟩ :=
          exists_replace h.feeds htyped.1 htyped.2 hcs
        rw [hdelete]
        dsimp only [Option.bind_some]
        rw [hinsert]
        exact ⟨_, rfl, ⟨hfeeds, hholds⟩, rfl⟩

end Completions

section Keys

variable {e : Editor} {r : Registry} {key : Key}

theorem exists_sound {o : Option Editor} (h : ∃ e', o = some e' ∧ e'.Quiet)
    : ∃ e', o = some e' ∧ e'.Sound := by
  obtain ⟨e', heq, hq⟩ := h
  exact ⟨e', heq, hq.sound⟩

theorem quiet_appendAtLineEnd? (h : e.Quiet) : ∃ e', e.appendAtLineEnd? = some e' ∧ e'.Quiet := by
  obtain ⟨e', heq, hq⟩ := quiet_moveToLineEnd? h
  refine ⟨e'.enterInsertMode, ?_, quiet_enterInsertMode hq⟩
  unfold appendAtLineEnd?
  rw [heq]
  rfl

theorem quiet_openLineBelow? (h : e.Quiet) : ∃ e', e.openLineBelow? = some e' ∧ e'.Quiet := by
  obtain ⟨e₁, heq₁, hq₁⟩ := quiet_moveToLineEnd? h
  obtain ⟨e₂, heq₂, hq₂⟩ := quiet_insertNewline? hq₁
  refine ⟨e₂.enterInsertMode, ?_, quiet_enterInsertMode hq₂⟩
  unfold openLineBelow?
  rw [heq₁, Option.bind_some]
  rw [heq₂]
  rfl

theorem quiet_normalKey? (r : Registry) (key : Key) (h : e.Quiet)
    : ∃ e', e.normalKey? r key = some e' ∧ e'.Quiet := by
  unfold normalKey?
  split
  · exact ⟨_, rfl, quiet_closePopups h.toPlaced⟩
  · exact ⟨_, rfl, quiet_moveLeft h⟩
  · exact ⟨_, rfl, quiet_moveLeft h⟩
  · exact quiet_moveDown? h
  · exact quiet_moveDown? h
  · exact quiet_moveUp? h
  · exact quiet_moveUp? h
  · exact quiet_moveRight? h
  · exact quiet_moveRight? h
  · exact ⟨_, rfl, quiet_moveToLineStart h⟩
  · exact ⟨_, rfl, quiet_moveToLineStart h⟩
  · exact quiet_moveToLineEnd? h
  · exact quiet_moveToLineEnd? h
  · exact quiet_moveToFirstLine? h
  · exact quiet_moveToLastLine? h
  · exact ⟨_, rfl, quiet_enterInsertMode h⟩
  · exact quiet_appendAtLineEnd? h
  · exact quiet_openLineBelow? h
  · exact ⟨_, rfl, quiet_showHover h.toPlaced r⟩
  · exact ⟨_, rfl, quiet_enterCommandMode h.toPlaced⟩
  · exact ⟨e, rfl, h⟩

theorem sound_typingKey? (hr : r.SuggestsLines) (h : e.Sound) (hmode : e.mode = .insert)
    (hkey : ∀ c, key.code = .char c → isLineBreak c = false)
    (hquiet : key.code = .enter ∨ key.code = .up ∨ key.code = .down → e.completion? = none)
    : ∃ e', e.typingKey? r key = some e' ∧ e'.Sound := by
  unfold typingKey?
  generalize key.code = code at hkey hquiet ⊢
  cases code with
  | esc => exact exists_sound (quiet_enterNormalMode? h.toPlaced)
  | tab => exact ⟨_, rfl, sound_triggerCompletion hr h.toPlaced hmode⟩
  | char c =>
    dsimp only
    split
    · exact ⟨_, rfl, sound_triggerCompletion hr h.toPlaced hmode⟩
    · obtain ⟨e', heq, hplaced, -, hmode'⟩ := placed_insertChar? h.toPlaced (hkey c rfl)
      rw [heq]
      exact ⟨_, rfl, sound_refreshCompletion hr hplaced (hmode'.trans hmode)⟩
  | backspace =>
    obtain ⟨e', heq, hplaced, -, hmode'⟩ := placed_deleteBackward? h.toPlaced
    dsimp only
    rw [heq]
    exact ⟨_, rfl, sound_refreshCompletion hr hplaced (hmode'.trans hmode)⟩
  | enter => exact exists_sound (quiet_insertNewline? ⟨h.toPlaced, hquiet (.inl rfl)⟩)
  | left => exact ⟨_, rfl, sound_moveLeft h⟩
  | right => exact sound_moveRight? h
  | up => exact exists_sound (quiet_moveUp? ⟨h.toPlaced, hquiet (.inr (.inl rfl))⟩)
  | down => exact exists_sound (quiet_moveDown? ⟨h.toPlaced, hquiet (.inr (.inr rfl))⟩)
  | backTab | home | endKey | delete | insert | pageUp | pageDown | function n => exact ⟨e, rfl, h⟩

theorem sound_select {popup popup' : CompletionPopup} (h : e.Sound) (hp : e.completion? = some popup)
    (hitems : popup'.items = popup.items) (htyped : popup'.typed? = popup.typed?)
    : { e with completion? := some popup' }.Sound where
  feeds := h.feeds
  caret := h.caret
  listed := by
    intro other hother
    cases hother
    have hlisted := h.listed popup hp
    refine ⟨hlisted.1, ?_, ?_⟩
    · rw [htyped]
      exact hlisted.2.typed
    · rw [hitems]
      exact hlisted.2.items

theorem sound_insertKey? (hr : r.SuggestsLines) (h : e.Sound) (hmode : e.mode = .insert)
    (hkey : ∀ c, key.code = .char c → isLineBreak c = false)
    : ∃ e', e.insertKey? r key = some e' ∧ e'.Sound := by
  unfold insertKey?
  split
  · next popup hp hcode => exact ⟨_, rfl, sound_select h hp rfl rfl⟩
  · next popup hp hcode => exact ⟨_, rfl, sound_select h hp rfl rfl⟩
  · exact exists_sound (quiet_acceptCompletion? h)
  · exact exists_sound (quiet_acceptCompletion? h)
  · refine ⟨_, rfl, Quiet.sound ⟨⟨h.feeds, h.caret⟩, rfl⟩⟩
  · next hup hdown henter htab hesc =>
    apply sound_typingKey? hr h hmode hkey
    intro hcode
    cases hp : e.completion? with
    | none => rfl
    | some popup =>
      cases hcode with
      | inl hcode => exact absurd hcode (henter popup hp)
      | inr hcode =>
        cases hcode with
        | inl hcode => exact absurd hcode (hup popup hp)
        | inr hcode => exact absurd hcode (hdown popup hp)

end Keys

end Editor
end Workbench
