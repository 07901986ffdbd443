import Workbench.Proofs.Editor.Joining
import Workbench.Proofs.Screen.Gutter
import Workbench.Proofs.Text.Words

/-!
The length of a line. The caret is bounded by a line without one line feed and then one carriage return at its end;
words are read, and rows are drawn, of a line without all line feeds and carriage returns at its end. A line of a
document has no more of them than one break, so all three have the same characters before them.
-/

namespace Workbench

open Text TerminalCommand

namespace Document

variable {d : Document} {n : Nat} {line : List Char}

theorem contentLength_return {u : List Char} : contentLength (u ++ ['\r']) = u.length := by
  simp [contentLength]

theorem length_content_break {u b : List Char} (hu : Unbroken u) (hb : IsBreak b)
    : (content (u ++ b)).length = contentLength (u ++ b) := by
  cases hb with
  | inl hpair =>
    rw [hpair, contentLength_pair]
    rw [content_append_pair hu]
  | inr hsingle =>
    obtain ⟨c, -, rfl⟩ := hsingle
    by_cases hfeed : c = '\n'
    · rw [hfeed, contentLength_feed hu]
      rw [content_append_feed hu]
    rw [content_append hu]
    by_cases hreturn : c = '\r'
    · rw [hreturn, contentLength_return]
      exact congrArg List.length (List.append_nil u)
    · have hcontent : content [c] = [c] := by
        simp [content, dropTrailing, isFeedOrReturn, hfeed, hreturn]
      rw [contentLength_concat hfeed hreturn, hcontent]
      exact List.length_append

theorem length_content_of_line? (h : d.line? n = some line) : (content line).length = contentLength line := by
  obtain ⟨pre, post, hlines, -⟩ := exists_lines_of_line? h
  obtain ⟨-, hlast⟩ | ⟨-, u, b, rfl, hu, hb⟩ := line_cases hlines
  · rw [content_of_unbroken hlast, contentLength_unbroken hlast]
  · exact length_content_break hu hb

example : contentLength "a\n\n".toList = 2 ∧ (content "a\n\n".toList).length = 1 := by decide

theorem content_eq_take (line : List Char) : content line = line.take (content line).length :=
  List.prefix_iff_eq_take.1 (dropTrailing_isPrefix isFeedOrReturn line)

/-- Whatever measures a line of a document, its break apart, measures the text. -/
structure Measures (d : Document) (n : Nat) (line text : List Char) : Prop where
  line? : d.line? n = some line
  length : d.lineLength? n = some text.length
  take : line.take text.length = text
  caret : ∀ k, d.Holds ⟨n, k⟩ ↔ k ≤ text.length
  words : ∀ k w, d.model.wordAt? ⟨n, k⟩ = some w ∨ d.model.wordUntil? ⟨n, k⟩ = some w → w.LiesIn text
  drawn : ∀ (v : View) theme (e : Editor) r (rect : Rect) row, e.document = d → row + e.scroll = n →
    printedText (v.drawRow theme e r rect d.lines row)
      = v.gutterText n ++ fit (expandTabs v.options.tabWidth 0 text) (rect.width - v.gutterWidth)
  last : ∀ tabWidth, displayCol line text.length tabWidth = (expandTabs tabWidth 0 text).length

theorem measures_content (h : d.line? n = some line) : d.Measures n line (content line) := by
  have hlength : d.lineLength? n = some (content line).length := by
    unfold lineLength?
    rw [h, length_content_of_line? h]
    rfl
  have hmodel : d.model.line? n = some (content line) := by
    unfold model
    dsimp only
    rw [h]
    rfl
  refine ⟨h, hlength, (content_eq_take line).symm, ?_, ?_, ?_, ?_⟩
  · intro k
    unfold Holds
    dsimp only
    rw [hlength]
    simp
  · rintro k w (hw | hw)
    · unfold Model.wordAt? at hw
      dsimp only at hw
      rw [hmodel] at hw
      exact liesIn_of_wordAt? hw
    · unfold Model.wordUntil? at hw
      dsimp only at hw
      rw [hmodel] at hw
      exact liesIn_of_wordUntil? hw
  · intro v theme e r rect row hdocument hrow
    subst hdocument hrow
    exact v.printedText_drawRow theme r rect h
  · intro tabWidth
    rw [displayCol_eq_length, ← content_eq_take]

/--
The lines of a document are its text cut behind each break, and for each of them, and for no other number, there is
a text that the bound of the caret, the words and the screen agree on.
-/
structure LinesMeasured (d : Document) : Prop where
  lines_iff : ∀ ls, CutAtBreaks d.text ls ↔ ls = d.lines
  isSome_iff : ∀ n, (d.model.line? n).isSome ↔ n < d.lineCount
  measures : ∀ n text, d.model.line? n = some text → ∃ line, d.Measures n line text

theorem linesMeasured (d : Document) : d.LinesMeasured where
  lines_iff _ := cutAtBreaks_iff
  isSome_iff n := by simp [model, line?, lineCount]
  measures n text h := by
    obtain ⟨line, hline, rfl⟩ := Option.map_eq_some_iff.1 h
    exact ⟨line, measures_content hline⟩

theorem linesMeasured_mixed
    : ∃ d : Document, d.text = "ab\r\n\tc\x0b\rd".toList ∧ d.lineCount = 4
        ∧ (∃ line, d.Measures 0 line "ab".toList) ∧ (∃ line, d.Measures 1 line "\tc\x0b".toList)
        ∧ (∃ line, d.Measures 2 line []) ∧ ∃ line, d.Measures 3 line "d".toList := by
  let d : Document := { text := "ab\r\n\tc\x0b\rd".toList }
  have h := (linesMeasured d).measures
  exact ⟨d, rfl, by decide, h 0 _ (by decide), h 1 _ (by decide), h 2 _ (by decide), h 3 _ (by decide)⟩

end Document

end Workbench
