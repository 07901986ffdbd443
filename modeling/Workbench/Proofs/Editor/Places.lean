import Workbench.Editor.Caret
import Workbench.Editor.Document
import Workbench.Proofs.Text.Lines

/-!
Places of a document. In a text whose lines end in line feeds alone, the places that a caret may stand at
are the cuts of the text into two parts, and an edit at such a place changes the text at the cut.
-/

namespace Workbench
namespace Document

open Text

def Holds (d : Document) (p : Position) : Prop :=
  ∃ n, d.lineLength? p.line = some n ∧ p.column ≤ n

def Splits (d : Document) (p : Position) (before after : List Char) : Prop :=
  d.text = before ++ after
    ∧ ∃ ls u, Text.lines before = ls ++ [u] ∧ p.line = ls.length ∧ p.column = u.length

theorem contentLength_unbroken {u : List Char} (h : Unbroken u) : contentLength u = u.length := by
  have hlf : u.getLast? ≠ some '\n' := fun hl => by
    have := h _ (List.mem_of_getLast? hl)
    contradiction
  have hcr : u.getLast? ≠ some '\r' := fun hl => by
    have := h _ (List.mem_of_getLast? hl)
    contradiction
  simp [contentLength, hlf, hcr]

theorem contentLength_feed {u : List Char} (h : Unbroken u)
    : contentLength (u ++ ['\n']) = u.length := by
  have hcr : u.getLast? ≠ some '\r' := fun hl => by
    have := h _ (List.mem_of_getLast? hl)
    contradiction
  simp [contentLength, hcr]

theorem contentLength_concat {u : List Char} {c : Char} (hlf : c ≠ '\n') (hcr : c ≠ '\r')
    : contentLength (u ++ [c]) = u.length + 1 := by
  simp [contentLength, hlf, hcr]

theorem exists_lines_of_line? {d : Document} {n : Nat} {l : List Char} (h : d.line? n = some l)
    : ∃ pre post, d.lines = pre ++ l :: post ∧ pre.length = n := by
  obtain ⟨hn, rfl⟩ := List.getElem?_eq_some_iff.1 h
  refine ⟨d.lines.take n, d.lines.drop (n + 1), ?_, ?_⟩
  · rw [← List.drop_eq_getElem_cons hn]
    rw [List.take_append_drop]
  · rw [List.length_take]
    omega

theorem lineLength?_eq {d : Document} {n k : Nat} (h : d.lineLength? n = some k)
    : ∃ pre l post, d.lines = pre ++ l :: post ∧ pre.length = n ∧ contentLength l = k := by
  obtain ⟨l, hl, hk⟩ := Option.map_eq_some_iff.1 h
  obtain ⟨pre, post, hlines, hn⟩ := exists_lines_of_line? hl
  exact ⟨pre, l, post, hlines, hn, hk⟩

theorem lineLength?_lastLine (d : Document) : d.lineLength? d.lastLine = some d.lastLength := by
  unfold lineLength? line? lastLength
  rw [List.getElem?_eq_getElem d.lastLine_lt]
  rfl

theorem lineLength?_of_lines {d : Document} {pre post : List (List Char)} {l : List Char}
    (h : d.lines = pre ++ l :: post)
    : d.lineLength? pre.length = some (contentLength l) := by
  simp [lineLength?, line?, h]

theorem lineStart?_of_lines {d : Document} {pre post : List (List Char)} {l : List Char}
    (h : d.lines = pre ++ l :: post)
    : d.lineStart? pre.length = some pre.flatten.length := by
  unfold lineStart? lineCount
  rw [h]
  rw [if_pos (by simp)]
  rw [List.take_left]

theorem holds_line_lt {d : Document} {p : Position} (h : d.Holds p) : p.line < d.lineCount := by
  obtain ⟨n, hn, -⟩ := h
  obtain ⟨pre, l, post, hd, hp, -⟩ := lineLength?_eq hn
  unfold lineCount
  rw [hd]
  simp [hp]

theorem exists_lineLength {d : Document} {n : Nat} (h : n < d.lineCount)
    : ∃ k, d.lineLength? n = some k := by
  unfold lineLength? line?
  rw [List.getElem?_eq_getElem h]
  exact ⟨_, rfl⟩

theorem holds_clamp {d : Document} {p : Position} {n : Nat} (h : d.lineLength? p.line = some n)
    : d.Holds (p.clamp n) := by
  exact ⟨n, h, Nat.min_le_right _ _⟩

theorem holds_congr {d d' : Document} {p : Position} (h : d'.text = d.text) (hp : d.Holds p)
    : d'.Holds p := by
  obtain ⟨n, hn, hle⟩ := hp
  refine ⟨n, ?_, hle⟩
  unfold lineLength? line? lines at hn ⊢
  rw [h]
  exact hn

variable {d : Document} {p : Position} {before after : List Char}

section Cuts

variable (hf : ¬ Fuses before after)

include hf

theorem Splits.lines_eq (h : d.Splits p before after)
    : ∃ ls u w rest, Text.lines before = ls ++ [u] ∧ Unbroken u ∧ Text.lines after = w :: rest
        ∧ d.lines = ls ++ (u ++ w) :: rest ∧ p.line = ls.length ∧ p.column = u.length := by
  obtain ⟨htext, ls, u, hbefore, hline, hcol⟩ := h
  obtain ⟨w, rest, hafter⟩ := List.exists_cons_of_ne_nil (lines_ne_nil after)
  refine ⟨ls, u, w, rest, hbefore, ?_, hafter, ?_, hline, hcol⟩
  · cases line_cases hbefore with
    | inl hlast => exact hlast.2
    | inr hbreak => exact absurd rfl hbreak.1
  · unfold lines
    rw [htext]
    exact lines_append hf hbefore hafter

theorem Splits.index? (h : d.Splits p before after)
    : d.index? p.line p.column = some before.length := by
  obtain ⟨ls, u, w, rest, hbefore, -, -, hlines, hline, hcol⟩ := h.lines_eq hf
  have hflat : before = ls.flatten ++ u := by
    rw [← flatten_lines before]
    rw [hbefore]
    simp
  unfold Document.index?
  rw [hline]
  rw [lineStart?_of_lines hlines]
  simp [hflat, hcol]

theorem Splits.insert? (h : d.Splits p before after) (cs : List Char)
    : d.insert? p.line p.column cs
        = some { d with text := before ++ cs ++ after, dirty := true } := by
  unfold Document.insert?
  rw [h.index? hf]
  simp [h.1]

end Cuts

theorem Splits.deleteBefore? {c : Char} (hf : ¬ Fuses (before ++ [c]) after)
    (h : d.Splits p (before ++ [c]) after)
    : d.deleteBefore? p.line p.column = some { d with text := before ++ after, dirty := true } := by
  unfold Document.deleteBefore?
  rw [h.index? hf]
  simp [h.1]

theorem Splits.deleteRange? {mid : List Char} {stop : Nat} (hf : ¬ Fuses before (mid ++ after))
    (h : d.Splits p before (mid ++ after)) (hmid : mid.length = stop - p.column)
    : ∃ d', d.deleteRange? p.line p.column stop = some d' ∧ d'.text = before ++ after := by
  unfold Document.deleteRange?
  split
  · next hle =>
    have hnil : mid = [] := List.eq_nil_of_length_eq_zero (by omega)
    refine ⟨d, rfl, ?_⟩
    rw [h.1]
    rw [hnil]
    rfl
  · next hlt =>
    have hindex := h.index? hf
    unfold Document.index? at hindex
    obtain ⟨i, hi, hlen⟩ := Option.map_eq_some_iff.1 hindex
    rw [hi]
    dsimp only [Option.map_some]
    rw [h.1]
    have hstop : i + stop = (before ++ mid).length := by
      rw [List.length_append]
      omega
    rw [if_pos (by simp; omega)]
    refine ⟨_, rfl, ?_⟩
    dsimp only
    rw [hlen]
    rw [hstop]
    rw [List.take_left]
    rw [← List.append_assoc]
    rw [List.drop_left]

theorem Splits.holds (hd : FeedsOnly d.text) (h : d.Splits p before after) : d.Holds p := by
  -- what stands before the place in its line has no break, so it counts in full
  have hbefore : FeedsOnly before := by
    rw [h.1] at hd
    exact (feedsOnly_append.1 hd).1
  obtain ⟨ls, u, w, rest, -, hu, -, hlines, hline, hcol⟩ := h.lines_eq (not_fuses_of_feedsOnly hbefore)
  refine ⟨contentLength (u ++ w), ?_, ?_⟩
  · rw [hline]
    exact lineLength?_of_lines hlines
  · rw [hcol]
    cases line_cases_of_feedsOnly hd hlines with
    | inl hlast =>
      rw [contentLength_unbroken hlast.2]
      simp
    | inr hfeed =>
      obtain ⟨-, x, hx, hux⟩ := hfeed
      rw [hx]
      rw [contentLength_feed hux]
      cases List.append_eq_append_iff.1 hx with
      | inl hright =>
        obtain ⟨y, hy, -⟩ := hright
        simp [hy]
      | inr hleft =>
        obtain ⟨y, hy, hy'⟩ := hleft
        cases y with
        | nil => simp [hy]
        | cons c y =>
          -- Then the line feed would stand before the caret in its own line.
          simp only [List.cons_append, List.cons.injEq] at hy'
          rw [hy] at hu
          rw [unbroken_append, unbroken_cons] at hu
          rw [← hy'.1] at hu
          exact absurd hu.2.1 (by decide)

theorem splits_of_lines {pre post : List (List Char)} {u v : List Char}
    (h : d.lines = pre ++ (u ++ v) :: post) (hu : Unbroken u)
    : d.Splits ⟨pre.length, u.length⟩ (pre.flatten ++ u) (v ++ post.flatten) := by
  refine ⟨?_, pre, u, lines_prefix h hu, rfl, rfl⟩
  rw [← flatten_lines d.text]
  unfold lines at h
  rw [h]
  simp

theorem Holds.splits (hd : FeedsOnly d.text) (h : d.Holds p)
    : ∃ before after, d.Splits p before after := by
  obtain ⟨n, hn, hle⟩ := h
  obtain ⟨pre, l, post, hlines, hpre, hlen⟩ := lineLength?_eq hn
  -- the column lies before the line feed, if the line has one
  have hcut : ∃ u v, l = u ++ v ∧ Unbroken u ∧ p.column = u.length := by
    cases line_cases_of_feedsOnly hd hlines with
    | inl hlast =>
      rw [contentLength_unbroken hlast.2] at hlen
      refine ⟨l.take p.column, l.drop p.column, (List.take_append_drop _ _).symm, ?_, ?_⟩
      · exact fun c hc => hlast.2 c (List.mem_of_mem_take hc)
      · rw [List.length_take]
        omega
    | inr hfeed =>
      obtain ⟨-, x, rfl, hx⟩ := hfeed
      rw [contentLength_feed hx] at hlen
      refine ⟨x.take p.column, x.drop p.column ++ ['\n'], ?_, ?_, ?_⟩
      · rw [← List.append_assoc]
        rw [List.take_append_drop]
      · exact fun c hc => hx c (List.mem_of_mem_take hc)
      · rw [List.length_take]
        omega
  obtain ⟨u, v, rfl, hu, hcol⟩ := hcut
  have hsplits := splits_of_lines hlines hu
  rw [hpre, ← hcol] at hsplits
  exact ⟨_, _, hsplits⟩

theorem Splits.left (h : d.Splits p before after) {k : Nat} (hk : k ≤ p.column)
    : ∃ pre mid, before = pre ++ mid ∧ mid.length = p.column - k
        ∧ d.Splits ⟨p.line, k⟩ pre (mid ++ after) := by
  obtain ⟨htext, ls, u, hbefore, hline, hcol⟩ := h
  have hu : Unbroken u := by
    cases line_cases hbefore with
    | inl hlast => exact hlast.2
    | inr hbreak => exact absurd rfl hbreak.1
  -- the line that the place stands in is cut once more
  have hflat : before = ls.flatten ++ u.take k ++ u.drop k := by
    rw [List.append_assoc]
    rw [List.take_append_drop]
    rw [← flatten_lines before]
    rw [hbefore]
    simp
  have hlines : Text.lines before = ls ++ (u.take k ++ u.drop k) :: [] := by
    rw [List.take_append_drop]
    exact hbefore
  refine ⟨_, _, hflat, ?_, ?_, ls, u.take k, ?_, hline, ?_⟩
  · rw [List.length_drop]
    omega
  · rw [htext]
    rw [hflat]
    exact List.append_assoc _ _ _
  · exact lines_prefix hlines fun c hc => hu c (List.mem_of_mem_take hc)
  · dsimp only
    rw [List.length_take]
    omega

theorem Splits.extend {d' : Document} {cs : List Char} (h : d.Splits p before after)
    (hcs : Unbroken cs) (hd' : d'.text = before ++ cs ++ after)
    : d'.Splits ⟨p.line, p.column + cs.length⟩ (before ++ cs) after := by
  obtain ⟨-, ls, u, hbefore, hline, hcol⟩ := h
  refine ⟨hd', ls, u ++ cs, lines_append_unbroken hbefore hcs, hline, ?_⟩
  dsimp only
  rw [List.length_append]
  omega

end Document
end Workbench
