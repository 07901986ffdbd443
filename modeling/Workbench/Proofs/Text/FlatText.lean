import Workbench.Proofs.Text.Split
import Workbench.Text.Word

/-!
A text with one number for its caret: how many characters stand before it. Line and column are read
off the characters before the caret, and a line feed is the only line break that there is.
-/

namespace Workbench.Text

structure FlatText where
  text : List Char
  index : Nat
deriving DecidableEq, Repr

namespace FlatText

def before (f : FlatText) : List Char :=
  f.text.take f.index

def after (f : FlatText) : List Char :=
  f.text.drop f.index

def line (f : FlatText) : Nat :=
  f.before.count '\n'

def column (f : FlatText) : Nat :=
  (f.before.reverse.takeWhile (· ≠ '\n')).length

def rest (f : FlatText) : Nat :=
  (f.after.takeWhile (· ≠ '\n')).length

def place (f : FlatText) : Position :=
  ⟨f.line, f.column⟩

def lines (f : FlatText) : List (List Char) :=
  splitAt '\n' f.text

def lineStart (f : FlatText) (n : Nat) : Nat :=
  ((f.lines.take n).map (·.length + 1)).sum

def lineLength (f : FlatText) (n : Nat) : Nat :=
  (f.lines.getD n []).length

def insert (f : FlatText) (c : Char) : FlatText :=
  ⟨f.before ++ c :: f.after, f.index + 1⟩

def erase (f : FlatText) : FlatText :=
  if f.index = 0 then f else ⟨f.text.take (f.index - 1) ++ f.after, f.index - 1⟩

def append (f : FlatText) (cs : List Char) : FlatText :=
  ⟨f.text ++ cs, (f.text ++ cs).length⟩

def left (f : FlatText) : FlatText :=
  if f.column = 0 then f else { f with index := f.index - 1 }

def right (f : FlatText) : FlatText :=
  if f.rest = 0 then f else { f with index := f.index + 1 }

def toLineStart (f : FlatText) : FlatText :=
  { f with index := f.index - f.column }

def toLineEnd (f : FlatText) : FlatText :=
  { f with index := f.index + f.rest }

def toLine (f : FlatText) (n : Nat) : FlatText :=
  { f with index := f.lineStart n + min f.column (f.lineLength n) }

def up (f : FlatText) : FlatText :=
  f.toLine (f.line - 1)

def down (f : FlatText) : FlatText :=
  f.toLine (min (f.line + 1) (f.lines.length - 1))

def toLastLine (f : FlatText) : FlatText :=
  f.toLine (f.lines.length - 1)

def Valid (f : FlatText) : Prop :=
  f.index ≤ f.text.length

instance (f : FlatText) : Decidable f.Valid :=
  inferInstanceAs (Decidable (f.index ≤ f.text.length))

variable {f : FlatText} {c : Char} {n k : Nat}

theorem before_append_after (f : FlatText) : f.before ++ f.after = f.text := by
  apply List.take_append_drop

theorem length_before (h : f.Valid) : f.before.length = f.index := by
  unfold before
  rw [List.length_take]
  exact Nat.min_eq_left h

theorem place_of_splitAt {ls : List (List Char)} {u : List Char}
    (h : splitAt '\n' f.before = ls ++ [u])
    : f.place = ⟨ls.length, u.length⟩ := by
  unfold place line column
  rw [count_of_splitAt h]
  rw [takeWhile_reverse_of_splitAt h]
  rw [List.length_reverse]

theorem exists_splitAt_before (f : FlatText)
    : ∃ ls u, splitAt '\n' f.before = ls ++ [u] ∧ f.line = ls.length ∧ f.column = u.length := by
  obtain ⟨ls, u, hsplit⟩ := exists_splitAt_eq '\n' f.before
  have hplace := place_of_splitAt hsplit
  exact ⟨ls, u, hsplit, congrArg Position.line hplace, congrArg Position.column hplace⟩

theorem exists_lines (f : FlatText)
    : ∃ ls u w rest, splitAt '\n' f.before = ls ++ [u] ∧ splitAt '\n' f.after = w :: rest
      ∧ f.lines = ls ++ (u ++ w) :: rest
      ∧ f.line = ls.length ∧ f.column = u.length ∧ f.rest = w.length := by
  obtain ⟨ls, u, hbefore, hline, hcol⟩ := f.exists_splitAt_before
  obtain ⟨w, rest, hafter⟩ := List.exists_cons_of_ne_nil (splitAt_ne_nil '\n' f.after)
  refine ⟨ls, u, w, rest, hbefore, hafter, ?_, hline, hcol, ?_⟩
  · obtain ⟨heq, hu, hls⟩ := eq_closed_append hbefore
    unfold lines
    rw [← f.before_append_after]
    rw [heq]
    rw [List.append_assoc]
    rw [splitAt_closed_append hls]
    rw [splitAt_append hu hafter]
  · unfold FlatText.rest
    rw [takeWhile_of_splitAt hafter]

theorem line_lt (f : FlatText) : f.line < f.lines.length := by
  obtain ⟨ls, u, w, rest, -, -, hlines, hline, -, -⟩ := f.exists_lines
  rw [hlines, hline]
  simp

theorem lineLength_line (f : FlatText) : f.lineLength f.line = f.column + f.rest := by
  obtain ⟨ls, u, w, rest, -, -, hlines, hline, hcol, hrest⟩ := f.exists_lines
  unfold lineLength
  rw [hlines, hline, hcol, hrest]
  simp

theorem lineStart_eq (f : FlatText) (n : Nat)
    : f.lineStart n = (closed '\n' (f.lines.take n)).length := by
  rw [length_closed]
  rfl

theorem index_eq (h : f.Valid) : f.index = f.lineStart f.line + f.column := by
  obtain ⟨ls, u, w, rest, hbefore, -, hlines, hline, hcol, -⟩ := f.exists_lines
  rw [lineStart_eq]
  rw [hlines, hline, hcol]
  rw [List.take_left]
  rw [← length_before h]
  rw [(eq_closed_append hbefore).1]
  simp

theorem left_eq (h : f.Valid) : f.left = { f with index := f.index - f.column + (f.column - 1) } := by
  have hindex := index_eq h
  unfold left
  split
  · next hcol => simp [hcol]
  · next hcol =>
    have hsub : f.index - f.column + (f.column - 1) = f.index - 1 := by omega
    rw [hsub]

theorem right_eq (h : f.Valid)
    : f.right = { f with index := f.index - f.column + min (f.column + 1) (f.column + f.rest) } := by
  have hindex := index_eq h
  unfold right
  split
  · next hrest =>
    have hadd : f.index - f.column + min (f.column + 1) (f.column + f.rest) = f.index := by omega
    rw [hadd]
  · next hrest =>
    have hadd : f.index - f.column + min (f.column + 1) (f.column + f.rest) = f.index + 1 := by omega
    rw [hadd]

theorem toLineEnd_eq (h : f.Valid)
    : f.toLineEnd = { f with index := f.index - f.column + (f.column + f.rest) } := by
  have hindex := index_eq h
  unfold toLineEnd
  have hadd : f.index - f.column + (f.column + f.rest) = f.index + f.rest := by omega
  rw [hadd]

theorem lineLength_eq (hn : n < f.lines.length) : f.lineLength n = f.lines[n].length := by
  unfold lineLength
  simp [hn]

theorem exists_text_eq (hn : n < f.lines.length)
    : '\n' ∉ f.lines[n] ∧ (∀ l ∈ f.lines.take n, '\n' ∉ l)
      ∧ ∃ tail, f.text = closed '\n' (f.lines.take n) ++ (f.lines[n] ++ tail) := by
  have hlines : f.lines = f.lines.take n ++ f.lines[n] :: f.lines.drop (n + 1) := by
    rw [← List.drop_eq_getElem_cons hn]
    rw [List.take_append_drop]
  obtain ⟨bs, htext, hbs, hpre⟩ := splitAt_eq_append hlines
  obtain ⟨hrow, hlast | ⟨as, has, -⟩⟩ := splitAt_eq_cons hbs
  · refine ⟨hrow, hpre, [], ?_⟩
    rw [List.append_nil]
    rw [← hlast.1]
    exact htext
  · refine ⟨hrow, hpre, '\n' :: as, ?_⟩
    rw [← has]
    exact htext

theorem place_at (hn : n < f.lines.length) (hk : k ≤ f.lineLength n)
    : Valid ⟨f.text, f.lineStart n + k⟩ ∧ place ⟨f.text, f.lineStart n + k⟩ = ⟨n, k⟩ := by
  obtain ⟨hrow, hpre, tail, htext⟩ := exists_text_eq hn
  rw [lineLength_eq hn] at hk
  constructor
  · unfold Valid
    dsimp only
    rw [htext, lineStart_eq]
    rw [List.length_append, List.length_append]
    omega
  · have hbefore : before ⟨f.text, f.lineStart n + k⟩
        = closed '\n' (f.lines.take n) ++ f.lines[n].take k := by
      unfold before
      dsimp only
      rw [htext, lineStart_eq]
      rw [List.take_length_add_append]
      rw [List.take_append_of_le_length hk]
    have hsplit : splitAt '\n' (before ⟨f.text, f.lineStart n + k⟩)
        = f.lines.take n ++ [f.lines[n].take k] := by
      rw [hbefore]
      rw [splitAt_closed_append hpre]
      rw [splitAt_of_not_mem]
      exact fun hmem => hrow (List.mem_of_mem_take hmem)
    rw [place_of_splitAt hsplit]
    rw [List.length_take, List.length_take]
    rw [Nat.min_eq_left (Nat.le_of_lt hn), Nat.min_eq_left hk]

theorem place_concat {g : FlatText} (h : g.before = f.before ++ [c])
    : g.place = if c = '\n' then ⟨f.line + 1, 0⟩ else ⟨f.line, f.column + 1⟩ := by
  unfold place line column
  rw [h]
  split
  · next hc => simp [hc]
  · next hc => simp [hc]

theorem valid_insert (h : f.Valid) : (f.insert c).Valid := by
  have := length_before h
  unfold Valid insert
  simp
  omega

theorem before_insert (h : f.Valid) : (f.insert c).before = f.before ++ [c] := by
  unfold insert before
  dsimp only
  rw [← List.singleton_append, ← List.append_assoc]
  apply List.take_left'
  rw [List.length_append]
  exact congrArg (· + 1) (length_before h)

theorem valid_erase (h : f.Valid) : f.erase.Valid := by
  unfold Valid at h
  unfold erase
  split
  · exact h
  · unfold Valid after
    simp
    omega

theorem before_erase (h : f.Valid) (hindex : f.index ≠ 0)
    : ∃ c, f.before = f.erase.before ++ [c] := by
  unfold Valid at h
  have hlt : f.index - 1 < f.text.length := by omega
  refine ⟨f.text[f.index - 1], ?_⟩
  unfold erase
  rw [if_neg hindex]
  unfold before
  dsimp only
  rw [List.take_append_of_le_length (by simp; omega)]
  rw [List.take_take]
  rw [Nat.min_self]
  rw [List.take_append_getElem]
  congr 1
  omega

theorem mem_of_mem_erase (h : c ∈ f.erase.text) : c ∈ f.text := by
  unfold erase at h
  split at h
  · exact h
  · rw [List.mem_append] at h
    cases h with
    | inl hbefore => exact List.mem_of_mem_take hbefore
    | inr hafter => exact List.mem_of_mem_drop hafter

theorem lineLength_erase (h : f.before = f.erase.before ++ ['\n'])
    : f.lineLength f.erase.line = f.erase.column := by
  obtain ⟨ls, u, hsplit, hline, hcol⟩ := f.erase.exists_splitAt_before
  obtain ⟨heq, hu, hls⟩ := eq_closed_append hsplit
  have hlines : f.lines = ls ++ u :: splitAt '\n' f.after := by
    unfold lines
    rw [← f.before_append_after]
    rw [h, heq]
    rw [List.append_assoc, List.append_assoc]
    rw [splitAt_closed_append hls]
    rw [List.singleton_append]
    rw [splitAt_append_sep hu]
  unfold lineLength
  rw [hlines, hline, hcol]
  simp

theorem place_of_end (h : f.after = [])
    : f.line = f.lines.length - 1 ∧ f.column = f.lineLength f.line := by
  obtain ⟨ls, u, w, rest, -, hafter, hlines, hline, hcol, -⟩ := f.exists_lines
  rw [h] at hafter
  cases hafter
  unfold lineLength
  rw [hlines, hline, hcol]
  simp

end FlatText

end Workbench.Text
