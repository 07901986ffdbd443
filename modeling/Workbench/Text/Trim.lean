import Workbench.Unicode.WhiteSpace

/-!
Texts without the characters of a class at their ends.
-/

namespace Workbench.Text

def dropTrailing (p : Char → Bool) (cs : List Char) : List Char :=
  (cs.reverse.dropWhile p).reverse

def trim (cs : List Char) : List Char :=
  dropTrailing Unicode.isWhiteSpace (cs.dropWhile Unicode.isWhiteSpace)

def trimString (s : String) : String :=
  String.ofList (trim s.toList)

def dropTrailingSlashes (s : String) : String :=
  String.ofList (dropTrailing (· == '/') s.toList)

@[simp] theorem dropTrailing_nil (p : Char → Bool) : dropTrailing p [] = [] := rfl

theorem dropTrailing_isPrefix (p : Char → Bool) (cs : List Char) : dropTrailing p cs <+: cs := by
  have h : cs.reverse.dropWhile p <:+ cs.reverse := List.dropWhile_suffix p
  simpa [dropTrailing] using List.reverse_prefix.2 h

theorem getLast?_dropTrailing {p : Char → Bool} {cs : List Char} {c : Char}
    (h : (dropTrailing p cs).getLast? = some c) : p c = false := by
  have hnot := List.head?_dropWhile_not p cs.reverse
  unfold dropTrailing at h
  rw [List.getLast?_reverse] at h
  rw [h] at hnot
  exact hnot

theorem head?_dropTrailing {p : Char → Bool} {cs : List Char} {c : Char}
    (h : (dropTrailing p cs).head? = some c) : cs.head? = some c := by
  obtain ⟨rest, hrest⟩ := dropTrailing_isPrefix p cs
  rw [← hrest]
  rw [List.head?_append]
  rw [h]
  rfl

theorem head?_trim {cs : List Char} {c : Char} (h : (trim cs).head? = some c)
    : Unicode.isWhiteSpace c = false := by
  have hnot := List.head?_dropWhile_not Unicode.isWhiteSpace cs
  rw [head?_dropTrailing h] at hnot
  exact hnot

theorem trim_append_of_white {cs ws : List Char} (hws : ∀ c ∈ ws, Unicode.isWhiteSpace c)
    : trim (cs ++ ws) = trim cs := by
  unfold trim
  rw [List.dropWhile_append]
  split
  · next hempty =>
    rw [List.isEmpty_iff] at hempty
    rw [hempty]
    rw [← List.append_nil ws]
    rw [List.dropWhile_append_of_pos hws]
    rfl
  · unfold dropTrailing
    rw [List.reverse_append]
    rw [List.dropWhile_append_of_pos]
    intro c hc
    exact hws c (List.mem_reverse.1 hc)

end Workbench.Text
