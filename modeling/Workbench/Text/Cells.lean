/-!
Texts as terminal cells: one cell for each character, with tabs that reach to the next stop.
-/

namespace Workbench.Text

/-- The cell after a character that is printed at cell `x`; a tab width of nought counts as one. -/
def nextCell (tabWidth x : Nat) (c : Char) : Nat :=
  if c = '\t' then x + (max tabWidth 1 - x % max tabWidth 1) else x + 1

def displayCol (line : List Char) (col tabWidth : Nat) : Nat :=
  (line.take col).foldl (nextCell tabWidth) 0

def fit (cs : List Char) (width : Nat) : List Char :=
  cs.take width ++ List.replicate (width - cs.length) ' '

def dropStrongMarks : List Char → List Char
  | '*' :: '*' :: cs => dropStrongMarks cs
  | c :: cs => c :: dropStrongMarks cs
  | [] => []

def plainMarkdown (markdown : List Char) : List Char :=
  (dropStrongMarks markdown).filter (· ≠ '\x60')

theorem lt_nextCell (tabWidth x : Nat) (c : Char) : x < nextCell tabWidth x c := by
  have hmod := Nat.mod_lt x (Nat.lt_of_lt_of_le Nat.one_pos (Nat.le_max_right tabWidth 1))
  unfold nextCell
  split <;> omega

@[simp] theorem length_fit (cs : List Char) (width : Nat) : (fit cs width).length = width := by
  simp [fit]
  omega

end Workbench.Text
