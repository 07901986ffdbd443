import Workbench.Text.Trim

/-!
Two ways to cut a text into lines. A document knows eight line breaks and keeps them in its lines, so
that the lines concatenate to the text. Plain output knows line feeds alone, with or without a carriage
return before them, and drops them.
-/

namespace Workbench.Text

def isLineBreak (c : Char) : Bool :=
  c = '\n' || c = '\r' || c = '\x0b' || c = '\x0c' || c = '\u0085' || c = '\u2028' || c = '\u2029'

def consFirst {α : Type} (a : α) : List (List α) → List (List α)
  | [] => [[a]]
  | l :: ls => (a :: l) :: ls

/--
The lines of a document, each with its break. A carriage return and a line feed after it are one break,
and a text that ends in a break has an empty last line.
-/
def lines : List Char → List (List Char)
  | [] => [[]]
  | '\r' :: '\n' :: cs => ['\r', '\n'] :: lines cs
  | c :: cs => if isLineBreak c then [c] :: lines cs else consFirst c (lines cs)

def isFeedOrReturn (c : Char) : Bool :=
  c = '\n' || c = '\r'

def content (line : List Char) : List Char :=
  dropTrailing isFeedOrReturn line

def splitAt {α : Type} [DecidableEq α] (sep : α) : List α → List (List α)
  | [] => [[]]
  | a :: as => if a = sep then [] :: splitAt sep as else consFirst a (splitAt sep as)

/--
The rows of a plain text: each ends before a line feed, or before a carriage return and a line feed. What
follows the last line feed is a row only if it is not empty.
-/
def rowsBy {α : Type} [DecidableEq α] (feed ret : α) : List α → List (List α)
  | [] => []
  | [a] => if a = feed then [[]] else [[a]]
  | a :: b :: as =>
    if a = feed then [] :: rowsBy feed ret (b :: as)
    else if a = ret ∧ b = feed then [] :: rowsBy feed ret as
    else consFirst a (rowsBy feed ret (b :: as))

def rows (cs : List Char) : List (List Char) :=
  rowsBy '\n' '\r' cs

theorem consFirst_ne_nil {α : Type} (a : α) (ls : List (List α)) : consFirst a ls ≠ [] := by
  cases ls <;> simp [consFirst]

theorem flatten_consFirst {α : Type} (a : α) (ls : List (List α)) :
    (consFirst a ls).flatten = a :: ls.flatten := by
  cases ls <;> simp [consFirst]

theorem lines_ne_nil (cs : List Char) : lines cs ≠ [] := by
  fun_induction lines cs with
  | case1 => simp
  | case2 => simp
  | case3 => simp
  | case4 => exact consFirst_ne_nil _ _

@[simp] theorem flatten_lines (cs : List Char) : (lines cs).flatten = cs := by
  fun_induction lines cs with
  | case1 => rfl
  | case2 cs ih => simp [ih]
  | case3 c cs _ _ ih => simp [ih]
  | case4 c cs _ _ ih => simp [flatten_consFirst, ih]

end Workbench.Text
